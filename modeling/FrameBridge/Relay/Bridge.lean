import FrameBridge.Metrics
import FrameBridge.Relay.Ends
import FrameBridge.Relay.Stats

/-!
# Bridges

A bridge is the two ends of a session with what lies between them: a slot that
holds one frame for the client, and what was counted.

What an end does by itself is a stimulus.  Stimuli come at any time.
-/

namespace FrameBridge

/-- Two ends, and what lies between them.  The slot has a frame that waits to be
handed to the client, and a frame has at most `bufferSize` bytes. -/
structure Bridge where
  bufferSize : Nat
  client : ClientEnd := {}
  upstream : UpstreamEnd := {}
  slot : Option Frame := none
  stats : Stats := {}
  metrics : Metrics := {}

namespace Bridge

/-- Counts bytes that were moved in a direction. -/
def record (b : Bridge) (direction : Direction) (n : Nat) : Bridge :=
  { b with
    stats := b.stats.record direction (UInt64.ofNat n)
    metrics := b.metrics.add (.bytes direction) (UInt64.ofNat n) }

/-- How many bytes one read asks for. -/
def readLimit (b : Bridge) : Nat :=
  max b.bufferSize 1

/--
Hands the frame in the slot to the client.  The frame stays in the slot until
the client is ready for it.
-/
def handOver (b : Bridge) : Outcome Unit × Bridge :=
  match b.slot with
  | none => (.done (), b)
  | some frame =>
      match b.client.ready with
      | .done () =>
          let (outcome, client) := b.client.send frame
          (outcome, { b with client := client, slot := none })
      | outcome => (outcome, b)

end Bridge

/-- Something that a mode can be set for. -/
inductive CallKind where
  | clientReady
  | clientSend
  | clientFlush
  | clientClose
  | upstreamWrite
  | upstreamFlush
  | upstreamShutdown
  deriving DecidableEq

/-- Something that a limit can be set for: how many frames the client still takes, and
how many bytes the upstream takes in one write and all in all. -/
inductive LimitKind where
  | clientRoom
  | perWrite
  | upstreamRoom
  deriving DecidableEq

/-- What an end does by itself: it sends items, its stream ends, and calls go another
way from now on or have another limit. -/
inductive Stimulus where
  | clientItems (items : List ClientItem)
  | clientEnd
  | upstreamItem (item : UpstreamItem)
  | upstreamEnd
  | mode (kind : CallKind) (mode : Mode)
  | limit (kind : LimitKind) (limit : Option Nat)

namespace Bridge

def setMode (b : Bridge) (mode : Mode) : CallKind → Bridge
  | .clientReady => { b with client.readyMode := mode }
  | .clientSend => { b with client.sendMode := mode }
  | .clientFlush => { b with client.flushMode := mode }
  | .clientClose => { b with client.closeMode := mode }
  | .upstreamWrite => { b with upstream.writeMode := mode }
  | .upstreamFlush => { b with upstream.flushMode := mode }
  | .upstreamShutdown => { b with upstream.shutdownMode := mode }

def setLimit (b : Bridge) (limit : Option Nat) : LimitKind → Bridge
  | .clientRoom => { b with client.room := limit }
  | .perWrite => { b with upstream.perWrite := limit }
  | .upstreamRoom => { b with upstream.room := limit }

def stimulate (b : Bridge) : Stimulus → Bridge
  | .clientItems items => { b with client.inbox := b.client.inbox ++ items }
  | .clientEnd => { b with client.ended := true }
  | .upstreamItem item => { b with upstream.inbox := b.upstream.inbox ++ [item] }
  | .upstreamEnd => { b with upstream.ended := true }
  | .mode kind mode => b.setMode mode kind
  | .limit kind limit => b.setLimit limit kind

end Bridge

section Work

/-- An upper bound on the number of steps that an item of the client causes. -/
def ClientItem.work : ClientItem → Nat
  | .frame sent =>
      match sent.content with
      | .payload data => data.length + 3
      | _ => 1
  | .failure _ => 1

/-- An upper bound on the number of steps that an item of the upstream causes. -/
def UpstreamItem.work : UpstreamItem → Nat
  | .chunk bytes => 3 * bytes.length + 1
  | .failure _ => 1

/-- An upper bound on the number of steps that items of the client cause. -/
def clientWork : List ClientItem → Nat
  | [] => 0
  | item :: rest => item.work + clientWork rest

/-- An upper bound on the number of steps that items of the upstream cause. -/
def upstreamWork : List UpstreamItem → Nat
  | [] => 0
  | item :: rest => item.work + upstreamWork rest

/-- An upper bound on the number of steps that both pumps can make without a
stimulus. -/
def Bridge.pending (b : Bridge) : Nat :=
  clientWork b.client.inbox + upstreamWork b.upstream.inbox

end Work
end FrameBridge
