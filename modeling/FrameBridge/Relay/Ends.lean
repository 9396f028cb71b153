import FrameBridge.Relay.Frame

/-!
# The ends of a session

A session stands between a client, which sends and takes frames, and an
upstream, which sends and takes bytes.  Each call to an end is done, fails or
blocks.  How the calls go is not up to the session: an end has a mode for each
kind of call, limits on what it takes, and a queue of what it has sent and the
session has not taken yet.
-/

namespace FrameBridge

/-- What a call comes to.  A failed call has the text of the error, and a blocked one
cannot go on for now. -/
inductive Outcome (α : Type) where
  | done (value : α)
  | failed (text : String)
  | blocked

/-- How calls of one kind go.  A `zero` call is done, but a write takes nothing. -/
inductive Mode where
  | ok
  | blocked
  | failing
  | zero
  deriving DecidableEq

namespace Mode

/-- What a call of a named kind comes to. -/
def outcome (name : String) : Mode → Outcome Unit
  | ok => .done ()
  | blocked => .blocked
  | failing => .failed (name ++ " failed")
  | zero => .done ()

end Mode

section Client

/-- An item of the client's stream. -/
inductive ClientItem where
  | frame (frame : Frame)
  | failure (text : String)
  deriving DecidableEq

inductive ClientEvent where
  | item (item : ClientItem)
  | ended

/-- The client's end.  After it has ended, no items follow those of the inbox.  The
room is the number of frames that can still be sent, if there is a limit, and the
frames that were sent are the ones taken, in order. -/
structure ClientEnd where
  inbox : List ClientItem := []
  ended : Bool := false
  readyMode : Mode := .ok
  sendMode : Mode := .ok
  flushMode : Mode := .ok
  closeMode : Mode := .ok
  room : Option Nat := none
  taken : List Frame := []
  flushes : Nat := 0
  closes : Nat := 0

namespace ClientEnd

/-- Takes the next item of the stream. -/
def next (c : ClientEnd) : Outcome ClientEvent × ClientEnd :=
  match c.inbox with
  | item :: rest => (.done (.item item), { c with inbox := rest })
  | [] => if c.ended then (.done .ended, c) else (.blocked, c)

/-- Asks whether a frame can be sent.  Without room there is no telling how it
goes. -/
def ready (c : ClientEnd) : Outcome Unit :=
  if c.room = some 0 then .blocked else c.readyMode.outcome "client_ready"

/-- Sends a frame.  A frame whose sending fails is lost. -/
def send (c : ClientEnd) (frame : Frame) : Outcome Unit × ClientEnd :=
  match c.sendMode with
  | .failing => (.failed "client_send failed", c)
  | _ => (.done (), { c with taken := c.taken ++ [frame], room := c.room.map (· - 1) })

def flush (c : ClientEnd) : Outcome Unit × ClientEnd :=
  match c.flushMode.outcome "client_flush" with
  | .blocked => (.blocked, c)
  | outcome => (outcome, { c with flushes := c.flushes + 1 })

def close (c : ClientEnd) : Outcome Unit × ClientEnd :=
  match c.closeMode.outcome "client_close" with
  | .blocked => (.blocked, c)
  | outcome => (outcome, { c with closes := c.closes + 1 })

end ClientEnd
end Client

section Upstream

/-- An item of what the upstream sends.  The bytes of a chunk arrive together, and a
chunk without bytes stands for the end. -/
inductive UpstreamItem where
  | chunk (bytes : List UInt8)
  | failure (text : String)
  deriving DecidableEq

/-- The upstream's end.  After it has ended, no items follow those of the inbox.  One
write takes no more than `perWrite` bytes, and all writes that are to come no more
than there is room, if there are limits. -/
structure UpstreamEnd where
  inbox : List UpstreamItem := []
  ended : Bool := false
  writeMode : Mode := .ok
  flushMode : Mode := .ok
  shutdownMode : Mode := .ok
  perWrite : Option Nat := none
  room : Option Nat := none
  written : List UInt8 := []
  flushes : Nat := 0
  shutdowns : Nat := 0

namespace UpstreamEnd

/-- Reads at most a number of bytes of the next chunk.  No bytes stand for the
end. -/
def read (u : UpstreamEnd) (limit : Nat) : Outcome (List UInt8) × UpstreamEnd :=
  match u.inbox with
  | [] => if u.ended then (.done [], u) else (.blocked, u)
  | .failure text :: rest => (.failed text, { u with inbox := rest })
  | .chunk bytes :: rest =>
      let left := bytes.drop limit
      (.done (bytes.take limit),
        { u with inbox := if left = [] then rest else .chunk left :: rest })

/-- The number of bytes that a limit leaves of some number. -/
def upTo (limit : Option Nat) (n : Nat) : Nat :=
  match limit with
  | some most => min most n
  | none => n

/-- Writes bytes, and returns how many of them were taken. -/
def write (u : UpstreamEnd) (bytes : List UInt8) : Outcome Nat × UpstreamEnd :=
  match u.writeMode with
  | .blocked => (.blocked, u)
  | .failing => (.failed "up_write failed", u)
  | .zero => (.done 0, u)
  | .ok =>
      if u.room = some 0 then
        (.blocked, u)
      else
        let n := upTo u.room (upTo (u.perWrite.map (max 1)) bytes.length)
        (.done n, { u with written := u.written ++ bytes.take n, room := u.room.map (· - n) })

def flush (u : UpstreamEnd) : Outcome Unit × UpstreamEnd :=
  match u.flushMode.outcome "up_flush" with
  | .blocked => (.blocked, u)
  | outcome => (outcome, { u with flushes := u.flushes + 1 })

def shutdown (u : UpstreamEnd) : Outcome Unit × UpstreamEnd :=
  match u.shutdownMode.outcome "up_shutdown" with
  | .blocked => (.blocked, u)
  | outcome => (outcome, { u with shutdowns := u.shutdowns + 1 })

end UpstreamEnd
end Upstream

end FrameBridge
