import FrameBridge.Relay.Latch
import FrameBridge.Relay.Pump

/-!
# Sessions

A session runs both pumps over its two ends until one of them ends.  That pump
fires the latch, which interrupts the other pump.  The session then closes:
first the client, with a close frame and within five seconds, then the
upstream, within another five seconds.

A session is a state and a set of moves.  Which of the moves that are possible
comes next is left open, so that a statement about every sequence of moves
holds for every way in which the pumps are scheduled.  `settle` makes moves in
a fixed order until none is possible.
-/

namespace FrameBridge

/-- Where the closing of the client stands.  A frame that was left in the slot is
handed over before the close frame, and the client's end is closed after the
close frame was flushed. -/
inductive ClientStep where
  | clearing
  | handing
  | flushing
  | closing
  deriving DecidableEq

/-- The phase of a session.  A phase of closing has begun at some time. -/
inductive Phase where
  | waiting
  | relaying (inbound : Inbound) (outbound : Outbound)
  | closingClient (step : ClientStep) (since : Nat)
  | closingUpstream (since : Nat)
  | closed

/-- What is left to say of a session that is done. -/
structure Summary where
  reason : CloseReason
  bytesUp : UInt64
  bytesDown : UInt64
  deriving DecidableEq

/-- A session, at some time in milliseconds.  Once it is done, it has a summary. -/
structure Session where
  bridge : Bridge
  latch : Latch := {}
  phase : Phase := .waiting
  clock : Nat := 0
  summary : Option Summary := none

/-- A move of a session.  A pump is interrupted because the latch has fired, closing
begins when no pump is running any more, and a phase of closing expires when it
took too long. -/
inductive Move where
  | start
  | pump (direction : Direction)
  | interrupt (direction : Direction)
  | beginClosing
  | closeClient
  | closeUpstream
  | expire
  deriving DecidableEq

namespace Session

/-- How long each phase of closing may take, in milliseconds. -/
def closingLimit : Nat := 5000

/-- The frame that tells the client why a session closes. -/
def closeFrame (reason : CloseReason) : Frame :=
  .close (some (reason.code, reason.label))

/-- The reason for which a session closes. -/
def reason (s : Session) : CloseReason :=
  s.latch.reason.getD .clientClosed

/-- Enters a state. -/
def enter (s : Session) (state : SessionState) : Session :=
  { s with bridge.stats := s.bridge.stats.setState state }

section Relaying

def start (s : Session) : Option Session :=
  match s.phase with
  | .waiting =>
      some
        { s.enter .opened with
          phase := .relaying .receiving .reading
          bridge.metrics := s.bridge.metrics.add .sessionsTotal 1 }
  | _ => none

/-- Fires the latch if a pump has ended. -/
def fire (s : Session) (direction : Direction) : Option PumpResult → Session
  | some result =>
      { s with latch := (s.latch.trigger (CloseReason.ofResult direction result)).2 }
  | none => s

/-- Lets a pump make a step.  If that ends the pump, the latch fires. -/
def pump (s : Session) : Direction → Option Session
  | .inbound =>
      match s.phase with
      | .relaying inbound outbound => do
          let (inbound, bridge) ← inbound.step s.bridge
          return { s with phase := .relaying inbound outbound, bridge := bridge }.fire
            .inbound inbound.result?
      | _ => none
  | .outbound =>
      match s.phase with
      | .relaying inbound outbound => do
          let (outbound, bridge) ← outbound.step s.bridge
          return { s with phase := .relaying inbound outbound, bridge := bridge }.fire
            .outbound outbound.result?
      | _ => none

/-- Interrupts a pump that is running after the latch has fired. -/
def interrupt (s : Session) (direction : Direction) : Option Session :=
  match s.phase, direction with
  | .relaying inbound outbound, .inbound =>
      if s.latch.fired && inbound.isRunning then
        some { s with phase := .relaying .interrupted outbound }
      else
        none
  | .relaying inbound outbound, .outbound =>
      if s.latch.fired && outbound.isRunning then
        some { s with phase := .relaying inbound .interrupted }
      else
        none
  | _, _ => none

end Relaying

section Closing

/-- Begins to close once no pump is running. -/
def beginClosing (s : Session) : Option Session :=
  match s.phase with
  | .relaying inbound outbound =>
      if inbound.isRunning || outbound.isRunning then
        none
      else
        some { s.enter .closing with phase := .closingClient .clearing s.clock }
  | _ => none

/-- Goes on to shut the upstream down. -/
def leaveClient (s : Session) : Session :=
  { s with phase := .closingUpstream s.clock }

/-- Makes the next call of closing the client.  If the close frame cannot be
sent, the client's end is closed all the same. -/
def closeClient (s : Session) : Option Session :=
  match s.phase with
  | .closingClient .clearing since =>
      match s.bridge.handOver with
      | (.done (), bridge) =>
          some
            { s with
              bridge := { bridge with slot := some (closeFrame s.reason) }
              phase := .closingClient .handing since }
      | (.failed _, bridge) =>
          some { s with bridge := bridge, phase := .closingClient .closing since }
      | (.blocked, _) => none
  | .closingClient .handing since =>
      match s.bridge.handOver with
      | (.done (), bridge) =>
          some { s with bridge := bridge, phase := .closingClient .flushing since }
      | (.failed _, bridge) =>
          some { s with bridge := bridge, phase := .closingClient .closing since }
      | (.blocked, _) => none
  | .closingClient .flushing since =>
      match s.bridge.client.flush with
      | (.blocked, _) => none
      | (_, client) =>
          some { s with bridge.client := client, phase := .closingClient .closing since }
  | .closingClient .closing _ =>
      match s.bridge.slot with
      | some _ =>
          match s.bridge.handOver with
          | (.done (), bridge) => some { s with bridge := bridge }
          | (.failed _, bridge) => some { s with bridge := bridge }.leaveClient
          | (.blocked, _) => none
      | none =>
          match s.bridge.client.close with
          | (.blocked, _) => none
          | (_, client) => some { s with bridge.client := client }.leaveClient
  | _ => none

/-- Enters the last phase, with a summary. -/
def finish (s : Session) : Session :=
  let s := s.enter .closed
  { s with
    phase := .closed
    bridge.metrics := s.bridge.metrics.add (.sessionDuration s.reason) 1
    summary := some
      { reason := s.reason
        bytesUp := s.bridge.stats.bytesUp
        bytesDown := s.bridge.stats.bytesDown } }

def closeUpstream (s : Session) : Option Session :=
  match s.phase with
  | .closingUpstream _ =>
      match s.bridge.upstream.shutdown with
      | (.blocked, _) => none
      | (_, upstream) => some { s with bridge.upstream := upstream }.finish
  | _ => none

/-- Gives up on a call of closing that blocks, once its phase took too long. -/
def expire (s : Session) : Option Session :=
  match s.phase with
  | .closingClient _ since =>
      if s.closeClient.isNone && since + closingLimit ≤ s.clock then some s.leaveClient else none
  | .closingUpstream since =>
      if s.closeUpstream.isNone && since + closingLimit ≤ s.clock then some s.finish else none
  | _ => none

end Closing

def step (s : Session) : Move → Option Session
  | .start => s.start
  | .pump direction => s.pump direction
  | .interrupt direction => s.interrupt direction
  | .beginClosing => s.beginClosing
  | .closeClient => s.closeClient
  | .closeUpstream => s.closeUpstream
  | .expire => s.expire

def stimulate (s : Session) (stimulus : Stimulus) : Session :=
  { s with bridge := s.bridge.stimulate stimulus }

def advance (s : Session) (ms : Nat) : Session :=
  { s with clock := s.clock + ms }

section Settling

/-- The moves of a session that was started, in the order in which they are
tried. -/
def moves : List Move :=
  [.interrupt .inbound, .interrupt .outbound, .pump .inbound, .pump .outbound, .beginClosing,
   .closeClient, .closeUpstream, .expire]

/-- The session after the first move that is possible. -/
def next? (s : Session) : Option Session :=
  moves.findSome? s.step

/-- An upper bound on the number of moves without a stimulus. -/
def remaining (s : Session) : Nat :=
  s.bridge.pending +
    match s.phase with
    | .waiting => 0
    | .relaying inbound outbound => inbound.remaining + outbound.remaining + 10
    | .closingClient _ _ => 8
    | .closingUpstream _ => 1
    | .closed => 0

def settleFor : Nat → Session → Session
  | 0, s => s
  | fuel + 1, s =>
      match s.next? with
      | some s => settleFor fuel s
      | none => s

/-- Makes moves until none is possible. -/
def settle (s : Session) : Session :=
  settleFor s.remaining s

end Settling

end Session
end FrameBridge
