import FrameBridge.Server.Tracker

/-!
# Handlers that share a tracker

Any number of request handlers accept and release sessions on one tracker.
Each of them makes its steps one at a time, and between two of its steps there
can be steps of the others.

To accept a session, a handler takes a slot, draws a number, makes the entry,
counts the entries and publishes what it counted.  To release it, the handler
removes the entry, counts the entries, publishes what it counted and gives the
slot back.
-/

namespace FrameBridge

/-- Where a handler stands.  The phase names the step that it made last; a handler
that is leaving published what it counted and still has the slot. -/
inductive HandlerPhase where
  | idle
  | slotTaken
  | numbered (id : SessionId)
  | entered (id : SessionId)
  | counted (id : SessionId) (count : Nat)
  | holding (id : SessionId)
  | removed
  | recounted (count : Nat)
  | leaving
  deriving DecidableEq

namespace HandlerPhase

/-- A handler at rest is neither accepting nor releasing a session. -/
def isAtRest : HandlerPhase → Bool
  | idle => true
  | holding _ => true
  | _ => false

/-- A handler that has a slot. -/
def hasSlot : HandlerPhase → Bool
  | idle => false
  | _ => true

/-- The number of the session whose entry the handler made and did not remove. -/
def entryId? : HandlerPhase → Option SessionId
  | entered id => some id
  | counted id _ => some id
  | holding id => some id
  | _ => none

end HandlerPhase

structure Handler where
  peer : SocketAddress
  target : Target
  phase : HandlerPhase := .idle

namespace Handler

/-- The next step of a handler.  A handler that finds no free slot stays idle. -/
def step (h : Handler) (t : Tracker) : Handler × Tracker :=
  match h.phase with
  | .idle =>
      match t.takeSlot with
      | (true, t) => ({ h with phase := .slotTaken }, t)
      | (false, t) => (h, t)
  | .slotTaken =>
      let (id, t) := t.drawId
      ({ h with phase := .numbered id }, t)
  | .numbered id =>
      ({ h with phase := .entered id }, t.insert { id := id, peer := h.peer, target := h.target })
  | .entered id => ({ h with phase := .counted id t.size }, t)
  | .counted id count => ({ h with phase := .holding id }, t.publish count)
  | .holding id => ({ h with phase := .removed }, t.remove id)
  | .removed => ({ h with phase := .recounted t.size }, t)
  | .recounted count => ({ h with phase := .leaving }, t.publish count)
  | .leaving => ({ h with phase := .idle }, t.freeSlot)

end Handler

/-- A tracker with the handlers that share it. -/
structure Handlers where
  tracker : Tracker
  handlers : List Handler

namespace Handlers

/-- Idle handlers on a tracker without sessions; none if there cannot be so
many slots. -/
def init?
    (limit : Nat)
    (requests : List (SocketAddress × Target))
    (layout : Layout := .newestFirst) : Option Handlers :=
  (Tracker.ofLimit? limit layout).map fun tracker =>
    { tracker := tracker
      handlers := requests.map fun (peer, target) => { peer := peer, target := target } }

/-- A step of the handler with an index; none if there is no such handler. -/
def step? (s : Handlers) (index : Nat) : Option Handlers := do
  let h ← s.handlers[index]?
  let (h, tracker) := h.step s.tracker
  return { tracker := tracker, handlers := s.handlers.set index h }

/-- Steps of the handlers with these indices, in order. -/
def run? (s : Handlers) (schedule : List Nat) : Option Handlers :=
  schedule.foldlM step? s

/-- No handler is accepting or releasing a session. -/
def isAtRest (s : Handlers) : Bool :=
  s.handlers.all fun h => h.phase.isAtRest

/-- The number of handlers that have a slot. -/
def slotCount (s : Handlers) : Nat :=
  s.handlers.countP fun h => h.phase.hasSlot

end Handlers
end FrameBridge
