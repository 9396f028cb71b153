import FrameBridge.Relay.Latch

/-!
# Runs of a latch

Any number of triggers and waiters share a latch.  Each of them makes its steps
one at a time, and between two of its steps there can be steps of the others.

A trigger records its reason and then, if it was the one whose reason was
recorded, publishes that the latch has fired.  A waiter begins to wait, and is
released when it looks at the latch after this was published.
-/

namespace FrameBridge

/-- Where a trigger stands: before its first step, when its reason was recorded, or
after it has returned whether it was. -/
inductive TriggerPhase where
  | ready
  | recorded
  | returned (won : Bool)
  deriving DecidableEq

structure LatchTrigger where
  reason : CloseReason
  phase : TriggerPhase := .ready
  deriving DecidableEq

/-- Where a waiter stands, and what it saw as the reason once it was released. -/
inductive LatchWaiter where
  | ready
  | waiting
  | released (seen : Option CloseReason)
  deriving DecidableEq

/-- A latch with all who share it. -/
structure LatchRun where
  latch : Latch := {}
  triggers : List LatchTrigger
  waiters : List LatchWaiter
  deriving DecidableEq

/-- Who makes the next step. -/
inductive LatchMove where
  | trigger (index : Nat)
  | waiter (index : Nat)
  deriving DecidableEq

namespace LatchTrigger

/-- The next step of a trigger; none if it has returned. -/
def step? (t : LatchTrigger) (latch : Latch) : Option (LatchTrigger × Latch) :=
  match t.phase with
  | .ready =>
      match latch.record t.reason with
      | (true, latch) => some ({ t with phase := .recorded }, latch)
      | (false, latch) => some ({ t with phase := .returned false }, latch)
  | .recorded => some ({ t with phase := .returned true }, latch.publish)
  | .returned _ => none

end LatchTrigger

namespace LatchWaiter

/-- The next step of a waiter; none if it has to wait on, or was released. -/
def step? (latch : Latch) : LatchWaiter → Option LatchWaiter
  | .ready => some .waiting
  | .waiting => if latch.fired then some (.released latch.reason) else none
  | .released _ => none

end LatchWaiter

namespace LatchRun

/-- A latch that has not fired, with triggers for some reasons and some number
of waiters. -/
def init (reasons : List CloseReason) (waiters : Nat) : LatchRun :=
  { triggers := reasons.map fun reason => { reason := reason }
    waiters := List.replicate waiters .ready }

/-- One step; none if whoever should make it cannot. -/
def step? (r : LatchRun) : LatchMove → Option LatchRun
  | .trigger i => do
      let t ← r.triggers[i]?
      let (t, latch) ← t.step? r.latch
      return { r with latch := latch, triggers := r.triggers.set i t }
  | .waiter i => do
      let w ← r.waiters[i]?
      let w ← w.step? r.latch
      return { r with waiters := r.waiters.set i w }

def run? (r : LatchRun) (moves : List LatchMove) : Option LatchRun :=
  moves.foldlM step? r

end LatchRun
end FrameBridge
