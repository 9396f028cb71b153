import FrameBridge.Relay.CloseReason

/-!
# The latch of a session

The latch fires once, with the reason of the trigger that came first.  Those
who wait for it are released once it has fired, also if they begin to wait
afterwards.

Firing takes two steps: the reason is recorded if there is none yet, and then
whoever recorded it publishes that the latch has fired.  `trigger` is both
steps in a row.
-/

namespace FrameBridge

/-- A latch: the reason of the first trigger, and whether it was published that the
latch has fired. -/
structure Latch where
  reason : Option CloseReason := none
  fired : Bool := false
  deriving DecidableEq

namespace Latch

/-- Records a reason; false if there was one already. -/
def record (latch : Latch) (reason : CloseReason) : Bool × Latch :=
  match latch.reason with
  | some _ => (false, latch)
  | none => (true, { latch with reason := some reason })

def publish (latch : Latch) : Latch :=
  { latch with fired := true }

/-- Fires the latch; false if it had fired before. -/
def trigger (latch : Latch) (reason : CloseReason) : Bool × Latch :=
  match latch.record reason with
  | (true, latch) => (true, latch.publish)
  | (false, latch) => (false, latch)

end Latch

/-- A latch with those who wait for it, numbered in the order in which they began to
wait.  Some of those who started to wait are still waiting. -/
structure WaitedLatch where
  latch : Latch := {}
  started : Nat := 0
  waiting : List Nat := []

namespace WaitedLatch

def trigger (w : WaitedLatch) (reason : CloseReason) : Bool × WaitedLatch :=
  let (won, latch) := w.latch.trigger reason
  (won, { w with latch := latch })

/-- Begins to wait, and returns the number of the waiter. -/
def wait (w : WaitedLatch) : Nat × WaitedLatch :=
  (w.started, { w with started := w.started + 1, waiting := w.waiting ++ [w.started] })

/-- Releases those who wait, if the latch has fired. -/
def poll (w : WaitedLatch) : List Nat × WaitedLatch :=
  if w.latch.fired then (w.waiting, { w with waiting := [] }) else ([], w)

end WaitedLatch
end FrameBridge
