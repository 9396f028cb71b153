/-!
# The shutdown signal

Whoever has to know of a shutdown subscribes, and receives one signal for each
time that the shutdown is triggered afterwards.  Only the newest signal is
kept: a receiver that did not take older ones in time is told how many it
missed, and then gets the newest.

There can be many handles on one shutdown, and it does not matter which of
them is used.
-/

namespace FrameBridge

/-- What a receiver gets when it looks for a signal.  One that missed signals is told
how many, and the newest one is still to come. -/
inductive Received where
  | signal
  | lagged (missed : Nat)
  | empty
  | gone
  deriving DecidableEq

/-- A shutdown: the number of signals that were sent, for each receiver how many of
them lie behind it, and the number of handles.  The receivers stand in the order
of subscription, with none for a receiver that was dropped. -/
structure Shutdown where
  sent : Nat := 0
  receivers : List (Option Nat) := []
  handles : Nat := 1
  deriving DecidableEq

namespace Shutdown

/-- The number of receivers that were not dropped. -/
def receiverCount (s : Shutdown) : Nat :=
  s.receivers.countP Option.isSome

/-- The position of a receiver that was not dropped. -/
def position? (s : Shutdown) (receiver : Nat) : Option Nat :=
  s.receivers[receiver]?.join

/-- The number of signals that a receiver has not been told of. -/
def pending (s : Shutdown) (receiver : Nat) : Nat :=
  match s.position? receiver with
  | some position => s.sent - position
  | none => 0

/-- Subscribes, and returns the number of the new receiver.  Signals that were
sent before are not for it. -/
def subscribe (s : Shutdown) : Nat × Shutdown :=
  (s.receivers.length, { s with receivers := s.receivers ++ [some s.sent] })

/-- Makes a new handle, and returns its number. -/
def addHandle (s : Shutdown) : Nat × Shutdown :=
  (s.handles, { s with handles := s.handles + 1 })

/-- Sends a signal, and returns how many receivers it is for.  Without a
receiver nothing is sent. -/
def trigger (s : Shutdown) : Nat × Shutdown :=
  if s.receiverCount = 0 then (0, s) else (s.receiverCount, { s with sent := s.sent + 1 })

/-- Drops a receiver; false if there is none. -/
def drop (s : Shutdown) (receiver : Nat) : Bool × Shutdown :=
  match s.position? receiver with
  | some _ => (true, { s with receivers := s.receivers.set receiver none })
  | none => (false, s)

/-- Moves a receiver to a position. -/
def moveTo (s : Shutdown) (receiver position : Nat) : Shutdown :=
  { s with receivers := s.receivers.set receiver (some position) }

/-- Looks for a signal. -/
def receive (s : Shutdown) (receiver : Nat) : Received × Shutdown :=
  match s.position? receiver with
  | none => (.gone, s)
  | some position =>
      if s.sent ≤ position then
        (.empty, s)
      else if s.sent = position + 1 then
        (.signal, s.moveTo receiver s.sent)
      else
        (.lagged (s.sent - position - 1), s.moveTo receiver (s.sent - 1))

/-- Waits for a shutdown, and drops the receiver then; none while there is
nothing to end the wait.  It ends with whatever the receiver gets, be it a signal
or the news that signals were missed, and if no handle is left. -/
def wait? (s : Shutdown) (receiver : Nat) : Option Shutdown :=
  match s.receive receiver with
  | (.signal, s) | (.lagged _, s) => some (s.drop receiver).2
  | (.empty, s) => if s.handles = 0 then some (s.drop receiver).2 else none
  | (.gone, _) => none

/-- Something that is done to a shutdown, by a handle or by a receiver. -/
inductive Action where
  | subscribe (handle : Nat)
  | addHandle (handle : Nat)
  | trigger (handle : Nat)
  | drop (receiver : Nat)
  | receive (receiver : Nat)

/-- What an action returns.  The number is that of a receiver or a handle, or tells
how many receivers there are to be told. -/
inductive Reply where
  | number (n : Nat)
  | dropped (wasThere : Bool)
  | received (r : Received)

/-- Does something by a handle, if there is such a handle. -/
def byHandle (s : Shutdown) (handle : Nat) (act : Shutdown → Nat × Shutdown) :
    Option (Reply × Shutdown) :=
  if handle < s.handles then
    let (n, s) := act s
    some (.number n, s)
  else
    none

/-- Does something; none if there is no such handle. -/
def apply (s : Shutdown) : Action → Option (Reply × Shutdown)
  | .subscribe handle => s.byHandle handle subscribe
  | .addHandle handle => s.byHandle handle addHandle
  | .trigger handle => s.byHandle handle trigger
  | .drop receiver =>
      let (wasThere, s) := s.drop receiver
      some (.dropped wasThere, s)
  | .receive receiver =>
      let (r, s) := s.receive receiver
      some (.received r, s)

end Shutdown
end FrameBridge
