import FrameBridge.Relay.Bridge

/-!
# Pumps

A pump moves what one end sends to the other end, one item at a time.  The
inbound pump writes the payload of each frame of the client to the upstream;
the outbound pump makes a frame of each read from the upstream.  Bytes are
counted only after they were written and flushed.

A pump is a state and a step.  A step makes one call that can block; there is
none while the call blocks, and none after the pump has ended.
-/

namespace FrameBridge

/-- The state of the pump to the upstream.  It waits for the client, writes the rest
of a payload of some size, and flushes it. -/
inductive Inbound where
  | receiving
  | writing (rest : List UInt8) (size : Nat)
  | flushing (size : Nat)
  | ended (result : PumpResult)
  | interrupted

namespace Inbound

/-- What to do with something that the client's stream yields. -/
def afterEvent : ClientEvent → Inbound
  | .ended => ended (.ok ())
  | .item (.failure text) => ended (.error (.client text))
  | .item (.frame frame) =>
      match frame.content with
      | .payload data => if data = [] then receiving else writing data data.length
      | .control => receiving
      | .close => ended (.ok ())

/-- What to do after a write took a number of bytes. -/
def afterWrite (rest : List UInt8) (size n : Nat) : Inbound :=
  if n = 0 then
    ended (.error (.upstream "write zero"))
  else if rest.drop n = [] then
    flushing size
  else
    writing (rest.drop n) size

def step (p : Inbound) (b : Bridge) : Option (Inbound × Bridge) :=
  match p with
  | receiving =>
      match b.client.next with
      | (.done event, client) => some (afterEvent event, { b with client := client })
      | _ => none
  | writing rest size =>
      match b.upstream.write rest with
      | (.done n, upstream) => some (afterWrite rest size n, { b with upstream := upstream })
      | (.failed text, upstream) =>
          some (ended (.error (.upstream text)), { b with upstream := upstream })
      | (.blocked, _) => none
  | flushing size =>
      match b.upstream.flush with
      | (.done (), upstream) =>
          some (receiving, { b with upstream := upstream }.record .inbound size)
      | (.failed text, upstream) =>
          some (ended (.error (.upstream text)), { b with upstream := upstream })
      | (.blocked, _) => none
  | ended _ => none
  | interrupted => none

/-- The pump has neither ended nor been interrupted. -/
def isRunning : Inbound → Bool
  | ended _ => false
  | interrupted => false
  | _ => true

/-- The result of a pump that has ended. -/
def result? : Inbound → Option PumpResult
  | ended result => some result
  | _ => none

/-- An upper bound on the number of steps without another item. -/
def remaining : Inbound → Nat
  | receiving => 1
  | writing rest _ => rest.length + 3
  | flushing _ => 2
  | ended _ => 0
  | interrupted => 0

def runFor : Nat → Inbound → Bridge → Inbound × Bridge
  | 0, p, b => (p, b)
  | fuel + 1, p, b =>
      match p.step b with
      | some (p, b) => runFor fuel p b
      | none => (p, b)

/-- Runs the pump until it ends or blocks. -/
def run (p : Inbound) (b : Bridge) : Inbound × Bridge :=
  runFor (p.remaining + b.pending) p b

end Inbound

/-- The state of the pump to the client.  It waits for the upstream, hands over the
frame in the slot, with a payload of some size, and flushes it. -/
inductive Outbound where
  | reading
  | handing (size : Nat)
  | flushing (size : Nat)
  | ended (result : PumpResult)
  | interrupted

namespace Outbound

def step (p : Outbound) (b : Bridge) : Option (Outbound × Bridge) :=
  match p with
  | reading =>
      match b.upstream.read b.readLimit with
      | (.done [], upstream) => some (ended (.ok ()), { b with upstream := upstream })
      | (.done bytes, upstream) =>
          some (handing bytes.length,
            { b with upstream := upstream, slot := some (.binary bytes) })
      | (.failed text, upstream) =>
          some (ended (.error (.upstream text)), { b with upstream := upstream })
      | (.blocked, _) => none
  | handing size =>
      match b.handOver with
      | (.done (), b) => some (flushing size, b)
      | (.failed text, b) => some (ended (.error (.client text)), b)
      | (.blocked, _) => none
  | flushing size =>
      match b.client.flush with
      | (.done (), client) =>
          some (reading, { b with client := client }.record .outbound size)
      | (.failed text, client) =>
          some (ended (.error (.client text)), { b with client := client })
      | (.blocked, _) => none
  | ended _ => none
  | interrupted => none

/-- The pump has neither ended nor been interrupted. -/
def isRunning : Outbound → Bool
  | ended _ => false
  | interrupted => false
  | _ => true

/-- The result of a pump that has ended. -/
def result? : Outbound → Option PumpResult
  | ended result => some result
  | _ => none

/-- An upper bound on the number of steps without another item. -/
def remaining : Outbound → Nat
  | reading => 1
  | handing _ => 3
  | flushing _ => 2
  | ended _ => 0
  | interrupted => 0

def runFor : Nat → Outbound → Bridge → Outbound × Bridge
  | 0, p, b => (p, b)
  | fuel + 1, p, b =>
      match p.step b with
      | some (p, b) => runFor fuel p b
      | none => (p, b)

/-- Runs the pump until it ends or blocks. -/
def run (p : Outbound) (b : Bridge) : Outbound × Bridge :=
  runFor (p.remaining + b.pending) p b

end Outbound
end FrameBridge
