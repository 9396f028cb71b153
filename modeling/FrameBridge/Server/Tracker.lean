import FrameBridge.Metrics
import FrameBridge.Server.Registry

/-!
# Live sessions

A tracker accepts sessions up to a fixed limit.  A session that was accepted holds one
slot and has one entry in the registry, until it is released.

Accepting and releasing are made of steps, each of which happens at once.
Between the steps of one session there can be steps of others.  `accept` and
`release` are all steps in a row.
-/

namespace FrameBridge

/-- The live sessions of a relay: at most `limit` of them, with `free` slots
left.  Of the numbers of sessions, the first `drawn` were given away, and
`published` is the number of live sessions that was made known last. -/
structure Tracker where
  limit : Nat
  free : Nat
  drawn : Nat := 0
  registry : Registry
  published : Nat := 0
  metrics : Metrics := {}

namespace Tracker

/-- The greatest number of slots. -/
def slotLimit : Nat := 2 ^ 61 - 1

def empty (limit : Nat) (layout : Layout) : Tracker where
  limit := limit
  free := limit
  registry := { layout := layout }

/-- A tracker without sessions; none if there cannot be so many slots. -/
def ofLimit? (limit : Nat) (layout : Layout := .newestFirst) : Option Tracker :=
  if limit ≤ slotLimit then some (empty limit layout) else none

/-- The entries of the live sessions, as the registry lists them. -/
def entries (t : Tracker) : List SessionEntry :=
  t.registry.entries

/-- The number at a place.  The first session gets one, and numbers wrap. -/
def idAt (place : Nat) : SessionId :=
  UInt64.ofNat (place + 1)

/-- The number that the next session gets. -/
def nextId (t : Tracker) : SessionId :=
  idAt t.drawn

section Steps

/-- Takes a slot, if one is free, and tells whether it did. -/
def takeSlot (t : Tracker) : Bool × Tracker :=
  if t.free = 0 then (false, t) else (true, { t with free := t.free - 1 })

/-- Draws the number of a session. -/
def drawId (t : Tracker) : SessionId × Tracker :=
  (t.nextId, { t with drawn := t.drawn + 1 })

/-- Makes an entry. -/
def insert (t : Tracker) (entry : SessionEntry) : Tracker :=
  { t with registry := t.registry.insert entry }

def size (t : Tracker) : Nat :=
  t.entries.length

/-- Publishes a number of live sessions. -/
def publish (t : Tracker) (count : Nat) : Tracker :=
  { t with
    published := count
    metrics := t.metrics.setSessionsActive count }

def remove (t : Tracker) (id : SessionId) : Tracker :=
  { t with registry := t.registry.remove id }

/-- Gives a slot back. -/
def freeSlot (t : Tracker) : Tracker :=
  { t with free := t.free + 1 }

end Steps

section Operations

/-- Accepts a session, and returns its number; none if no slot is free. -/
def accept (t : Tracker) (peer : SocketAddress) (target : Target) : Option SessionId × Tracker :=
  match t.takeSlot with
  | (false, t) => (none, t)
  | (true, t) =>
      let (id, t) := t.drawId
      let t := t.insert { id := id, peer := peer, target := target }
      (some id, t.publish t.size)

def release (t : Tracker) (id : SessionId) : Tracker :=
  let t := t.remove id
  (t.publish t.size).freeSlot

def holds (t : Tracker) (id : SessionId) : Bool :=
  t.entries.any fun entry => entry.id == id

def changeStats (t : Tracker) (id : SessionId) (change : Stats.Change) : Tracker :=
  { t with
    registry := t.registry.changeStats id change
    metrics :=
      match change with
      | .record direction n => t.metrics.add (.bytes direction) n
      | _ => t.metrics }

end Operations

section Views

def activeCount (t : Tracker) : Nat :=
  t.size

/-- Entries that are listed in any order, the oldest first. -/
def oldestFirst (listing : List SessionEntry) : List SessionEntry :=
  listing.mergeSort fun a b => a.id ≤ b.id

/-- The live sessions, the oldest first. -/
def snapshot (t : Tracker) : List SessionEntry :=
  oldestFirst t.entries

/-- Whoever waits until no session is live need not wait. -/
def isIdle (t : Tracker) : Bool :=
  t.published == 0

end Views

end Tracker
end FrameBridge
