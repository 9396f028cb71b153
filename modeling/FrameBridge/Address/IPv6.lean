import FrameBridge.Address.IPv4

/-!
# IPv6 addresses

An address has eight groups of sixteen bits.  It is written as groups of at
most four hexadecimal digits divided by colons; one run of zero groups can be
left out as `::`, and the last two groups can be given as an IPv4 address.

Addresses are printed with the first longest run of at least two zero groups
left out.  Addresses that stand for an IPv4 address are printed as
`::ffff:` followed by that address.
-/

namespace FrameBridge

/-- An IPv6 address as its eight groups, the most significant first. -/
structure IPv6 where
  groups : List UInt16
  length_groups : groups.length = 8
  deriving DecidableEq

namespace IPv6

open Address

section Reading

/-- Reads a group: one to four hexadecimal digits. -/
def readGroup (cs : List Char) : Option (UInt16 × List Char) :=
  let (digits, rest) := spanDigits 16 cs
  if digits.length = 0 ∨ digits.length > 4 then
    none
  else
    some (UInt16.ofNat (ofDigits 16 digits), rest)

/-- Reads an item that is preceded by a colon unless it is the first one. -/
def readSeparated {α : Type} (first : Bool) (item : List Char → Option (α × List Char))
    (cs : List Char) : Option (α × List Char) :=
  if first then item cs else readChar ':' cs >>= item

/-- Groups in a row, as far as they could be read, and the text behind them.  The
last two groups can be given as an IPv4 address. -/
structure GroupRun where
  groups : List UInt16
  endsInIPv4 : Bool
  rest : List Char

/--
Reads groups divided by colons while there is room for them.  An IPv4 address
is taken wherever two groups still have room, and ends the run.
-/
def readGroups : (room : Nat) → (first : Bool) → List Char → GroupRun
  | 0, _, cs => ⟨[], false, cs⟩
  | room + 1, first, cs =>
      match if room = 0 then none else readSeparated first IPv4.read cs with
      | some (ip, rest) => ⟨ip.toGroups, true, rest⟩
      | none =>
          match readSeparated first readGroup cs with
          | none => ⟨[], false, cs⟩
          | some (group, rest) =>
              let run := readGroups room false rest
              ⟨group :: run.groups, run.endsInIPv4, run.rest⟩

/-- The address with these first and last groups and zeros between them. -/
def ofEnds? (head tail : List UInt16) : Option IPv6 :=
  if h : head.length + tail.length ≤ 8 then
    some
      { groups := head ++ List.replicate (8 - (head.length + tail.length)) 0 ++ tail
        length_groups := by simp; omega }
  else
    none

def read (cs : List Char) : Option (IPv6 × List Char) :=
  let head := readGroups 8 true cs
  if head.groups.length = 8 then do
    let ip ← ofEnds? head.groups []
    return (ip, head.rest)
  else if head.endsInIPv4 then
    none
  else do
    let rest ← readChar ':' head.rest
    let rest ← readChar ':' rest
    let tail := readGroups (8 - (head.groups.length + 1)) true rest
    let ip ← ofEnds? head.groups tail.groups
    return (ip, tail.rest)

/-- Reads a whole text as an address. -/
def parse? (cs : List Char) : Option IPv6 :=
  match read cs with
  | some (ip, []) => some ip
  | _ => none

end Reading

section Printing

/-- A run of zero groups, by the index of its first group and their number. -/
structure ZeroRun where
  start : Nat
  length : Nat

/-- The first of the longest runs of zero groups, given the run that ends just
before the index and the longest one so far. -/
def longestZeroRun : (index : Nat) → (current longest : ZeroRun) → List UInt16 → ZeroRun
  | _, _, longest, [] => longest
  | index, current, longest, group :: groups =>
      if group = 0 then
        let current : ZeroRun :=
          if current.length = 0 then ⟨index, 1⟩ else ⟨current.start, current.length + 1⟩
        longestZeroRun (index + 1) current
          (if current.length > longest.length then current else longest) groups
      else
        longestZeroRun (index + 1) ⟨0, 0⟩ longest groups

/-- The written form of groups divided by colons. -/
def renderGroups (groups : List UInt16) : List Char :=
  (groups.map fun group => Nat.toDigits 16 group.toNat).intersperse [':'] |>.flatten

/-- The IPv4 address that this address stands for. -/
def toIPv4? (ip : IPv6) : Option IPv4 :=
  match ip.groups with
  | [0, 0, 0, 0, 0, 0xffff, high, low] =>
      some ⟨(high / 256).toUInt8, high.toUInt8, (low / 256).toUInt8, low.toUInt8⟩
  | _ => none

def render (ip : IPv6) : List Char :=
  match ip.toIPv4? with
  | some ip => "::ffff:".toList ++ ip.render
  | none =>
      let run := longestZeroRun 0 ⟨0, 0⟩ ⟨0, 0⟩ ip.groups
      if run.length > 1 then
        renderGroups (ip.groups.take run.start) ++ "::".toList ++
          renderGroups (ip.groups.drop (run.start + run.length))
      else
        renderGroups ip.groups

end Printing

end IPv6
end FrameBridge
