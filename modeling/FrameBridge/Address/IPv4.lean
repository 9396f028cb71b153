import FrameBridge.Text.Ascii

/-!
# IPv4 addresses

An address is written as four decimal numbers of at most three digits, without
leading zeros, divided by points.  Reading consumes the address and returns
what follows it.
-/

namespace FrameBridge

/-- An IPv4 address, its octets in the order in which they are written. -/
structure IPv4 where
  a : UInt8
  b : UInt8
  c : UInt8
  d : UInt8
  deriving DecidableEq

namespace Address

/-- The decimal digits at the start of a text, and the rest. -/
def spanDigits (base : Nat) (cs : List Char) : List Nat × List Char :=
  ((cs.takeWhile fun c => (Text.digitValue base c).isSome).filterMap (Text.digitValue base),
   cs.dropWhile fun c => (Text.digitValue base c).isSome)

/-- The number that digits of a base stand for. -/
def ofDigits (base : Nat) (digits : List Nat) : Nat :=
  digits.foldl (fun n d => n * base + d) 0

def readChar (expected : Char) : List Char → Option (List Char)
  | c :: rest => if c = expected then some rest else none
  | [] => none

/--
Reads a number below a bound, with any number of leading zeros and at least
one digit.
-/
def readNumber (bound : Nat) (cs : List Char) : Option (Nat × List Char) :=
  let (digits, rest) := spanDigits 10 cs
  if digits ≠ [] ∧ ofDigits 10 digits < bound then
    some (ofDigits 10 digits, rest)
  else
    none

/-- Reads an octet: up to three digits, no leading zero, at most 255. -/
def readOctet (cs : List Char) : Option (UInt8 × List Char) :=
  let (digits, rest) := spanDigits 10 cs
  if digits.length = 0 ∨ digits.length > 3 ∨ (digits.length > 1 ∧ digits.head? = some 0) then
    none
  else if ofDigits 10 digits < 256 then
    some (UInt8.ofNat (ofDigits 10 digits), rest)
  else
    none

end Address

namespace IPv4

open Address

def read (cs : List Char) : Option (IPv4 × List Char) := do
  let (a, cs) ← readOctet cs
  let (b, cs) ← readOctet (← readChar '.' cs)
  let (c, cs) ← readOctet (← readChar '.' cs)
  let (d, cs) ← readOctet (← readChar '.' cs)
  return (⟨a, b, c, d⟩, cs)

def render (ip : IPv4) : List Char :=
  Nat.toDigits 10 ip.a.toNat ++ '.' :: Nat.toDigits 10 ip.b.toNat ++
    '.' :: Nat.toDigits 10 ip.c.toNat ++ '.' :: Nat.toDigits 10 ip.d.toNat

/-- The address as two groups of sixteen bits. -/
def toGroups (ip : IPv4) : List UInt16 :=
  [ip.a.toUInt16 * 256 + ip.b.toUInt16, ip.c.toUInt16 * 256 + ip.d.toUInt16]

end IPv4
end FrameBridge
