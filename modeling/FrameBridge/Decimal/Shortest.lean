/-!
# Shortest decimals

A binary fraction of 64 bits stands for all real numbers that round to it.  Its
shortest decimal is the one with the greatest unit among the decimals in that
interval, and the nearest of those; of two that are equally near, the even
one.  The search is done in exact arithmetic.
-/

-- powers are those of the core library, also where algebra with powers of its own is imported
attribute [instance(high), default_instance 20000] instPowNat

namespace FrameBridge

/-- A whole number of units, where the unit is a power of ten. -/
structure Decimal where
  coefficient : Nat
  exponent : Int
  deriving DecidableEq

namespace Decimal

/-- The interval of what rounds to a binary fraction, which is in the middle.  All
numbers are numerators of a common denominator, and the ends belong to the
interval if they round to the binary fraction as well. -/
structure Interval where
  low : Nat
  middle : Nat
  high : Nat
  denominator : Nat
  hasEnds : Bool

namespace Interval

/-- The interval of a finite binary fraction that is not negative, given its
bits.  The gap below a power of two is half as wide as the gap above. -/
def ofBits (bits : Nat) : Interval :=
  let power := bits / 2 ^ 52 % 2 ^ 11
  let fraction := bits % 2 ^ 52
  let significand := if power = 0 then fraction else 2 ^ 52 + fraction
  let below := if fraction = 0 ∧ 1 < power then 1 else 2
  let exponent := max power 1
  let scale := 2 ^ (exponent - 1077)
  { low := (4 * significand - below) * scale
    middle := 4 * significand * scale
    high := (4 * significand + 2) * scale
    denominator := 2 ^ (1077 - exponent)
    hasEnds := significand % 2 == 0 }

/-- The interval with all numerators times some number. -/
def times (i : Interval) (n : Nat) : Interval :=
  { i with low := i.low * n, middle := i.middle * n, high := i.high * n }

/-- A number of units, given as a numerator, is in the interval. -/
def contains (i : Interval) (numerator : Nat) : Bool :=
  if i.hasEnds then
    i.low ≤ numerator && numerator ≤ i.high
  else
    i.low < numerator && numerator < i.high

/-- The nearest whole number of units in the interval, where the unit is given
as a numerator. -/
def nearest? (i : Interval) (unit : Nat) : Option Nat :=
  let n := i.middle / unit
  let hasBelow := 0 < n && i.contains (n * unit)
  let hasAbove := i.contains ((n + 1) * unit)
  if hasBelow && hasAbove then
    let isBelow := 2 * i.middle < (2 * n + 1) * unit
    let isTie := 2 * i.middle = (2 * n + 1) * unit
    some (if isBelow || (isTie && n % 2 == 0) then n else n + 1)
  else if hasBelow then
    some n
  else if hasAbove then
    some (n + 1)
  else
    none

/-- The nearest decimal with some exponent in the interval. -/
def decimalAt? (i : Interval) (exponent : Int) : Option Decimal :=
  let found :=
    match exponent with
    | .ofNat n => i.nearest? (10 ^ n * i.denominator)
    | .negSucc n => (i.times (10 ^ (n + 1))).nearest? i.denominator
  found.map fun coefficient => ⟨coefficient, exponent⟩

end Interval

/-- The greatest exponent of a decimal that rounds to a binary fraction. -/
def greatestExponent : Int := 308

/-- The number of exponents that decimals of binary fractions have. -/
def exponentCount : Nat := 633

/-- The shortest decimal of a finite binary fraction that is not negative, given
its bits. -/
def shortest (bits : Nat) : Decimal :=
  let interval := Interval.ofBits bits
  let exponents := (List.range exponentCount).map fun i => greatestExponent - Int.ofNat i
  if interval.middle = 0 then
    ⟨0, 0⟩
  else
    (exponents.findSome? interval.decimalAt?).getD ⟨0, 0⟩

end Decimal
end FrameBridge
