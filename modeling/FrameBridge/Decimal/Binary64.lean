import FrameBridge.Decimal.Shortest
import FrameBridge.Text.Ascii
import FrameBridge.Text.Reader

/-!
# Binary fractions as text

A binary fraction of 64 bits is a sign and a magnitude.  The magnitude is what
the bits below the sign stand for as a whole number, so that magnitudes are
ordered as the numbers are.  Above the finite magnitudes are infinity and the
magnitudes that stand for no number.

Reading a decimal finds the nearest binary fraction in exact arithmetic; of two
that are equally near, the even one.  Writing uses the shortest decimal, without
an exponent.
-/

namespace FrameBridge

/-- A binary fraction of 64 bits: a magnitude, and a sign that zero has as well. -/
structure Binary64 where
  isNegative : Bool
  magnitude : Nat
  deriving DecidableEq

namespace Binary64

def infinity : Nat := 2047 * 2 ^ 52

/-- A magnitude that stands for no number. -/
def undefined : Nat := infinity + 2 ^ 51

/-- The binary fraction is a number or infinite. -/
def isDefined (f : Binary64) : Bool :=
  f.magnitude ≤ infinity

section Rounding

/-- The whole number nearest to a common fraction; of two, the even one. -/
def nearestWhole (numerator denominator : Nat) : Nat :=
  let n := numerator / denominator
  let twice := 2 * (numerator % denominator)
  if denominator < twice ∨ (twice = denominator ∧ n % 2 = 1) then n + 1 else n

/-- The exponent of the greatest power of two that is at most a common fraction
above zero. -/
def floorLog (numerator denominator : Nat) : Int :=
  let estimate := Int.ofNat numerator.log2 - Int.ofNat denominator.log2
  let isReached : Bool :=
    match estimate with
    | .ofNat n => denominator * 2 ^ n ≤ numerator
    | .negSucc n => denominator ≤ numerator * 2 ^ (n + 1)
  if isReached then estimate else estimate - 1

/-- The least exponent of a unit in the last place. -/
def leastUnit : Int := -1074

/-- The magnitude of the binary fraction nearest to a common fraction.  The
magnitudes are counted in the unit in the last place, so that a significand
that is rounded up to a power of two needs no care. -/
def magnitudeOfRatio (numerator denominator : Nat) : Nat :=
  if numerator = 0 then
    0
  else
    let unit := max leastUnit (floorLog numerator denominator - 52)
    let significand :=
      match unit with
      | .ofNat n => nearestWhole numerator (denominator * 2 ^ n)
      | .negSucc n => nearestWhole (numerator * 2 ^ (n + 1)) denominator
    min infinity ((unit - leastUnit).toNat * 2 ^ 52 + significand)

/-- A decimal with more places before its point than this is beyond all finite
binary fractions. -/
def mostPlaces : Int := 310

/-- A decimal with fewer places than this rounds to zero. -/
def leastPlaces : Int := -330

/-- The magnitude of the binary fraction nearest to a decimal. -/
def magnitudeOfDecimal (d : Decimal) : Nat :=
  let places := Int.ofNat (Nat.toDigits 10 d.coefficient).length + d.exponent
  if d.coefficient = 0 ∨ places < leastPlaces then
    0
  else if mostPlaces < places then
    infinity
  else
    match d.exponent with
    | .ofNat n => magnitudeOfRatio (d.coefficient * 10 ^ n) 1
    | .negSucc n => magnitudeOfRatio d.coefficient (10 ^ (n + 1))

/-- The binary fraction nearest to a whole number. -/
def ofNat (n : Nat) : Binary64 :=
  ⟨false, magnitudeOfRatio n 1⟩

end Rounding

section Reading

open Reader

/-- Reads a sign; true for minus. -/
def sign : Reader Bool :=
  (char '-' *> pure true) <|> (char '+' *> pure false) <|> pure false

/-- Reads an exponent behind its mark. -/
def exponent : Reader Int := do
  let _ ← satisfying fun c => c == 'e' || c == 'E'
  let isNegative ← sign
  let n := Nat.ofDigitChars 10 (← span1 Char.isDigit) 0
  return if isNegative then -n else n

/-- Reads a decimal: digits with a point anywhere or with none, and perhaps an
exponent. -/
def decimal : Reader Decimal := do
  let whole ← span Char.isDigit
  let places ← (char '.' *> span Char.isDigit) <|> pure []
  if whole.isEmpty && places.isEmpty then failure
  let power ← exponent <|> pure 0
  return ⟨Nat.ofDigitChars 10 (whole ++ places) 0, power - places.length⟩

/-- Reads a word in any letter case. -/
def word (w : String) : Reader Unit := do
  let cs ← exactly w.length fun _ => true
  if !Text.equalFold cs w.toList then failure

def magnitudeText : Reader Nat :=
  (word "infinity" *> pure infinity) <|> (word "inf" *> pure infinity) <|>
    (word "nan" *> pure undefined) <|> (magnitudeOfDecimal <$> decimal)

/-- The binary fraction that a text stands for. -/
def parse? (cs : List Char) : Option Binary64 :=
  Reader.parse? (do return ⟨← sign, ← magnitudeText⟩) cs

end Reading

section Writing

/-- The digits of a decimal, with a point if it is no whole number. -/
def positional (d : Decimal) : List Char :=
  let digits := Nat.toDigits 10 d.coefficient
  match d.exponent with
  | .ofNat n => if d.coefficient = 0 then ['0'] else digits ++ List.replicate n '0'
  | .negSucc n =>
      let digits := List.replicate (n + 2 - digits.length) '0' ++ digits
      let whole := digits.length - (n + 1)
      digits.take whole ++ '.' :: digits.drop whole

def renderMagnitude (magnitude : Nat) : String :=
  if magnitude < infinity then
    String.ofList (positional (Decimal.shortest magnitude))
  else if magnitude = infinity then
    "inf"
  else
    "NaN"

def render (f : Binary64) : String :=
  if f.isNegative && f.isDefined then "-" ++ renderMagnitude f.magnitude
  else renderMagnitude f.magnitude

end Writing

/-- The whole part of a finite binary fraction, without its sign. -/
def wholePart (f : Binary64) : Nat :=
  let interval := Decimal.Interval.ofBits f.magnitude
  interval.middle / interval.denominator

/-- The number that stands for a binary fraction in the order; both zeros have
the same one. -/
def rank (f : Binary64) : Int :=
  if f.isNegative then -f.magnitude else f.magnitude

end Binary64
end FrameBridge
