import FrameBridge.Decimal.Shortest

/-!
# Written numbers

In a JSON text a number is written with the digits of its shortest decimal.  A
whole number below 10^16 has one zero behind the point; greater ones are in
scientific notation.

A quick reader takes all written digits for one whole number, rounds that to a
binary fraction, and then multiplies or divides it by a power of ten, which
rounds a second time.  So what is read can differ from what was written in the
last place.
-/

namespace FrameBridge
namespace Decimal

/-- The number of places that a whole number has room for in positional
notation. -/
def placeLimit : Nat := 16

/-- The decimal that all written digits make. -/
def written (d : Decimal) : Decimal :=
  let places := Int.ofNat (Nat.toDigits 10 d.coefficient).length + d.exponent
  if 0 ≤ d.exponent ∧ places ≤ Int.ofNat placeLimit then
    ⟨d.coefficient * 10 ^ (d.exponent.toNat + 1), -1⟩
  else
    d

/-- The binary fraction that a quick reader takes a decimal for. -/
def read (d : Decimal) : Float :=
  let whole := Float.ofNat d.coefficient
  match d.exponent with
  | .ofNat n => whole * Float.ofScientific 1 false n
  | .negSucc n => whole / Float.ofScientific 1 false (n + 1)

/-- The binary fraction that is read where another one was written. -/
def reread (f : Float) : Float :=
  (shortest f.toBits.toNat).written.read

end Decimal
end FrameBridge
