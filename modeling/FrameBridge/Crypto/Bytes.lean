/-!
# Numbers as bytes

A number is written as a given number of bytes, with the lowest byte first or
with the highest byte first.  What has no room in them is left out.
-/

namespace FrameBridge
namespace Bytes

section LowestFirst

/-- The lowest bytes of a number, the lowest first. -/
def lowest : (count : Nat) → Nat → List UInt8
  | 0, _ => []
  | count + 1, n => UInt8.ofNat n :: lowest count (n / 256)

/-- The number that bytes stand for, the lowest first. -/
def ofLowest (bytes : List UInt8) : Nat :=
  bytes.foldr (fun b n => b.toNat + 256 * n) 0

end LowestFirst

section HighestFirst

/-- The lowest bytes of a number, the highest first. -/
def ofNat (count n : Nat) : List UInt8 :=
  (lowest count n).reverse

/-- The number that bytes stand for, the highest first. -/
def toNat (bytes : List UInt8) : Nat :=
  ofLowest bytes.reverse

end HighestFirst

end Bytes
end FrameBridge
