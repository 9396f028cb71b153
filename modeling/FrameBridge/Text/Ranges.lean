/-!
# Classes of characters

A class of characters is given by closed ranges of code points.
-/

namespace FrameBridge
namespace Text

/-- The code point of a character is in one of the ranges. -/
def inRanges (ranges : List (Nat × Nat)) (c : Char) : Bool :=
  ranges.any fun (first, last) => first ≤ c.toNat && c.toNat ≤ last

end Text
end FrameBridge
