import FrameBridge.Text.Ranges
import FrameBridge.Text.Split

/-!
# White space

The characters that have the Unicode property `White_Space`, and the removal
of such characters from both ends of a text.
-/

namespace FrameBridge
namespace Text

/-- The code points that have the property `White_Space`, as closed ranges. -/
def blankRanges : List (Nat × Nat) :=
  [(0x09, 0x0d), (0x20, 0x20), (0x85, 0x85), (0xa0, 0xa0), (0x1680, 0x1680),
   (0x2000, 0x200a), (0x2028, 0x2029), (0x202f, 0x202f), (0x205f, 0x205f),
   (0x3000, 0x3000)]

/-- The character has the property `White_Space`. -/
def isBlank (c : Char) : Bool :=
  inRanges blankRanges c

/-- Removes white space from both ends. -/
def trim (cs : List Char) : List Char :=
  stripBoth isBlank cs

/-- Removes white space from both ends of a string. -/
def trimString (s : String) : String :=
  String.ofList (trim s.toList)

end Text
end FrameBridge
