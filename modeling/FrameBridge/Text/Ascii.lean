/-!
# ASCII characters

Classes of ASCII characters, comparison that ignores the case of ASCII
letters, and the values of digits and of decimal numbers.
-/

namespace FrameBridge
namespace Text

/-- An ASCII letter or digit. -/
def isAsciiAlnum (c : Char) : Bool :=
  c.isAlphanum

/-- Folds the ASCII upper-case letters to lower case. -/
def foldCase (cs : List Char) : List Char :=
  cs.map Char.toLower

/-- The texts are equal when the case of ASCII letters is ignored. -/
def equalFold (a b : List Char) : Bool :=
  foldCase a == foldCase b

/-- The value of a hexadecimal digit of either case. -/
def hexValue (c : Char) : Option Nat :=
  if c.isDigit then
    some (c.toNat - 0x30)
  else if 'a' ≤ c && c ≤ 'f' then
    some (c.toNat - 0x61 + 10)
  else if 'A' ≤ c && c ≤ 'F' then
    some (c.toNat - 0x41 + 10)
  else
    none

/-- The value of a digit in a base of at most sixteen. -/
def digitValue (base : Nat) (c : Char) : Option Nat :=
  (hexValue c).filter (· < base)

/-- The value of a text of one or more decimal digits. -/
def decimal? (cs : List Char) : Option Nat :=
  if cs ≠ [] ∧ cs.all Char.isDigit then some (Nat.ofDigitChars 10 cs 0) else none

/-- The value of decimal digits behind an optional plus sign. -/
def natural? (cs : List Char) : Option Nat :=
  decimal? (if cs.head? = some '+' then cs.drop 1 else cs)

/-- The bytes of a text of ASCII characters. -/
def asciiBytes (cs : List Char) : List UInt8 :=
  cs.map fun c => UInt8.ofNat c.toNat

/-- The text with these bytes as code points. -/
def charsOfBytes (bytes : List UInt8) : List Char :=
  bytes.map fun b => Char.ofNat b.toNat

end Text
end FrameBridge
