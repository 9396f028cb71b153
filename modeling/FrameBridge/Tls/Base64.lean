import FrameBridge.Text.Ascii

/-!
# Base 64

Four signs stand for three bytes.  The last group can be filled up with padding,
in part or to the end; the bits of it that make no whole byte have no meaning.
White space has no meaning either.
-/

namespace FrameBridge
namespace Base64

/-- The sign that fills the last group up. -/
def padding : UInt8 := 0x3d

/-- A byte without a meaning. -/
def isSpace (b : UInt8) : Bool :=
  b == 0x20 || (0x09 ≤ b && b ≤ 0x0d)

/-- The signs, in the order of their values. -/
def signs : List UInt8 :=
  Text.asciiBytes "ABCDEFGHIJKLMNOPQRSTUVWXYZabcdefghijklmnopqrstuvwxyz0123456789+/".toList

def value? (sign : UInt8) : Option Nat :=
  signs.idxOf? sign

/-- The whole bytes that values of signs stand for. -/
def bytesOf : List Nat → List UInt8
  | a :: b :: rest =>
      let first := UInt8.ofNat (a * 4 + b / 16)
      match rest with
      | [] => [first]
      | c :: rest =>
          let second := UInt8.ofNat (b % 16 * 16 + c / 4)
          match rest with
          | [] => [first, second]
          | d :: rest => first :: second :: UInt8.ofNat (c % 4 * 64 + d) :: bytesOf rest
  | _ => []

def groupSize : Nat := 4

/-- A number of signs without padding and a number of paddings behind them make
groups: no group has one sign only, and no group is longer than others. -/
def areGroups (count paddings : Nat) : Bool :=
  count % groupSize != 1 && paddings ≤ (groupSize - count % groupSize) % groupSize

/-- The bytes that signs stand for. -/
def decode? (signs : List UInt8) : Option (List UInt8) := do
  let signs := signs.filter fun b => !isSpace b
  let paddings := signs.dropWhile (· != padding)
  let values ← (signs.takeWhile (· != padding)).mapM value?
  if paddings.all (· == padding) && areGroups values.length paddings.length then
    return bytesOf values
  else
    none

end Base64
end FrameBridge
