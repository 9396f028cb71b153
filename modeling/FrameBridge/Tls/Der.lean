import FrameBridge.Crypto.Bytes

/-!
# Tagged values

Keys and certificates are made of values that have a tag and a length in front
of them.  A length takes as few bytes as possible, and so does a whole number.
-/

namespace FrameBridge
namespace Der

abbrev Tag : Type := UInt8

def boolean : Tag := 0x01

def integer : Tag := 0x02

def bitString : Tag := 0x03

def octetString : Tag := 0x04

/-- The tag of nothing. -/
def null : Tag := 0x05

/-- The tag of a name that is made of numbers. -/
def identifier : Tag := 0x06

def sequence : Tag := 0x30

/-- The tag of a part that has a number of its own and holds other values. -/
def numbered (n : Nat) : Tag := UInt8.ofNat (0xa0 + n)

/-- The tag of a part that has a number of its own and holds bytes. -/
def numberedBytes (n : Nat) : Tag := UInt8.ofNat (0x80 + n)

/-- A reader takes what it reads off the front of a byte string. -/
abbrev Reader : Type → Type := StateT (List UInt8) Option

section Readers

def byte : Reader UInt8
  | [] => none
  | b :: rest => some (b, rest)

/-- Reads a number of bytes. -/
def take (n : Nat) : Reader (List UInt8) := fun bytes =>
  if n ≤ bytes.length then some (bytes.take n, bytes.drop n) else none

/-- Reads a length, in as few bytes as possible. -/
def length : Reader Nat := do
  let first ← byte
  if first < 0x80 then
    return first.toNat
  else
    let count := first.toNat - 0x80
    if count = 0 ∨ 4 < count then failure
    let bytes ← take count
    let n := Bytes.toNat bytes
    if n < 0x80 ∨ bytes.head? = some 0 then failure
    return n

/-- Reads a value with a tag. -/
def value (tag : Tag) : Reader (List UInt8) := do
  if (← byte) != tag then failure
  take (← length)

/-- Reads a value with a tag, if its tag is next. -/
def value? (tag : Tag) : Reader (Option (List UInt8)) := fun bytes =>
  if bytes.head? = some tag then (some <$> value tag) bytes else some (none, bytes)

/-- The number that the content of a whole number stands for; none if it is
negative or takes more bytes than it needs. -/
def natural? : List UInt8 → Option Nat
  | [] => none
  | [b] => if b < 0x80 then some b.toNat else none
  | b :: c :: rest =>
      if b < 0x80 ∧ (b ≠ 0 ∨ 0x80 ≤ c) then some (Bytes.toNat (b :: c :: rest)) else none

/-- A value that must be there. -/
def checked {α : Type} : Option α → Reader α
  | some a => pure a
  | none => failure

/-- Reads a whole number that is not negative. -/
def natural : Reader Nat := do
  checked (natural? (← value integer))

/-- The bytes of a string of bits that ends with a whole byte. -/
def wholeBytes? : List UInt8 → Option (List UInt8)
  | unused :: bytes => if unused = 0 then some bytes else none
  | [] => none

/-- Reads a string of bits that ends with a whole byte. -/
def wholeBits : Reader (List UInt8) := do
  checked (wholeBytes? (← value bitString))

/-- Succeeds at the end only. -/
def atEnd : Reader Unit
  | [] => some ((), [])
  | _ :: _ => none

/-- Reads everything that is left. -/
def remaining : Reader (List UInt8) := fun bytes =>
  some (bytes, [])

end Readers

/-- What a reader reads off the front of a byte string. -/
def parse? {α : Type} (reader : Reader α) (bytes : List UInt8) : Option α :=
  (reader bytes).map Prod.fst

/-- What a reader reads of a whole byte string. -/
def parseWhole? {α : Type} (reader : Reader α) (bytes : List UInt8) : Option α :=
  parse? (reader <* atEnd) bytes

/-- Reads a value with a tag by a reader for the front of its content. -/
def nested {α : Type} (tag : Tag) (reader : Reader α) : Reader α := do
  checked (parse? reader (← value tag))

/-- Reads a value with a tag by a reader for its whole content. -/
def whole {α : Type} (tag : Tag) (reader : Reader α) : Reader α := do
  checked (parseWhole? reader (← value tag))

section Writers

/-- The number of bytes that a number takes. -/
def byteCount (n : Nat) : Nat :=
  n.log2 / 8 + 1

/-- The bytes of a length. -/
def encodeLength (n : Nat) : List UInt8 :=
  if n < 0x80 then
    [UInt8.ofNat n]
  else
    UInt8.ofNat (0x80 + byteCount n) :: Bytes.ofNat (byteCount n) n

/-- A value with its tag and its length. -/
def encode (tag : Tag) (content : List UInt8) : List UInt8 :=
  tag :: (encodeLength content.length ++ content)

/-- A whole number with its tag and its length; its highest bit is zero. -/
def encodeNatural (n : Nat) : List UInt8 :=
  encode integer (Bytes.ofNat ((n.log2 + 1) / 8 + 1) n)

end Writers

end Der
end FrameBridge
