/-!
# UTF-8

Texts are written as bytes with UTF-8.  Bytes are read back in two ways: the
strict reading refuses bytes that are no UTF-8, the lossy reading puts U+FFFD
for every maximal ill-formed piece.

A piece is read at its first byte.  The first byte fixes how many continuation
bytes must follow and the range of the first of them; the ranges leave out
overlong forms, surrogates and everything above U+10FFFF.
-/

namespace FrameBridge
namespace Utf8

def encodeChar (c : Char) : List UInt8 :=
  let n := c.toNat
  if n < 0x80 then
    [UInt8.ofNat n]
  else if n < 0x800 then
    [UInt8.ofNat (0xc0 + n / 0x40), UInt8.ofNat (0x80 + n % 0x40)]
  else if n < 0x10000 then
    [UInt8.ofNat (0xe0 + n / 0x1000), UInt8.ofNat (0x80 + n / 0x40 % 0x40),
     UInt8.ofNat (0x80 + n % 0x40)]
  else
    [UInt8.ofNat (0xf0 + n / 0x40000), UInt8.ofNat (0x80 + n / 0x1000 % 0x40),
     UInt8.ofNat (0x80 + n / 0x40 % 0x40), UInt8.ofNat (0x80 + n % 0x40)]

def encode (cs : List Char) : List UInt8 :=
  cs.flatMap encodeChar

def size (cs : List Char) : Nat :=
  (encode cs).length

def encodeString (s : String) : List UInt8 :=
  encode s.toList

/-- What a first byte announces: how many continuation bytes follow, the range
of the first of them, and the bits that the first byte contributes. -/
structure Lead where
  more : Nat
  low : Nat
  high : Nat
  bits : Nat

/-- Reads a first byte; none for a byte that starts no character. -/
def lead (b : UInt8) : Option Lead :=
  let n := b.toNat
  if n < 0x80 then some ⟨0, 0x80, 0xbf, n⟩
  else if n < 0xc2 then none
  else if n < 0xe0 then some ⟨1, 0x80, 0xbf, n - 0xc0⟩
  else if n = 0xe0 then some ⟨2, 0xa0, 0xbf, 0⟩
  else if n = 0xed then some ⟨2, 0x80, 0x9f, 0xd⟩
  else if n < 0xf0 then some ⟨2, 0x80, 0xbf, n - 0xe0⟩
  else if n = 0xf0 then some ⟨3, 0x90, 0xbf, 0⟩
  else if n < 0xf4 then some ⟨3, 0x80, 0xbf, n - 0xf0⟩
  else if n = 0xf4 then some ⟨3, 0x80, 0x8f, 4⟩
  else none

/-- The result of reading the continuation bytes of one character: the bytes
that are left, and the code point if none was missing. -/
structure Piece where
  code : Option Nat
  rest : List UInt8

/-- Reads continuation bytes, the first of them within its own range.  An
ill-formed piece ends before the byte that does not fit. -/
def readTail : (more low high code : Nat) → List UInt8 → Piece
  | 0, _, _, code, bytes => ⟨some code, bytes⟩
  | _ + 1, _, _, _, [] => ⟨none, []⟩
  | more + 1, low, high, code, b :: bytes =>
      if low ≤ b.toNat && b.toNat ≤ high then
        readTail more 0x80 0xbf (code * 0x40 + (b.toNat - 0x80)) bytes
      else
        ⟨none, b :: bytes⟩

/-- Reading continuation bytes never adds bytes. -/
theorem length_readTail_rest_le (more low high code : Nat) (bytes : List UInt8) :
    (readTail more low high code bytes).rest.length ≤ bytes.length := by
  induction more generalizing low high code bytes with
  | zero => simp [readTail]
  | succ more ih =>
      cases bytes with
      | nil => simp [readTail]
      | cons b bytes =>
          unfold readTail
          split
          · exact Nat.le_succ_of_le (ih ..)
          · exact Nat.le_refl _

/-- Reads the piece that starts with the given byte. -/
def readPiece (b : UInt8) (bytes : List UInt8) : Piece :=
  match lead b with
  | none => ⟨none, bytes⟩
  | some l => readTail l.more l.low l.high l.bits bytes

/-- A piece takes at least its first byte. -/
theorem length_readPiece_rest_lt (b : UInt8) (bytes : List UInt8) :
    (readPiece b bytes).rest.length < (b :: bytes).length := by
  unfold readPiece
  split
  · simp
  · exact Nat.lt_succ_of_le (length_readTail_rest_le ..)

/-- Reads bytes as a text; ill-formed pieces are kept as such. -/
def readPieces (bytes : List UInt8) : List (Option Char) :=
  match bytes with
  | [] => []
  | b :: bytes =>
      (readPiece b bytes).code.map Char.ofNat :: readPieces (readPiece b bytes).rest
  termination_by bytes.length
  decreasing_by exact length_readPiece_rest_lt b bytes

/-- Reads bytes as a text, with U+FFFD for every ill-formed piece. -/
def decodeLossy (bytes : List UInt8) : List Char :=
  (readPieces bytes).map fun piece => piece.getD (Char.ofNat 0xfffd)

/-- Reads bytes as a text; none if they are no UTF-8. -/
def decode? (bytes : List UInt8) : Option (List Char) :=
  (readPieces bytes).mapM id

end Utf8
end FrameBridge
