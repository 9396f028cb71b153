import FrameBridge.Crypto.Bytes

/-!
# A digest of 512 bits

A message is filled up to whole blocks of 128 bytes.  Each block changes a state
of eight words of 64 bits in eighty rounds; the last state is the digest.

The constants are the first 64 bits behind the point of roots of prime numbers:
of square roots for the first state, and of cube roots for the rounds.
-/

-- powers are those of the core library, also where algebra with powers of its own is imported
attribute [instance(high), default_instance 20000] instPowNat

namespace FrameBridge
namespace Sha512

section Constants

/-- The number has no divisor but one and itself. -/
def isPrime (n : Nat) : Bool :=
  1 < n && (List.range n).all fun d => d < 2 || n % d != 0

/-- The prime numbers that constants are made from. -/
def primes : List Nat :=
  (List.range 410).filter isPrime

/-- The greatest number below a power of two whose power is at most some
number. -/
def rootBelow (power n : Nat) : (bits : Nat) → Nat
  | 0 => 0
  | bits + 1 => raise bits 0
where
  raise : (bit : Nat) → (root : Nat) → Nat
    | 0, root => if (root + 1) ^ power ≤ n then root + 1 else root
    | bit + 1, root =>
        let next := root + 2 ^ (bit + 1)
        raise bit (if next ^ power ≤ n then next else root)

/-- The first 64 bits behind the point of a root. -/
def rootBits (power n : Nat) : UInt64 :=
  UInt64.ofNat (rootBelow power (n * 2 ^ (64 * power)) 72)

def roundConstants : List UInt64 :=
  primes.map (rootBits 3)

structure State where
  a : UInt64
  b : UInt64
  c : UInt64
  d : UInt64
  e : UInt64
  f : UInt64
  g : UInt64
  h : UInt64

def initial : State :=
  ⟨rootBits 2 2, rootBits 2 3, rootBits 2 5, rootBits 2 7,
    rootBits 2 11, rootBits 2 13, rootBits 2 17, rootBits 2 19⟩

end Constants

section Rounds

/-- A word with its bits moved down in a circle. -/
def rotate (w : UInt64) (n : UInt64) : UInt64 :=
  (w >>> n) ||| (w <<< (64 - n))

/-- The words of a block and those made from them, the last first.  Each word
is made from four of the sixteen before it. -/
def extend : (count : Nat) → List UInt64 → List UInt64
  | 0, words => words
  | count + 1, words =>
      let x := words.getD 1 0
      let y := words.getD 14 0
      let high := rotate x 19 ^^^ rotate x 61 ^^^ (x >>> 6)
      let low := rotate y 1 ^^^ rotate y 8 ^^^ (y >>> 7)
      extend count ((high + words.getD 6 0 + low + words.getD 15 0) :: words)

/-- One round, with the constant of the round and a word. -/
def State.round (s : State) (constant word : UInt64) : State :=
  let high := rotate s.e 14 ^^^ rotate s.e 18 ^^^ rotate s.e 41
  let choice := (s.e &&& s.f) ^^^ (s.e.complement &&& s.g)
  let first := s.h + high + choice + constant + word
  let low := rotate s.a 28 ^^^ rotate s.a 34 ^^^ rotate s.a 39
  let majority := (s.a &&& s.b) ^^^ (s.a &&& s.c) ^^^ (s.b &&& s.c)
  ⟨first + low + majority, s.a, s.b, s.c, s.d + first, s.e, s.f, s.g⟩

/-- The sum of two states, word by word. -/
def State.add (s t : State) : State :=
  ⟨s.a + t.a, s.b + t.b, s.c + t.c, s.d + t.d, s.e + t.e, s.f + t.f, s.g + t.g, s.h + t.h⟩

def State.compress (s : State) (block : List UInt8) : State :=
  let words := (List.range 16).map fun i => UInt64.ofNat (Bytes.toNat ((block.drop (8 * i)).take 8))
  let schedule := (extend 64 words.reverse).reverse
  s.add ((roundConstants.zip schedule).foldl (fun t (constant, word) => t.round constant word) s)

end Rounds

section Messages

def blockSize : Nat := 128

/-- The message with a one bit, zeros and its length in bits behind it. -/
def fill (message : List UInt8) : List UInt8 :=
  let zeros := (2 * blockSize - (message.length + 17) % blockSize) % blockSize
  message ++ 0x80 :: (List.replicate zeros 0 ++ Bytes.ofNat 16 (8 * message.length))

def blocks (message : List UInt8) : List (List UInt8) :=
  let filled := fill message
  (List.range (filled.length / blockSize)).map fun i =>
    (filled.drop (blockSize * i)).take blockSize

def digest (message : List UInt8) : List UInt8 :=
  let s := (blocks message).foldl State.compress initial
  [s.a, s.b, s.c, s.d, s.e, s.f, s.g, s.h].flatMap fun w => Bytes.ofNat 8 w.toNat

end Messages

end Sha512
end FrameBridge
