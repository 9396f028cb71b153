import FrameBridge.Crypto.Bytes
import FrameBridge.Crypto.Modular

/-!
# Elliptic curves

The points of a curve `y² = x³ - 3x + b` modulo a prime number form a group.
Three such curves are in use.  Each has a base point, and a private key is a
number of times that the base point is added to itself.
-/

-- powers are those of the core library, also where algebra with powers of its own is imported
attribute [instance(high), default_instance 20000] instPowNat

namespace FrameBridge

/-- An elliptic curve: its name in encoded form, the number of bytes of a coordinate,
the prime number, the constant of the equation, the base point and the number of
points. -/
structure Curve where
  name : List UInt8
  size : Nat
  prime : Nat
  b : Nat
  baseX : Nat
  baseY : Nat
  order : Nat
  deriving DecidableEq

namespace Curve

section Curves

def p256 : Curve where
  name := [0x2a, 0x86, 0x48, 0xce, 0x3d, 0x03, 0x01, 0x07]
  size := 32
  prime := 2 ^ 256 - 2 ^ 224 + 2 ^ 192 + 2 ^ 96 - 1
  b := 0x5ac635d8aa3a93e7b3ebbd55769886bc651d06b0cc53b0f63bce3c3e27d2604b
  baseX := 0x6b17d1f2e12c4247f8bce6e563a440f277037d812deb33a0f4a13945d898c296
  baseY := 0x4fe342e2fe1a7f9b8ee7eb4a7c0f9e162bce33576b315ececbb6406837bf51f5
  order := 0xffffffff00000000ffffffffffffffffbce6faada7179e84f3b9cac2fc632551

def p384 : Curve where
  name := [0x2b, 0x81, 0x04, 0x00, 0x22]
  size := 48
  prime := 2 ^ 384 - 2 ^ 128 - 2 ^ 96 + 2 ^ 32 - 1
  b :=
    0xb3312fa7e23ee7e4988e056be3f82d19181d9c6efe814112 * 2 ^ 192 +
      0x0314088f5013875ac656398d8a2ed19d2a85c8edd3ec2aef
  baseX :=
    0xaa87ca22be8b05378eb1c71ef320ad746e1d3b628ba79b98 * 2 ^ 192 +
      0x59f741e082542a385502f25dbf55296c3a545e3872760ab7
  baseY :=
    0x3617de4a96262c6f5d9e98bf9292dc29f8f41dbd289a147c * 2 ^ 192 +
      0xe9da3113b5f0b8c00a60b1ce1d7e819d7a431d7c90ea0e5f
  order :=
    0xffffffffffffffffffffffffffffffffffffffffffffffff * 2 ^ 192 +
      0xc7634d81f4372ddf581a0db248b0a77aecec196accc52973

def p521 : Curve where
  name := [0x2b, 0x81, 0x04, 0x00, 0x23]
  size := 66
  prime := 2 ^ 521 - 1
  b :=
    0x51953eb9618e1c9a1f929a21a0b68540eea2da725b99b315f3b8b489918ef109 * 2 ^ 264 +
      0xe156193951ec7e937b1652c0bd3bb1bf073573df883d2c34f1ef451fd46b503f00
  baseX :=
    0xc6858e06b70404e9cd9e3ecb662395b4429c648139053fb521f828af606b4d3d * 2 ^ 264 +
      0xbaa14b5e77efe75928fe1dc127a2ffa8de3348b3c1856a429bf97e7e31c2e5bd66
  baseY :=
    0x11839296a789a3bc0045c8a5fb42c7d1bd998f54449579b446817afbd17273e66 * 2 ^ 264 +
      0x2c97ee72995ef42640c550b9013fad0761353c7086a272c24088be94769fd16650
  order :=
    0x1ffffffffffffffffffffffffffffffffffffffffffffffffffffffffffffffff * 2 ^ 264 +
      0xfa51868783bf2f966b7fcc0148f709a5d03bb5c9b8899c47aebb6fb71e91386409

/-- The curves in use. -/
def all : List Curve := [p256, p384, p521]

end Curves

/-- A point of a curve; `zero` is the one that adds nothing. -/
inductive Point where
  | zero
  | affine (x y : Nat)
  deriving DecidableEq

section Group

variable (c : Curve)

/-- The right-hand side of the equation. -/
def cubic (x : Nat) : Nat :=
  Modular.sub c.prime (x * x * x + c.b) (3 * x)

/-- The coordinates are those of a point of the curve. -/
def hasPoint (x y : Nat) : Bool :=
  x < c.prime && y < c.prime && y * y % c.prime == c.cubic x

/-- The point in which a line of some slope through two points meets the curve,
with the sign of its second coordinate changed. -/
def third (slope x₁ y₁ x₂ : Nat) : Point :=
  let x := Modular.sub c.prime (slope * slope) (x₁ + x₂)
  let rise := slope * Modular.sub c.prime x₁ x
  .affine x (Modular.sub c.prime rise y₁)

def add : Point → Point → Point
  | .zero, q => q
  | p, .zero => p
  | .affine x₁ y₁, .affine x₂ y₂ =>
      if x₁ ≠ x₂ then
        let run := Modular.inverse c.prime (Modular.sub c.prime x₂ x₁)
        c.third (Modular.sub c.prime y₂ y₁ * run % c.prime) x₁ y₁ x₂
      else if (y₁ + y₂) % c.prime = 0 then
        .zero
      else
        let run := Modular.inverse c.prime (2 * y₁ % c.prime)
        c.third (Modular.sub c.prime (3 * x₁ * x₁) 3 * run % c.prime) x₁ y₁ x₂

/-- A point added to itself a number of times. -/
def times (n : Nat) (p : Point) : Point :=
  if n = 0 then
    .zero
  else
    let half := times (n / 2) (c.add p p)
    if n % 2 = 1 then c.add p half else half
  termination_by n

/-- The point that goes with a private key. -/
def pointOf (n : Nat) : Point :=
  c.times n (.affine c.baseX c.baseY)

end Group

section Bytes

variable (c : Curve)

/-- The point with a first coordinate, and with a second one that is odd or
not. -/
def pointWith? (x : Nat) (isOdd : Bool) : Option Point := do
  if c.prime ≤ x then failure
  let y ← Modular.root? c.prime (c.cubic x)
  let y := if (y % 2 == 1) == isOdd then y else Modular.sub c.prime 0 y
  if (y % 2 == 1) == isOdd then return .affine x y else failure

/-- The point with two coordinates that are given as bytes. -/
def pointOfBytes? (bytes : List UInt8) : Option Point :=
  let x := Bytes.toNat (bytes.take c.size)
  let y := Bytes.toNat (bytes.drop c.size)
  if bytes.length = 2 * c.size ∧ c.hasPoint x y then some (.affine x y) else none

/-- The point that bytes stand for: both coordinates, or the first one and
whether the second one is odd, or all of that. -/
def decodePoint? : List UInt8 → Option Point
  | [] => none
  | form :: bytes =>
      let isOdd := form % 2 == 1
      if form = 4 then
        c.pointOfBytes? bytes
      else if form = 6 ∨ form = 7 then
        (c.pointOfBytes? bytes).filter fun p =>
          match p with
          | .affine _ y => (y % 2 == 1) == isOdd
          | .zero => false
      else if (form = 2 ∨ form = 3) ∧ bytes.length = c.size then
        c.pointWith? (Bytes.toNat bytes) isOdd
      else
        none

/-- The bytes that stand for both coordinates of a point. -/
def encodePoint (x y : Nat) : List UInt8 :=
  4 :: (Bytes.ofNat c.size x ++ Bytes.ofNat c.size y)

end Bytes

end Curve
end FrameBridge
