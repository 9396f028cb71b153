import FrameBridge.Crypto.Bytes
import FrameBridge.Crypto.Modular
import FrameBridge.Crypto.Sha512

/-!
# The twisted curve

The points of the curve `y² - x² = 1 + d x² y²` modulo the prime number
`2 ^ 255 - 19` form a group, in which one formula adds any two points.  A private
key is 32 bytes.  Half of their digest, with some bits fixed, is the number of
times that the base point is added to itself.
-/

namespace FrameBridge
namespace Edwards

def prime : Nat := 2 ^ 255 - 19

/-- The constant of the equation. -/
def d : Nat :=
  Modular.sub prime 0 (121665 * Modular.inverse prime 121666)

structure Point where
  x : Nat
  y : Nat
  deriving DecidableEq

/-- The point that adds nothing. -/
def zero : Point := ⟨0, 1⟩

def base : Point :=
  ⟨0x216936d3cd6e53fec0a4e231fdd6dc5c692cc7609525a7b2c9562d608f25d51a,
    0x6666666666666666666666666666666666666666666666666666666666666658⟩

def hasPoint (p : Point) : Bool :=
  let xx := p.x * p.x % prime
  let yy := p.y * p.y % prime
  Modular.sub prime yy xx == (1 + d * (xx * yy % prime)) % prime

def add (p q : Point) : Point :=
  let product := d * (p.x * q.x % prime * (p.y * q.y % prime) % prime) % prime
  let x := (p.x * q.y + q.x * p.y) * Modular.inverse prime (1 + product)
  let y := (p.y * q.y + p.x * q.x) * Modular.inverse prime (Modular.sub prime 1 product)
  ⟨x % prime, y % prime⟩

/-- A point added to itself a number of times. -/
def times (n : Nat) (p : Point) : Point :=
  if n = 0 then
    zero
  else
    let half := times (n / 2) (add p p)
    if n % 2 = 1 then add p half else half
  termination_by n

/-- The bytes of a point: the second coordinate, the lowest byte first, with the
lowest bit of the first coordinate as its highest bit. -/
def encode (p : Point) : List UInt8 :=
  Bytes.lowest 32 (p.y + p.x % 2 * 2 ^ 255)

/-- The number that goes with a private key: the two highest of its 256 bits are
zero and one, and the three lowest are zero. -/
def scalarOf (key : List UInt8) : Nat :=
  let n := Bytes.ofLowest ((Sha512.digest key).take 32)
  n % 2 ^ 254 / 8 * 8 + 2 ^ 254

/-- The public key that goes with a private key. -/
def publicKey (key : List UInt8) : List UInt8 :=
  encode (times (scalarOf key) base)

end Edwards
end FrameBridge
