import FrameBridge.Crypto.Curve
import FrameBridge.Tls.Der

/-!
# Public keys

A public key is described by the name of its algorithm, the parameters of the
algorithm, and a string of bits.
-/

namespace FrameBridge

/-- A public key.  A point of the twisted curve is given as bytes. -/
inductive PublicKey where
  | point (curve : Curve) (x y : Nat)
  | modulus (modulus exponent : Nat)
  | twisted (bytes : List UInt8)
  deriving DecidableEq

namespace PublicKey

/-- The name of the algorithms on elliptic curves. -/
def curveName : List UInt8 := [0x2a, 0x86, 0x48, 0xce, 0x3d, 0x02, 0x01]

/-- The name of the algorithms with a modulus. -/
def modulusName : List UInt8 := [0x2a, 0x86, 0x48, 0x86, 0xf7, 0x0d, 0x01, 0x01, 0x01]

/-- The name of the algorithm on the twisted curve. -/
def twistedName : List UInt8 := [0x2b, 0x65, 0x70]

/-- The name of the algorithm and its parameters. -/
def algorithm : PublicKey → List UInt8
  | point curve _ _ => Der.encode Der.identifier curveName ++ Der.encode Der.identifier curve.name
  | modulus _ _ => Der.encode Der.identifier modulusName ++ Der.encode Der.null []
  | twisted _ => Der.encode Der.identifier twistedName

/-- The bytes of the key itself. -/
def content : PublicKey → List UInt8
  | point curve x y => curve.encodePoint x y
  | modulus n e => Der.encode Der.sequence (Der.encodeNatural n ++ Der.encodeNatural e)
  | twisted bytes => bytes

/-- The description of the key. -/
def info (key : PublicKey) : List UInt8 :=
  Der.encode Der.sequence key.algorithm ++ Der.encode Der.bitString (0 :: key.content)

end PublicKey
end FrameBridge
