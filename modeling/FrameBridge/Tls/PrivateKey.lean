import FrameBridge.Crypto.Edwards
import FrameBridge.Tls.PublicKey

/-!
# Private keys

A private key comes in one of three forms: with the name of its algorithm, or
without it as the numbers of a modulus or as a number for an elliptic curve.
What it holds must fit together.  Then the public key that goes with it is
known.
-/

namespace FrameBridge
namespace PrivateKey

open Der

section Curves

/-- The name of fields that have as many elements as a prime number. -/
def primeFieldName : List UInt8 := [0x2a, 0x86, 0x48, 0xce, 0x3d, 0x01, 0x01]

def namedCurve? (name : List UInt8) : Option Curve :=
  Curve.all.find? fun c => c.name == name

/-- Reads the prime number of a field. -/
def field : Der.Reader Nat := do
  if (← value identifier) ≠ primeFieldName then failure
  natural

/-- Reads the constants of an equation, which a seed can follow. -/
def equation : Der.Reader (Nat × Nat) := do
  let a ← value octetString
  let b ← value octetString
  let _seed ← value? bitString
  return (Bytes.toNat a, Bytes.toNat b)

/-- The coordinates of a point that are given as bytes of equal number. -/
def coordinates? : List UInt8 → Option (Nat × Nat)
  | [] => none
  | form :: bytes =>
      let half := bytes.length / 2
      if form = 4 ∧ bytes.length % 2 = 0 then
        some (Bytes.toNat (bytes.take half), Bytes.toNat (bytes.drop half))
      else
        none

/-- Reads a curve that is given by its numbers. -/
def explicitCurve : Der.Reader Curve := do
  if (← natural) ≠ 1 then failure
  let prime ← whole sequence field
  let (a, b) ← whole sequence equation
  let (baseX, baseY) ← checked (coordinates? (← value octetString))
  let order ← natural
  match ← value? integer with
  | none => pure ()
  | some cofactor => if cofactor ≠ [1] then failure
  checked (Curve.all.find? fun c =>
    c.prime == prime && c.prime == a + 3 && c.b == b && c.baseX == baseX && c.baseY == baseY &&
      c.order == order)

def curve : Der.Reader Curve := do
  match ← value? sequence with
  | some content => checked (parseWhole? explicitCurve content)
  | none => checked (namedCurve? (← value identifier))

/-- Reads the point that can stand in a private key for a curve. -/
def statedPoint? (c : Curve) (content : List UInt8) : Option Curve.Point := do
  c.decodePoint? (← parseWhole? wholeBits content)

/-- Reads the content of a private key for a curve. -/
def curveNumbers (c : Curve) : Der.Reader PublicKey := do
  if (← natural) ≠ 1 then failure
  let n := Bytes.toNat (← value octetString)
  match ← value? (numbered 0) with
  | none => pure ()
  | some content => if parseWhole? curve content ≠ some c then failure
  let stated ← match ← value? (numbered 1) with
    | none => pure none
    | some content => some <$> checked (statedPoint? c content)
  if n = 0 ∨ c.order ≤ n then failure
  let point := c.pointOf n
  if !stated.all (· == point) then failure
  match point with
  | .affine x y => return .point c x y
  | .zero => failure

/-- Reads a private key for a curve. -/
def curveKey (c : Curve) : Der.Reader PublicKey :=
  whole sequence (curveNumbers c)

end Curves

section Moduli

/-- The numbers of a private key with a modulus, whose factors are `p` and `q`: the
exponents, the private exponent for each factor, and the inverse of `q` modulo
`p`. -/
structure Numbers where
  modulus : Nat
  exponent : Nat
  secret : Nat
  p : Nat
  q : Nat
  secretP : Nat
  secretQ : Nat
  inverse : Nat

namespace Numbers

/-- The least number of bits of a modulus. -/
def leastBits : Nat := 2048

/-- The greatest number of bits of a modulus. -/
def mostBits : Nat := 8192

/-- The greatest number of bits of a public exponent. -/
def mostExponentBits : Nat := 33

/-- The first number is the inverse of the second modulo the third. -/
def isInverse (a b m : Nat) : Bool :=
  a < m && a * b % m == 1

/-- The modulus and the public exponent are of allowed sizes, and odd. -/
def areInRange (k : Numbers) : Bool :=
  2 ^ (leastBits - 1) ≤ k.modulus && k.modulus < 2 ^ mostBits && k.modulus % 2 == 1 &&
    1 < k.exponent && k.exponent < 2 ^ mostExponentBits && k.exponent % 2 == 1

/-- The numbers fit together. -/
def areConsistent (k : Numbers) : Bool :=
  k.secret < k.modulus && k.p < k.modulus && k.q < k.modulus && k.p * k.q == k.modulus &&
    k.secret * k.exponent % (k.p - 1) == 1 && k.secret * k.exponent % (k.q - 1) == 1 &&
    isInverse k.secretP k.exponent (k.p - 1) && isInverse k.secretQ k.exponent (k.q - 1) &&
    isInverse k.inverse k.q k.p

def read : Der.Reader Numbers := do
  if (← natural) ≠ 0 then failure
  return {
    modulus := ← natural
    exponent := ← natural
    secret := ← natural
    p := ← natural
    q := ← natural
    secretP := ← natural
    secretQ := ← natural
    inverse := ← natural }

end Numbers

/-- Reads a private key with a modulus. -/
def modulusKey : Der.Reader PublicKey := do
  let k ← whole sequence Numbers.read
  if k.areInRange && k.areConsistent then
    return .modulus k.modulus k.exponent
  else
    failure

end Moduli

section Named

/-- The number of bytes of a private key for the twisted curve. -/
def twistedSize : Nat := 32

/-- A private key for the twisted curve, perhaps with its public key. -/
def twistedKey (stated : Option (List UInt8)) : Der.Reader PublicKey := do
  let key ← value octetString
  if key.length ≠ twistedSize then failure
  let publicKey := Edwards.publicKey key
  if stated.all (· == 0 :: publicKey) then return .twisted publicKey else failure

/-- The names of the algorithms with a modulus; the second one is an old name. -/
def modulusNames : List (List UInt8) :=
  [PublicKey.modulusName, [0x55, 0x08, 0x01, 0x01]]

/-- The private key of an algorithm with parameters.  Only a key for the twisted
curve can have its public key beside it. -/
def ofAlgorithm? (name parameters key : List UInt8) (stated : Option (List UInt8)) :
    Option PublicKey :=
  if name = PublicKey.twistedName ∧ parameters = [] then
    parseWhole? (twistedKey stated) key
  else if stated.isSome then
    none
  else if name = PublicKey.curveName then do
    parseWhole? (curveKey (← parseWhole? curve parameters)) key
  else if modulusNames.contains name ∧ parseWhole? (value null) parameters = some [] then
    parseWhole? modulusKey key
  else
    none

/-- Reads the name of an algorithm and its parameters. -/
def algorithm : Der.Reader (List UInt8 × List UInt8) := do
  let name ← value identifier
  return (name, ← remaining)

/-- Reads the content of a private key that names its algorithm.  In the second
version the public key can stand beside it. -/
def namedKey : Der.Reader PublicKey := do
  let version ← natural
  if 1 < version then failure
  let (name, parameters) ← nested sequence algorithm
  let key ← value octetString
  let _attributes ← value? (numbered 0)
  let stated ← if version = 1 then value? (numberedBytes 1) else pure none
  checked (ofAlgorithm? name parameters key stated)

end Named

section Forms

/-- A form of private keys: one with the name of the algorithm, or bare numbers. -/
inductive Form where
  | named
  | modulus
  | curve

/-- The number of bytes of the tag and the length at the beginning of a value,
given the first byte of the length. -/
def headerSize (length : UInt8) : Nat :=
  if length < 0x80 then 2 else 2 + (length.toNat - 0x80)

/-- The form of a private key, as its first bytes show it: a version, and behind
it the beginning of an algorithm if it is named. -/
def Form.ofBytes? : List UInt8 → Option Form
  | 0x30 :: length :: rest =>
      match rest.drop (headerSize length - 2) with
      | 0x02 :: 0x01 :: _ :: 0x30 :: _ => some .named
      | 0x02 :: 0x01 :: 0x00 :: _ => some .modulus
      | 0x02 :: 0x01 :: 0x01 :: _ => some .curve
      | _ => none
  | _ => none

/-- The public key that goes with a private key. -/
def publicKey? (bytes : List UInt8) : Option PublicKey := do
  match ← Form.ofBytes? bytes with
  | .named => parse? (nested sequence namedKey) bytes
  | .modulus => parse? modulusKey bytes
  | .curve => Curve.all.findSome? fun c => parse? (curveKey c) bytes

end Forms

end PrivateKey
end FrameBridge
