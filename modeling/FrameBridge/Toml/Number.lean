import FrameBridge.Config.Document
import FrameBridge.Text.Ascii
import FrameBridge.Text.Reader

/-!
# Numbers

An integer is written in decimal with an optional sign and without leading
zeros, or in another base without a sign.  Digits can be divided by single
underscores.  An integer has 64 bits.

A number with a fraction or an exponent is no integer; it is refused if it
rounds to infinity.
-/

-- powers are those of the core library, also where algebra with powers of its own is imported
attribute [instance(high), default_instance 20000] instPowNat

namespace FrameBridge
namespace Toml

open Reader

section Digits

/-- Reads digits of a base, which single underscores can divide. -/
def digits (base : Nat) : Reader (List Nat) := do
  let isDigit := fun c => (Text.digitValue base c).isSome
  let first ← satisfying isDigit
  let more ← many ((do let _ ← char '_'; satisfying isDigit) <|> satisfying isDigit)
  return (first :: more).filterMap (Text.digitValue base)

/-- The number that digits stand for. -/
def valueOf (base : Nat) (ds : List Nat) : Nat :=
  ds.foldl (fun n d => n * base + d) 0

/-- Reads a sign; true for minus. -/
def sign : Reader Bool := do
  match ← optional (satisfying fun c => c == '+' || c == '-') with
  | some '-' => return true
  | _ => return false

/-- Reads decimal digits without leading zeros. -/
def wholeDigits : Reader (List Nat) := do
  match ← peek with
  | '0' => do
      let _ ← char '0'
      return [0]
  | _ => digits 10

end Digits

section Integers

/-- Reads an integer in a base that is marked by two characters. -/
def integerIn (mark : String) (base : Nat) : Reader Int := do
  string mark
  let n := valueOf base (← digits base)
  if n < 2 ^ 63 then pure (Int.ofNat n) else failure

def decimalInteger : Reader Int := do
  let negative ← sign
  let n := valueOf 10 (← wholeDigits)
  let value : Int := if negative then -n else n
  if -(2 ^ 63) ≤ value ∧ value < 2 ^ 63 then pure value else failure

def integer : Reader Int :=
  integerIn "0x" 16 <|> integerIn "0o" 8 <|> integerIn "0b" 2 <|> decimalInteger

end Integers

section Fractions

def exponent : Reader Int := do
  let _ ← satisfying fun c => c == 'e' || c == 'E'
  let negative ← sign
  let n := valueOf 10 (← digits 10)
  return if negative then -n else n

/-- The least number that rounds to infinity. -/
def overflowBound : Nat := 2 ^ 1024 - 2 ^ 970

/-- The number `n * 10 ^ e` rounds to infinity. -/
def overflows (n : Nat) (e : Int) : Bool :=
  match e with
  | .ofNat k => n ≠ 0 && (400 < k || overflowBound ≤ n * 10 ^ k)
  | .negSucc k =>
      if k + 1 < (Nat.toDigits 10 n).length then overflowBound * 10 ^ (k + 1) ≤ n else false

/-- Reads a number with a fraction or an exponent. -/
def fractional : Reader Unit := do
  let negative ← sign
  let whole ← wholeDigits
  let fraction ← optional (char '.' *> digits 10)
  let power ← optional exponent
  if fraction.isNone && power.isNone then
    failure
  let places := fraction.getD []
  if !negative && overflows (valueOf 10 (whole ++ places)) (power.getD 0 - places.length) then
    failure

/-- Reads infinity or the result of an undefined operation. -/
def special : Reader Unit := do
  let _ ← sign
  string "inf" <|> string "nan"

end Fractions

def number : Reader Document :=
  (do fractional <|> special; pure .float) <|> (do let n ← integer; pure (.int n))

end Toml
end FrameBridge
