import FrameBridge.Decimal.Binary64
import FrameBridge.Pattern.Grammar

/-!
# Values of fields

A value that a field must have is written as a truth value, a whole number, a
number with a fraction, or else a pattern for the text of the field.  What can
be read in several ways is read in the first of them.
-/

namespace FrameBridge

/-- A value that a field must have.  The kinds are given in their order.  Whole
numbers have 64 bits, and what is written with a minus sign is an integer. -/
inductive LogValue where
  | truth (b : Bool)
  | real (f : Binary64)
  | undefined
  | natural (n : Nat)
  | integer (n : Int)
  | pattern (text : String)
  deriving DecidableEq

namespace LogValue

section Reading

def truth? (cs : List Char) : Option LogValue :=
  if cs = "true".toList then some (.truth true)
  else if cs = "false".toList then some (.truth false)
  else none

/-- Reads a number of 64 bits without a minus sign. -/
def natural? (cs : List Char) : Option LogValue := do
  let n ← Text.natural? cs
  if n < 2 ^ 64 then return .natural n else none

/-- Reads a number of 64 bits with a minus sign. -/
def integer? : List Char → Option LogValue
  | '-' :: digits => do
      let n ← Text.decimal? digits
      if n ≤ 2 ^ 63 then return .integer (-n) else none
  | _ => none

/-- Reads a number with a fraction. -/
def real? (cs : List Char) : Option LogValue := do
  let f ← Binary64.parse? cs
  return if f.isDefined then .real f else .undefined

def pattern? (cs : List Char) : Option LogValue :=
  if Pattern.isValid cs then some (.pattern (String.ofList cs)) else none

def parse? (cs : List Char) : Option LogValue :=
  truth? cs <|> natural? cs <|> integer? cs <|> real? cs <|> pattern? cs

end Reading

def render : LogValue → String
  | truth b => if b then "true" else "false"
  | real f => f.render
  | undefined => "NaN"
  | natural n => toString n
  | integer n => toString n
  | pattern text => text

/-- The place of the kind of a value among the kinds. -/
def kind : LogValue → Nat
  | truth _ => 0
  | real _ => 1
  | undefined => 2
  | natural _ => 3
  | integer _ => 4
  | pattern _ => 5

/-- The order of values: by their kinds, and then by the values themselves.
Numbers are equal that have the same value, whatever their signs. -/
def order : LogValue → LogValue → Ordering
  | truth a, truth b => compare a b
  | real a, real b => compare a.rank b.rank
  | natural a, natural b => compare a b
  | integer a, integer b => compare a b
  | pattern a, pattern b => compare a b
  | a, b => compare a.kind b.kind

end LogValue
end FrameBridge
