import FrameBridge.Pattern.Basic

/-!
# Classes in brackets

A class in brackets holds characters, ranges of characters, named classes and
other classes in brackets.  Behind the opening bracket a circumflex takes the
complement.  Classes can be cut with each other, taken from each other, and
joined without what they share.

Where single bytes are described, all bytes above ASCII are alike to every part
of a class.  So one truth value tells which of them a class holds, and a class
in brackets must hold none.
-/

namespace FrameBridge
namespace Pattern

open Reader

/-- How many parts a part of a class has within each other, and whether it holds the
bytes above ASCII. -/
structure ClassPart where
  height : Nat
  hasHigh : Bool

namespace ClassPart

/-- A part that holds no bytes above ASCII and no other parts. -/
def plain : ClassPart := ⟨0, false⟩

/-- The parts taken together. -/
def join (parts : List ClassPart) : ClassPart :=
  ⟨heightOfRow (parts.map height), parts.any hasHigh⟩

end ClassPart

/-- An operation on two classes, named after what it keeps. -/
inductive ClassOperation where
  | both
  | firstOnly
  | oneOnly

namespace ClassOperation

def read : Reader ClassOperation :=
  (string "&&" *> pure both) <|> (string "--" *> pure firstOnly) <|> (string "~~" *> pure oneOnly)

/-- The result for one element. -/
def apply : ClassOperation → Bool → Bool → Bool
  | both, a, b => a && b
  | firstOnly, a, b => a && !b
  | oneOnly, a, b => a != b

/-- The result for two parts. -/
def combine (o : ClassOperation) (a b : ClassPart) : ClassPart :=
  ⟨1 + max a.height b.height, o.apply a.hasHigh b.hasHigh⟩

end ClassOperation

section Items

variable (modes : Modes)

/-- Reads a character of a class, or what a backslash stands for. -/
def classAtom : Reader Atom :=
  escape modes <|> (do return .literal (← satisfying (· != '\\')) false)

/-- The part can stand in a class. -/
def isInClass : Atom → Bool
  | .literal c _ => if modes.hasCharacters then !modes.ignoresCase else isAscii c
  | .named isNegated => (Atom.named isNegated).isAllowed modes
  | _ => false

/-- Reads the second end of a range. -/
def rangeEnd : Reader Atom := do
  gap modes
  let _ ← char '-'
  gap modes
  let c ← peek
  if c == ']' || c == '-' then failure
  classAtom modes

/-- Reads a range, or what stands alone. -/
def classRange : Reader ClassPart := do
  let first ← classAtom modes
  if !isInClass modes first then failure
  match ← optional (rangeEnd modes) with
  | none => return .plain
  | some last =>
      match first, last with
      | .literal c _, .literal d _ =>
          if isInClass modes last && c ≤ d then return .plain else failure
      | _, _ => failure

def classNames : List String :=
  ["alnum", "alpha", "ascii", "blank", "cntrl", "digit", "graph", "lower", "print", "punct",
    "space", "upper", "word", "xdigit"]

/-- Reads the name of a class between colons. -/
def namedClass : Reader ClassPart := do
  string "[:"
  let isNegated := (← optional (char '^')).isSome
  let name ← span (· != ':')
  string ":]"
  if !classNames.contains (String.ofList name) then failure
  return ⟨0, isNegated⟩

/-- Reads nothing, where a class does not end and no operation is next. -/
def inUnion : Reader Unit := fun cs =>
  match ((char ']' *> pure ()) <|> (ClassOperation.read *> pure ())) cs with
  | some _ => none
  | none => some ((), cs)

/-- Reads something that is part of a class, given a reader of classes in
brackets. -/
def classItem (bracketed : Reader ClassPart) : Reader ClassPart := do
  gap modes
  inUnion
  match ← optional namedClass with
  | some part => if modes.hasCharacters && modes.ignoresCase then failure else return part
  | none =>
      if (← peek) == '[' then bracketed else classRange modes

end Items

section Classes

variable (modes : Modes)

/-- Reads a sign that stands for itself at the start of a class. -/
def leading (c : Char) : Reader ClassPart := do
  let c ← char c
  gap modes
  if isInClass modes (.literal c false) then return .plain else failure

/-- Reads the signs that stand for themselves at the start of a class: any
number of dashes, or a closing bracket. -/
def leadingSigns : Reader (List ClassPart) := do
  match ← many (leading modes '-') with
  | [] => List.singleton <$> leading modes ']' <|> pure []
  | dashes => return dashes

def operations (bracketed : Reader ClassPart) : ClassPart → Reader ClassPart :=
  steps fun part => do
    gap modes
    let operation ← ClassOperation.read
    return operation.combine part (.join (← many (classItem modes bracketed)))

/-- Reads a class in brackets, given a reader of classes in brackets within
it. -/
def bracketedBy (bracketed : Reader ClassPart) : Reader ClassPart := do
  let _ ← char '['
  gap modes
  let isNegated := (← optional (char '^')).isSome
  gap modes
  let signs ← leadingSigns modes
  let items ← many (classItem modes bracketed)
  let part ← operations modes bracketed (.join (signs ++ items))
  gap modes
  let _ ← char ']'
  if !modes.hasCharacters && part.hasHigh != isNegated then failure
  return ⟨1 + part.height, false⟩

/-- Reads a class in brackets of at most some height. -/
def bracketed : Nat → Reader ClassPart
  | 0 => failure
  | n + 1 => bracketedBy modes (bracketed n)

end Classes

end Pattern
end FrameBridge
