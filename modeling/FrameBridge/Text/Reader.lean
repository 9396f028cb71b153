/-!
# Readers

A reader takes some characters from the start of a text and returns a value
and the rest of the text, or fails.  A choice of readers goes back to where it
started.
-/

namespace FrameBridge

/-- A reader of values. -/
abbrev Reader (α : Type) : Type := StateT (List Char) Option α

namespace Reader

/-- Reads one character of a class. -/
def satisfying (inClass : Char → Bool) : Reader Char
  | c :: rest => if inClass c then some (c, rest) else none
  | [] => none

def char (expected : Char) : Reader Char :=
  satisfying (· == expected)

def string (expected : String) : Reader Unit := fun cs =>
  if expected.toList.isPrefixOf cs then some ((), cs.drop expected.toList.length) else none

/-- Reads the characters of a class, as many as there are. -/
def span (inClass : Char → Bool) : Reader (List Char) := fun cs =>
  some (cs.takeWhile inClass, cs.dropWhile inClass)

/-- Reads at least one character of a class. -/
def span1 (inClass : Char → Bool) : Reader (List Char) := do
  let c ← satisfying inClass
  let cs ← span inClass
  return c :: cs

/-- Reads a given number of characters of a class. -/
def exactly (n : Nat) (inClass : Char → Bool) : Reader (List Char) := fun cs =>
  let front := cs.take n
  if front.length = n ∧ front.all inClass then some (front, cs.drop n) else none

/-- Reads nothing, and looks at the next character. -/
def peek : Reader Char
  | c :: rest => some (c, c :: rest)
  | [] => none

/-- Reads nothing, at the end of the text. -/
def atEnd : Reader Unit
  | [] => some ((), [])
  | _ :: _ => none

/-- The value of a reader that must have one. -/
def checked {α : Type} : Option α → Reader α
  | some a => pure a
  | none => failure

/-- Reads values one after the other, as many as there are.  A value that takes
no character ends the row. -/
def manyOf {α : Type} (item : Reader α) (cs : List Char) : List α × List Char :=
  match item cs with
  | none => ([], cs)
  | some (a, rest) =>
      if rest.length < cs.length then
        let (more, rest) := manyOf item rest
        (a :: more, rest)
      else
        ([], cs)
  termination_by cs.length

/-- Reads values one after the other. -/
def many {α : Type} (item : Reader α) : Reader (List α) := fun cs =>
  some (manyOf item cs)

/-- Reads one value or more, divided by a separator. -/
def sepBy1 {α : Type} (item : Reader α) (separator : Char) : Reader (List α) := do
  let first ← item
  let more ← many (char separator *> item)
  return first :: more

/-- Reads any number of values, divided by a separator. -/
def sepBy {α : Type} (item : Reader α) (separator : Char) : Reader (List α) :=
  sepBy1 item separator <|> pure []

/-- Takes steps from a state, as long as there is one.  A step that takes no
character is the end. -/
def stepsFrom {σ : Type} (step : σ → Reader σ) (s : σ) (cs : List Char) : σ × List Char :=
  match step s cs with
  | none => (s, cs)
  | some (next, rest) =>
      if rest.length < cs.length then stepsFrom step next rest else (s, cs)
  termination_by cs.length

/-- Takes steps from a state. -/
def steps {σ : Type} (step : σ → Reader σ) (s : σ) : Reader σ := fun cs =>
  some (stepsFrom step s cs)

/-- What a reader makes of a whole text. -/
def parse? {α : Type} (reader : Reader α) (cs : List Char) : Option α :=
  match reader cs with
  | some (a, []) => some a
  | _ => none

end Reader
end FrameBridge
