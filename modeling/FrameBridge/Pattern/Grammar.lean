import FrameBridge.Pattern.Bracketed
import FrameBridge.Text.Alphanumeric

/-!
# Patterns

A pattern is made of branches.  A branch is a row of characters, classes, groups
and settings of modes; the signs for repetition stand behind what they repeat.
A setting of modes holds up to the end of the group that it stands in.

Numbers of repetitions would be written in braces; a brace cannot be closed
where a pattern stands, so there are none.
-/

namespace FrameBridge
namespace Pattern

open Reader

/-- The modes in force at some place of a pattern, and the names of the groups so
far. -/
structure Context where
  modes : Modes := {}
  names : List (List Char) := []

/-- How many parts a part of a branch has within each other, and whether it can be
repeated. -/
structure Item where
  height : Nat
  isRepeatable : Bool

/-- A branch up to some place, the last part first. -/
abbrev Branch : Type := Context × List Item

section Settings

/-- Reads letters for modes, and minus signs. -/
def modeLetters : Reader (List Char) :=
  span fun c => c == '-' || "imsUuRx".toList.contains c

/-- No letter is there twice, there is at most one minus sign, and it is not the
last sign. -/
def areModeLetters (letters : List Char) : Bool :=
  letters.eraseDups.length == letters.length && letters.getLast? != some '-'

/-- The modes with one of them changed. -/
def Modes.set (modes : Modes) (value : Bool) : Char → Modes
  | 'i' => { modes with ignoresCase := value }
  | 'u' => { modes with hasCharacters := value }
  | 'x' => { modes with isVerbose := value }
  | _ => modes

/-- The modes with some set, and those behind a minus sign taken back. -/
def Modes.change (modes : Modes) (letters : List Char) : Modes :=
  let on := letters.takeWhile (· != '-')
  let off := letters.dropWhile (· != '-')
  off.foldl (fun m c => m.set false c) (on.foldl (fun m c => m.set true c) modes)

/-- Reads letters for modes and changes the modes. -/
def changeModes (modes : Modes) : Reader (List Char × Modes) := do
  let letters ← modeLetters
  if areModeLetters letters then return (letters, modes.change letters) else failure

end Settings

section Names

/-- A character with which the name of a group can begin. -/
def isNameStart (c : Char) : Bool :=
  c == '_' || Text.isAlphabetic c

def isNameChar (c : Char) : Bool :=
  c == '_' || c == '.' || c == '[' || c == ']' || Text.isAlphanumeric c

/-- Reads the name of a group, which no other group has. -/
def groupName (names : List (List Char)) : Reader (List Char) := do
  string "?P<" <|> string "?<"
  let first ← satisfying isNameStart
  let name := first :: (← span isNameChar)
  let _ ← char '>'
  if names.contains name then failure else return name

end Names

section Branches

/-- Reads a sign for repetition, behind which a question mark can stand. -/
def repetition : Branch → Reader Branch
  | (_, []) => failure
  | (context, item :: items) => do
      let _ ← satisfying fun c => c == '*' || c == '+' || c == '?'
      let _ ← optional (char '?')
      if item.isRepeatable then
        return (context, ⟨item.height + 1, true⟩ :: items)
      else
        failure

def setting : Branch → Reader Branch := fun (context, items) => do
  let _ ← char '('
  gap context.modes
  let _ ← char '?'
  let (letters, modes) ← changeModes context.modes
  let _ ← char ')'
  if letters.isEmpty then failure
  return ({ context with modes }, ⟨0, false⟩ :: items)

/-- Reads the beginning of a group behind its parenthesis. -/
def groupStart (context : Context) : Reader Context :=
  (do
    let name ← groupName context.names
    return { context with names := name :: context.names }) <|>
  (do
    let _ ← char '?'
    let (_, modes) ← changeModes context.modes
    let _ ← char ':'
    return { context with modes }) <|>
  pure context

/-- Reads a group, given a reader of what is in it.  At its end the modes are
what they were before it. -/
def group (body : Context → Reader (Context × Nat)) : Branch → Reader Branch :=
  fun (context, items) => do
    let _ ← char '('
    gap context.modes
    let (inner, height) ← body (← groupStart context)
    gap inner.modes
    let _ ← char ')'
    return ({ context with names := inner.names }, ⟨height + 1, true⟩ :: items)

/-- A character that stands for itself. -/
def isLiteral (c : Char) : Bool :=
  !("\\.^$|()[?*+\x7b".toList.contains c)

/-- Reads a part without parts of its own. -/
def atom (modes : Modes) : Reader Atom :=
  (char '.' *> pure .any) <|> (char '^' *> pure .border) <|> (char '$' *> pure .border) <|>
    escape modes <|> (do return .literal (← satisfying isLiteral) false)

/-- Reads a part without parts of its own as a part of a branch. -/
def atomItem : Branch → Reader Branch := fun (context, items) => do
  if (← atom context.modes).isAllowed context.modes then
    return (context, ⟨0, true⟩ :: items)
  else
    failure

/-- Reads a class as a part of a branch. -/
def classOfBranch : Branch → Reader Branch := fun (context, items) => do
  let part ← bracketed context.modes heightLimit
  return (context, ⟨part.height, true⟩ :: items)

/-- Reads the next part of a branch. -/
def item (body : Context → Reader (Context × Nat)) (branch : Branch) : Reader Branch := do
  gap branch.1.modes
  repetition branch <|> setting branch <|> group body branch <|> classOfBranch branch <|>
    atomItem branch

def branch (body : Context → Reader (Context × Nat)) (context : Context) :
    Reader (Context × Nat) := do
  let (context, items) ← steps (item body) (context, [])
  return (context, heightOfRow (items.map Item.height))

/-- Reads branches, given a reader of what is in a group. -/
def branchesBy (body : Context → Reader (Context × Nat)) (context : Context) :
    Reader (Context × Nat) := do
  let (context, height) ← branch body context
  let (context, heights) ← steps (fun (context, heights) => do
    gap context.modes
    let _ ← char '|'
    let (context, height) ← branch body context
    return (context, height :: heights)) (context, [height])
  return (context, heightOfRow heights)

/-- Reads branches with groups of at most some height. -/
def branches : Nat → Context → Reader (Context × Nat)
  | 0 => branchesBy fun _ => failure
  | n + 1 => branchesBy (branches n)

end Branches

/-- Reads a whole pattern and gives its height. -/
def whole : Reader Nat := do
  let (context, height) ← branches heightLimit {}
  gap context.modes
  return height

/-- The text is a pattern, and not too many of its parts are within each
other. -/
def isValid (cs : List Char) : Bool :=
  (parse? whole cs).any fun height => height ≤ heightLimit

end Pattern
end FrameBridge
