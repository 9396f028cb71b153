import FrameBridge.Toml.Moment
import FrameBridge.Toml.Number
import FrameBridge.Toml.Text
import FrameBridge.Toml.Tree

/-!
# Documents in TOML

A text is a row of statements: headers of tables, headers of elements of
arrays of tables, and keys with values.  The statements build a tree one after
the other; a statement that does not fit what is there makes the whole text
unreadable.
-/

namespace FrameBridge
namespace Toml

open Reader

section Keys

/-- The number of parts that a key must stay below. -/
def partLimit : Nat := 80

/-- The number of arrays and inline tables within each other that a value can
have. -/
def depthLimit : Nat := 79

/-- A character of a key without quotes. -/
def isKeyChar (c : Char) : Bool :=
  Text.isAsciiAlnum c || c == '-' || c == '_'

/-- Reads one part of a key. -/
def keyPart : Reader String := do
  blanks
  let part ← basicText <|> literalText <|> (String.ofList <$> span1 isKeyChar)
  blanks
  return part

/-- Reads a key: a path and a last part. -/
def key : Reader (List String × String) := do
  let parts ← sepBy1 keyPart '.'
  if parts.length < partLimit then
    let last ← checked parts.getLast?
    return (parts.dropLast, last)
  else
    failure

end Keys

section Values

variable (value : Reader Document)

/-- Reads a key with a value. -/
def keyValue : Reader ((List String × String) × Document) := do
  let k ← key
  let _ ← char '='
  blanks
  let d ← value
  return (k, d)

def array : Reader Document := do
  let _ ← char '['
  let items ← sepBy (do gap; let d ← value; gap; pure d) ','
  if !items.isEmpty then
    let _ ← optional (char ',')
  gap
  let _ ← char ']'
  return .array items

/-- The entries that keys with values make. -/
def entriesOf (pairs : List ((List String × String) × Document)) : Option Entries :=
  pairs.foldlM (fun entries ((path, last), d) => entries.putDotted path last d .header) []

def inlineTable : Reader Document := do
  let _ ← char '\x7b'
  let pairs ← sepBy (do let pair ← keyValue value; blanks; pure pair) ','
  blanks
  let _ ← char '\x7d'
  let entries ← checked (entriesOf pairs)
  return .table (Node.entriesToDocument entries)

end Values

/-- Reads a value of at most some depth. -/
def value : (depth : Nat) → Reader Document
  | 0 => scalar
  | depth + 1 => scalar <|> array (value depth) <|> inlineTable (value depth)
where
  scalar : Reader Document :=
    (Document.text <$> text) <|>
      (do string "true"; pure (.bool true)) <|>
      (do string "false"; pure (.bool false)) <|>
      (do moment; pure .moment) <|>
      number

section Statements

/-- A statement: a header of a table or of an element, a key with a value, or nothing. -/
inductive Statement where
  | table (path : List String) (last : String)
  | element (path : List String) (last : String)
  | pair (path : List String) (last : String) (d : Document)
  | blank

def elementHeader : Reader Statement := do
  string "[["
  let (path, last) ← key
  string "]]"
  lineRest
  return .element path last

def tableHeader : Reader Statement := do
  let _ ← char '['
  let (path, last) ← key
  let _ ← char ']'
  lineRest
  return .table path last

/-- Reads a key with a value, and the end of its line. -/
def pairLine : Reader Statement := do
  let ((path, last), d) ← keyValue (value depthLimit)
  lineRest
  return .pair path last d

/-- Reads a line without a statement. -/
def blankLine : Reader Statement := do
  (do comment; lineEnd) <|> newline
  return .blank

def statement : Reader Statement := do
  blanks
  blankLine <|> elementHeader <|> tableHeader <|> pairLine

end Statements

section Trees

/-- A tree with the path of the table that keys belong to. -/
structure Building where
  root : Entries := []
  current : List String := []

/-- Lets a statement build on. -/
def Building.add (b : Building) : Statement → Option Building
  | .table path last => do
      return ⟨← Entries.changeAt .implied (Entries.openTable last) path .header b.root,
        path ++ [last]⟩
  | .element path last => do
      return ⟨← Entries.changeAt .implied (Entries.openElement last) path .header b.root,
        path ++ [last]⟩
  | .pair path last d => do
      return { b with
        root := ← Entries.changeAt .implied (Entries.putDotted path last d) b.current .header b.root }
  | .blank => some b

end Trees

/-- Reads a whole text; a byte order mark at its start is dropped. -/
def parse? (s : String) : Option Document := do
  let cs := s.toList
  let cs := if cs.head? = some '\ufeff' then cs.drop 1 else cs
  let (statements, rest) := manyOf statement cs
  if rest.all isBlank then
    let b ← statements.foldlM Building.add {}
    return .table (Node.entriesToDocument b.root)
  else
    none

end Toml
end FrameBridge
