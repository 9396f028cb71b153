import FrameBridge.Config.Document

/-!
# Trees under construction

While a text is read, each table remembers how it came about, because that
decides what may be added to it later.  A table with a header of its own can
not get a second one; a table that dotted keys made can only be extended by
dotted keys, and by headers for its own tables.
-/

namespace FrameBridge
namespace Toml

/-- How a table came about: by a header of its own, or on the way to another header
or of a dotted key. -/
inductive Origin where
  | header
  | implied
  | dotted
  deriving DecidableEq

inductive Node where
  | value (d : Document)
  | table (origin : Origin) (entries : List (String × Node))
  | tables (elements : List (List (String × Node)))

abbrev Entries : Type := List (String × Node)

namespace Node

mutual

/-- The document of a finished node. -/
def toDocument : Node → Document
  | value d => d
  | table _ entries => .table (entriesToDocument entries)
  | tables elements => .array (elementsToDocument elements)

/-- The documents of the entries of a table. -/
def entriesToDocument : List (String × Node) → List (String × Document)
  | [] => []
  | (key, node) :: rest => (key, node.toDocument) :: entriesToDocument rest

/-- The documents of the elements of an array of tables. -/
def elementsToDocument : List (List (String × Node)) → List Document
  | [] => []
  | entries :: rest => .table (entriesToDocument entries) :: elementsToDocument rest

end

end Node

namespace Entries

def get? (entries : Entries) (key : String) : Option Node :=
  (entries.find? fun entry => entry.1 == key).map Prod.snd

def put (key : String) (node : Node) : Entries → Entries
  | [] => [(key, node)]
  | (k, n) :: rest => if k = key then (key, node) :: rest else (k, n) :: put key node rest

/-- A change of a table, given how it came about. -/
abbrev Change : Type := Origin → Entries → Option Entries

/-- Changes the last element of an array of tables. -/
def changeLast (change : Change) : List Entries → Option (List Entries)
  | [] => none
  | [entries] => do return [← change .header entries]
  | entries :: rest => do return entries :: (← changeLast change rest)

/--
Changes the table at the end of a path.  Tables that are missing on the way
are made, and of an array of tables the last one is taken.  A dotted key does
not enter tables that have headers.
-/
def changeAt (made : Origin) (change : Change) : List String → Change
  | [], origin, entries => change origin entries
  | key :: path, _, entries =>
      match entries.get? key with
      | none => do
          return entries.put key (.table made (← changeAt made change path made []))
      | some (.table origin sub) =>
          if made = .dotted ∧ origin = .header then
            none
          else do
            return entries.put key (.table origin (← changeAt made change path origin sub))
      | some (.tables elements) => do
          return entries.put key (.tables (← changeLast (changeAt made change path) elements))
      | some (.value _) => none

/-- Puts a value under a new key.  The table must be the one that the key was
written in, or one that dotted keys made. -/
def putValue (isDotted : Bool) (key : String) (d : Document) : Change := fun origin entries =>
  if (isDotted ∧ origin ≠ .dotted) ∨ (¬ isDotted ∧ origin = .dotted) then
    none
  else
    match entries.get? key with
    | some _ => none
    | none => some (entries.put key (.value d))

def putDotted (path : List String) (key : String) (d : Document) : Change :=
  changeAt .dotted (putValue (!path.isEmpty) key d) path

/-- Gives a table its header. -/
def openTable (key : String) : Change := fun _ entries =>
  match entries.get? key with
  | none => some (entries.put key (.table .header []))
  | some (.table .implied sub) => some (entries.put key (.table .header sub))
  | some _ => none

/-- Adds an element to an array of tables. -/
def openElement (key : String) : Change := fun _ entries =>
  match entries.get? key with
  | none => some (entries.put key (.tables [[]]))
  | some (.tables elements) => some (entries.put key (.tables (elements ++ [[]])))
  | some _ => none

end Entries
end Toml
end FrameBridge
