/-!
# Documents

A document is the tree of values that a configuration text stands for, before
its settings are read.
-/

namespace FrameBridge

/-- A value of a document.  A table has no name twice.  No setting takes a number
with a fraction or a moment, so what these stand for is not kept. -/
inductive Document where
  | null
  | bool (b : Bool)
  | int (n : Int)
  | float
  | moment
  | text (s : String)
  | array (items : List Document)
  | table (entries : List (String × Document))

namespace Document

def lookup (name : String) (entries : List (String × Document)) : Option Document :=
  (entries.find? fun entry => entry.1 == name).map Prod.snd

end Document
end FrameBridge
