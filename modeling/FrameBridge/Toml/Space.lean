import FrameBridge.Text.Reader

/-!
# Blanks, comments and ends of lines

A line ends with a line feed, which a carriage return can precede.  A comment
runs to the end of its line and holds no control character but tab.
-/

namespace FrameBridge
namespace Toml

open Reader

/-- A space or a tab. -/
def isBlank (c : Char) : Bool :=
  c == ' ' || c == '\t'

/-- A character that is no control character, except tab. -/
def isShown (c : Char) : Bool :=
  c == '\t' || (' ' ≤ c && c != '\x7f')

def blanks : Reader Unit := do
  let _ ← span isBlank

/-- Reads the end of a line. -/
def newline : Reader Unit := do
  let _ ← optional (char '\r')
  let _ ← char '\n'

def comment : Reader Unit := do
  let _ ← char '#'
  let _ ← span isShown

/-- Reads the end of a line or of the text. -/
def lineEnd : Reader Unit :=
  newline <|> atEnd

/-- Reads what may follow a statement on its line. -/
def lineRest : Reader Unit := do
  blanks
  let _ ← optional comment
  lineEnd

/-- Reads blanks, comments and ends of lines between the parts of an array. -/
def gap : Reader Unit := do
  let _ ← many ((do let _ ← span1 isBlank) <|> newline <|> (do comment; newline))

end Toml
end FrameBridge
