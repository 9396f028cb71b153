import FrameBridge.Text.Ascii
import FrameBridge.Toml.Space

/-!
# Texts

A text is written in one of four ways: between quotes or between apostrophes,
and either on one line or, with the mark written three times, on several.
Between quotes a backslash starts an escape.  On several lines a line break
right after the opening mark is dropped, every line break is a line feed, and
one or two marks may stand right before the closing mark.
-/

namespace FrameBridge
namespace Toml

open Reader

section Escapes

/-- Reads the number of a character in hexadecimal. -/
def codePoint (digits : Nat) : Reader Char := do
  let cs ← exactly digits fun c => (Text.hexValue c).isSome
  let n := (cs.filterMap Text.hexValue).foldl (fun n d => n * 16 + d) 0
  if n.isValidChar then pure (Char.ofNat n) else failure

/-- Reads what follows the backslash of an escape. -/
def escapeBody : Reader Char := do
  match ← satisfying fun _ => true with
  | 'b' => return '\x08'
  | 't' => return '\t'
  | 'n' => return '\n'
  | 'f' => return '\x0c'
  | 'r' => return '\r'
  | '"' => return '"'
  | '\\' => return '\\'
  | 'u' => codePoint 4
  | 'U' => codePoint 8
  | _ => failure

def escape : Reader Char :=
  char '\\' *> escapeBody

/-- Reads a backslash at the end of a line, and the blanks and line breaks
behind it. -/
def escapedBreak : Reader Unit := do
  let _ ← char '\\'
  blanks
  newline
  let _ ← many ((do let _ ← span1 isBlank) <|> newline)

end Escapes

section OneLine

/-- A character that stands for itself between quotes. -/
def isQuotable (c : Char) : Bool :=
  isShown c && c != '"' && c != '\\'

/-- A character that stands for itself between apostrophes. -/
def isLiteral (c : Char) : Bool :=
  isShown c && c != '\''

/-- Reads a text between quotes. -/
def basicText : Reader String := do
  let _ ← char '"'
  let cs ← many (satisfying isQuotable <|> escape)
  let _ ← char '"'
  return String.ofList cs

/-- Reads a text between apostrophes. -/
def literalText : Reader String := do
  let _ ← char '\''
  let cs ← span isLiteral
  let _ ← char '\''
  return String.ofList cs

end OneLine

section SeveralLines

/-- Reads one or two marks that close nothing. -/
def looseMarks (mark : Char) : Reader (List Char) := do
  let marks ← span1 (· == mark)
  if marks.length ≤ 2 then pure marks else failure

/-- Reads the closing mark, with up to two marks before it. -/
def closingMarks (mark : Char) : Reader (List Char) := do
  let marks ← span1 (· == mark)
  if 3 ≤ marks.length ∧ marks.length ≤ 5 then pure (marks.drop 3) else failure

/-- Reads a text on several lines, of pieces. -/
def linesText (mark : Char) (piece : Reader (List Char)) : Reader String := do
  let _ ← exactly 3 (· == mark)
  let _ ← optional newline
  let pieces ← many (piece <|> (do newline; pure ['\n']) <|> looseMarks mark)
  let last ← closingMarks mark
  return String.ofList (pieces.flatten ++ last)

/-- Reads a text between triple quotes. -/
def basicLines : Reader String :=
  linesText '"'
    (span1 isQuotable <|> (do escapedBreak; pure []) <|> (do let c ← escape; pure [c]))

/-- Reads a text between triple apostrophes. -/
def literalLines : Reader String :=
  linesText '\'' (span1 isLiteral)

end SeveralLines

def text : Reader String :=
  basicLines <|> basicText <|> literalLines <|> literalText

end Toml
end FrameBridge
