import FrameBridge.Text.Ascii
import FrameBridge.Text.Blank
import FrameBridge.Text.Reader

/-!
# Parts of patterns

A pattern describes texts.  Three modes govern how it is read: whether letter
case is ignored, whether it describes characters or single bytes, and whether
blanks and comments in it have no meaning.

No table of letters is at hand.  So what describes characters can neither
ignore letter case nor use the classes of digits, blanks and words, and what
describes bytes can only describe bytes of ASCII.
-/

namespace FrameBridge
namespace Pattern

/-- The modes that govern how a pattern is read. -/
structure Modes where
  ignoresCase : Bool := false
  hasCharacters : Bool := true
  isVerbose : Bool := false
  deriving DecidableEq

/-- A part of a pattern without parts of its own.  A literal can be given as the
value of a byte. -/
inductive Atom where
  | literal (c : Char) (isByte : Bool)
  | named (isNegated : Bool)
  | border
  | wordBorder
  | any
  deriving DecidableEq

/-- The character or byte of a literal is of ASCII. -/
def isAscii (c : Char) : Bool :=
  c.toNat < 0x80

/-- The part can stand in a pattern in some modes. -/
def Atom.isAllowed (modes : Modes) : Atom → Bool
  | literal c isByte =>
      if modes.hasCharacters then !modes.ignoresCase else isAscii c || !isByte
  | named isNegated => !modes.hasCharacters && !isNegated
  | border => true
  | wordBorder => !modes.hasCharacters
  | any => modes.hasCharacters

open Reader

section Gaps

def comment : Reader Unit := do
  let _ ← char '#'
  let _ ← span (· != '\n')
  let _ ← optional (char '\n')

/-- Reads what has no meaning. -/
def gap (modes : Modes) : Reader Unit := do
  if modes.isVerbose then
    let _ ← many ((do let _ ← span1 Text.isBlank) <|> comment)

end Gaps

section Escapes

def hexDigits (modes : Modes) : Nat → Reader (List Nat)
  | 0 => pure []
  | n + 1 => do
      gap modes
      let c ← satisfying fun c => (Text.hexValue c).isSome
      return (Text.hexValue c).getD 0 :: (← hexDigits modes n)

/-- Reads a character that is given by hexadecimal digits. -/
def hexLiteral (modes : Modes) (count : Nat) : Reader Atom := do
  let n := (← hexDigits modes count).foldl (fun n d => n * 16 + d) 0
  if n.isValidChar then
    return .literal (Char.ofNat n) (count == 2)
  else
    failure

/-- The character stands for itself behind a backslash. -/
def isEscapable (c : Char) : Bool :=
  isAscii c && !Text.isAsciiAlnum c && c != '<' && c != '>'

/-- The character that a letter stands for behind a backslash. -/
def control? : Char → Option Char
  | 'a' => some '\x07'
  | 'f' => some '\x0c'
  | 't' => some '\t'
  | 'n' => some '\n'
  | 'r' => some '\r'
  | 'v' => some '\x0b'
  | _ => none

/-- Reads a backslash and what belongs to it. -/
def escape (modes : Modes) : Reader Atom := do
  let _ ← char '\\'
  let c ← satisfying fun _ => true
  match c with
  | 'x' => hexLiteral modes 2
  | 'u' => hexLiteral modes 4
  | 'U' => hexLiteral modes 8
  | 'd' | 's' | 'w' => return .named false
  | 'D' | 'S' | 'W' => return .named true
  | 'A' | 'z' => return .border
  | 'b' | 'B' | '<' | '>' => return .wordBorder
  | _ =>
      if isEscapable c then
        return .literal c false
      else
        return .literal (← checked (control? c)) false

end Escapes

section Heights

/-- How many parts a pattern can have within each other. -/
def heightLimit : Nat := 250

/-- The height of parts that stand next to each other: together they are a part
of their own, unless there is only one. -/
def heightOfRow : List Nat → Nat
  | [] => 0
  | [h] => h
  | h :: hs => 1 + hs.foldl max h

end Heights

end Pattern
end FrameBridge
