import FrameBridge.Logging.Level
import FrameBridge.Logging.Value
import FrameBridge.Text.Split
import FrameBridge.Text.Utf8

/-!
# Log directives

A directive gives the least severity of what is logged.  It is for a part of
the program or for every part, and it can have a scope in brackets: a span of
the work that the program does, a field that the span carries, or both.

    part=level   part[span]=level   [span{field=value}]=level   level
-/

namespace FrameBridge

structure LogField where
  name : String
  value : Option LogValue
  deriving DecidableEq

/-- A directive: how much is logged for a part of the program, a span and a field.  No
part stands for every part. -/
structure LogDirective where
  part : Option String
  span : Option String
  field : Option LogField
  level : LogLevel
  deriving DecidableEq

namespace LogField

/-- Reads a field: a name, and a value behind an equals sign. -/
def parse? (cs : List Char) : Option LogField :=
  match cs, Text.splitAll '=' cs with
  | [], _ => none
  | _, name :: value :: _ => do return ⟨String.ofList name, some (← LogValue.parse? value)⟩
  | _, _ => some ⟨String.ofList cs, none⟩

def render (f : LogField) : String :=
  match f.value with
  | some value => f.name ++ "=" ++ value.render
  | none => f.name

/-- The order of fields: one with a value is greater than one without. -/
def order (f g : LogField) : Ordering :=
  (compare f.value.isSome g.value.isSome).then <|
  (compare f.name g.name).then <|
  match f.value, g.value with
  | some v, some w => v.order w
  | _, _ => .eq

end LogField

namespace LogDirective

section Reading

/-- Why a text is no directive.  The character is broken if a part of the text would
begin or end within it. -/
inductive Refusal where
  | malformed
  | brokenCharacter
  deriving DecidableEq

/-- A character with which the name of a part can begin. -/
def isPartStart (c : Char) : Bool :=
  c == '_' || c == ':' || c == '-' || Text.isAlphanumeric c

variable (text : List Char)

/-- What stands in a text between two places, which are counted in bytes. -/
def cut (start stop : Nat) : Except Refusal (List Char) :=
  let bytes := Utf8.encode text
  match Utf8.decode? (bytes.take start), Utf8.decode? (bytes.take stop) with
  | some before, some front => .ok (front.drop before.length)
  | _, _ => .error .brokenCharacter

/-- What stands in a text from some place on. -/
def cutFrom (start : Nat) : Except Refusal (List Char) :=
  cut text start (Utf8.size text)

/-- A value that is there if the text has the form of a directive. -/
def required {α : Type} : Option α → Except Refusal α
  | some a => .ok a
  | none => .error .malformed

/-- Reads a level behind an equals sign.  Without a level everything is
logged. -/
def readLevel (place : Nat) : List Char → Except Refusal LogLevel
  | [] => .ok .trace
  | '=' :: _ => do
      match ← cutFrom text (place + 1) with
      | [] => return .trace
      | level => required (LogLevel.parse? level)
  | _ => .error .malformed

/-- Reads a field behind its opening brace, the end of the scope, and the level
that follows. -/
def readField (part span : Option String) (place : Nat) (cs : List Char) :
    Except Refusal LogDirective := do
  let stop := place + Utf8.size (cs.takeWhile (· != '}'))
  match cs.dropWhile (· != '}') with
  | _ :: rest =>
      let field ← required (LogField.parse? (← cut text place stop))
      match rest with
      | ']' :: rest => return ⟨part, span, some field, ← readLevel text (stop + 2) rest⟩
      | _ => .error .malformed
  | [] => .error .malformed

def endsSpan (c : Char) : Bool :=
  c == ']' || c == '{'

/-- Reads a scope behind its opening bracket, and the level that follows, for
some part. -/
def readScope (part : Option String) (place : Nat) (cs : List Char) :
    Except Refusal LogDirective := do
  let stop := place + Utf8.size (cs.takeWhile fun c => !endsSpan c)
  match cs.dropWhile fun c => !endsSpan c with
  | '{' :: rest =>
      let span ← cut text place stop
      let span := if span.isEmpty then none else some (String.ofList span)
      readField text part span (stop + 1) rest
  | _ :: rest =>
      let span := String.ofList (← cut text place stop)
      return ⟨part, some span, none, ← readLevel text (stop + 1) rest⟩
  | [] => .error .malformed

/-- Reads what begins with the name of a part, or is a level.  A part without a
level logs everything. -/
def readPart (cs : List Char) : Except Refusal LogDirective := do
  let stop := Utf8.size (cs.takeWhile fun c => c != '=' && c != '[')
  match cs.dropWhile fun c => c != '=' && c != '[' with
  | [] =>
      match LogLevel.parse? text with
      | some level => return ⟨none, none, none, level⟩
      | none => return ⟨some (String.ofList text), none, none, .trace⟩
  | c :: rest =>
      let part := String.ofList (← cut text 0 stop)
      if c == '[' then
        readScope text (some part) (stop + 1) rest
      else
        return ⟨some part, none, none, ← readLevel text stop (c :: rest)⟩

/-- Reads a directive.  Its form is read without the blanks at its ends, but its
parts are cut out of the whole text, at the same places. -/
def parse : Except Refusal LogDirective :=
  match Text.trim text with
  | '[' :: rest => readScope text none 1 rest
  | c :: rest => if isPartStart c then readPart text (c :: rest) else .error .malformed
  | [] => .error .malformed

end Reading

section Writing

/-- The written form of a scope, in brackets. -/
def renderScope : Option String → Option LogField → String
  | none, none => ""
  | some span, none => "[" ++ span ++ "]"
  | span, some field => "[" ++ span.getD "" ++ "\x7b" ++ field.render ++ "\x7d]"

def render (d : LogDirective) : String :=
  match d.part.getD "" ++ renderScope d.span d.field with
  | "" => d.level.label
  | target => target ++ "=" ++ d.level.label

end Writing

/-- The order of directives by how exactly they say what they are for: first by
the length of the part, then by whether there is a span and a field, and then
by the alphabet. -/
def order (d e : LogDirective) : Ordering :=
  (compare (d.part.map String.utf8ByteSize) (e.part.map String.utf8ByteSize)).then <|
  (compare d.span.isSome e.span.isSome).then <|
  (compare d.field.isSome e.field.isSome).then <|
  (compare d.part e.part).then <|
  (compare d.span e.span).then <|
  match d.field, e.field with
  | some f, some g => f.order g
  | _, _ => .eq

/-- The directive has a scope, so that it depends on the spans that are
open. -/
def isScoped (d : LogDirective) : Bool :=
  d.span.isSome || d.field.isSome

/-- The directive says something of what is logged in no particular span: it
names neither a span nor the value of a field. -/
def isPlain (d : LogDirective) : Bool :=
  d.span.isNone && (d.field.bind (·.value)).isNone

end LogDirective

end FrameBridge
