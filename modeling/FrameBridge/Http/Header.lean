import FrameBridge.Text.Ascii
import FrameBridge.Text.Utf8

/-!
# Headers

A request carries a list of header lines.  Names are compared without regard
to letter case, so they are kept in lower case.  A value is a byte string; it
is a text only if all its bytes are printable.
-/

namespace FrameBridge

/-- A header line, its name in lower case. -/
structure Header where
  name : String
  value : List UInt8
  deriving DecidableEq

/-- The header lines of a message, in order. -/
abbrev Headers : Type := List Header

inductive HeaderError where
  | invalidName
  | invalidValue
  deriving DecidableEq

namespace Header

section Lines

def maxNameLength : Nat := 65535

def isTokenChar (c : Char) : Bool :=
  Text.isAsciiAlnum c || "!#$%&'*+-.^_`|~".toList.contains c

def isToken (cs : List Char) : Bool :=
  !cs.isEmpty && cs.all isTokenChar

/-- A byte that a value may hold: any byte but control characters other than
tab. -/
def isValueByte (b : UInt8) : Bool :=
  b == 9 || (32 ≤ b && b != 127)

/-- The line with a given name and value. -/
def ofText (name value : String) : Except HeaderError Header :=
  if !isToken name.toList || name.length > maxNameLength then
    .error .invalidName
  else
    let bytes := Utf8.encodeString value
    if bytes.all isValueByte then
      .ok ⟨String.ofList (Text.foldCase name.toList), bytes⟩
    else
      .error .invalidValue

end Lines

section Values

/-- A byte that can be shown: a printable ASCII character or a tab. -/
def isPrintable (b : UInt8) : Bool :=
  b == 9 || (32 ≤ b && b < 127)

/-- The text of a value; none if a byte cannot be shown. -/
def textOf (value : List UInt8) : Option (List Char) :=
  if value.all isPrintable then some (Text.charsOfBytes value) else none

end Values

end Header

namespace Headers

/-- The values of the lines with a name, in order. -/
def getAll (headers : Headers) (name : String) : List (List UInt8) :=
  (headers.filter fun h => h.name == name).map Header.value

/-- The value of the first line with a name. -/
def get? (headers : Headers) (name : String) : Option (List UInt8) :=
  (headers.getAll name).head?

/-- The value of the first line with a name, if it is a text. -/
def text? (headers : Headers) (name : String) : Option (List Char) :=
  headers.get? name >>= Header.textOf

end Headers
end FrameBridge
