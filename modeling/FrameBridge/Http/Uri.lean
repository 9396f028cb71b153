import FrameBridge.Text.Ascii
import FrameBridge.Text.Split
import FrameBridge.Text.Utf8

/-!
# Request addresses

The address of a request has a path and perhaps a query.  It is given in one
of four forms: a path, a path behind a scheme and an authority, an authority
alone, or a star.  A fragment is dropped.

Characters outside ASCII are accepted in paths and queries.
-/

namespace FrameBridge

/-- What an address asks for.  The path is empty if the address is an authority
alone, and the query is without its question mark. -/
structure Uri where
  path : List UInt8
  query : Option (List UInt8)
  deriving DecidableEq

namespace Uri

/-- The byte of an ASCII character. -/
def byte (c : Char) : UInt8 :=
  UInt8.ofNat c.toNat

/-- The character that a byte stands for as a code point. -/
def charOf (b : UInt8) : Char :=
  Char.ofNat b.toNat

section PathAndQuery

def isPathByte (b : UInt8) : Bool :=
  let c := charOf b
  0x80 ≤ b || Text.isAsciiAlnum c || "!$%&'()*+,-./:;=@[\\]^_|~\"\x7b\x7d".toList.contains c

def isQueryByte (b : UInt8) : Bool :=
  b == byte '!' || (byte '$' ≤ b && b ≤ byte ';') || b == byte '=' ||
    (byte '?' ≤ b && b ≤ byte '~') || 0x80 ≤ b

/-- Reads a path and a query, up to a fragment. -/
def ofPathAndQuery (bytes : List UInt8) : Option (List UInt8 × Option (List UInt8)) :=
  let path := bytes.takeWhile isPathByte
  match bytes.drop path.length with
  | [] => some (path, none)
  | stop :: rest =>
      if stop = byte '#' then
        some (path, none)
      else if stop = byte '?' then
        let query := rest.takeWhile isQueryByte
        match rest.drop query.length with
        | [] => some (path, some query)
        | stop :: _ => if stop = byte '#' then some (path, some query) else none
      else
        none

end PathAndQuery

section Authority

/-- What is known of an authority up to some byte.  The colons and the percent sign
are those since the last bracket or at sign. -/
structure Scan where
  colons : Nat := 0
  opened : Bool := false
  closed : Bool := false
  percent : Bool := false
  endsInAt : Bool := false

/-- The greatest number of colons in a row of groups. -/
def maxColons : Nat := 8

/-- A byte of an authority that has no meaning of its own. -/
def isPlainByte (b : UInt8) : Bool :=
  let c := charOf b
  Text.isAsciiAlnum c || "!$&'()*+,-.;=_~".toList.contains c

def Scan.next (s : Scan) (b : UInt8) : Option Scan :=
  let s := { s with endsInAt := false }
  if b = byte ':' then
    if s.colons ≥ maxColons then none else some { s with colons := s.colons + 1 }
  else if b = byte '[' then
    if s.percent || s.opened then none else some { s with opened := true }
  else if b = byte ']' then
    if !s.opened || s.closed then
      none
    else
      some { s with closed := true, colons := 0, percent := false }
  else if b = byte '@' then
    some { s with colons := 0, percent := false, endsInAt := true }
  else if b = byte '%' then
    some { s with percent := true }
  else if isPlainByte b then
    some s
  else
    none

def Scan.isComplete (s : Scan) : Bool :=
  s.opened == s.closed && s.colons ≤ 1 && !s.endsInAt && !s.percent

def endsAuthority (b : UInt8) : Bool :=
  b == byte '/' || b == byte '?' || b == byte '#'

/-- The length of the authority at the start of a byte string. -/
def authorityLength (bytes : List UInt8) : Option Nat := do
  let authority := bytes.takeWhile fun b => !endsAuthority b
  let s ← authority.foldlM Scan.next {}
  if s.isComplete then some authority.length else none

end Authority

section Scheme

def maxSchemeLength : Nat := 64

def isSchemeByte (b : UInt8) : Bool :=
  let c := charOf b
  Text.isAsciiAlnum c || "+-.~".toList.contains c

/-- Whether an address has a scheme, and what is behind it. -/
inductive SchemeScan where
  | absent
  | tooLong
  | present (rest : List UInt8)

/-- The characters between a scheme and an authority. -/
def schemeMark : List UInt8 := Text.asciiBytes "://".toList

def scanScheme (bytes : List UInt8) : SchemeScan :=
  let front := bytes.takeWhile isSchemeByte
  let behind := bytes.drop front.length
  if 3 < bytes.length && schemeMark.isPrefixOf behind then
    if front.length > maxSchemeLength then .tooLong else .present (behind.drop schemeMark.length)
  else
    .absent

end Scheme

def maxLength : Nat := 65534

/-- Reads an address with a scheme, or an authority alone. -/
def ofFull (bytes : List UInt8) : Option Uri :=
  match scanScheme bytes with
  | .tooLong => none
  | .absent => do
      let n ← authorityLength bytes
      if n = bytes.length then some ⟨[], none⟩ else none
  | .present rest => do
      let n ← authorityLength rest
      if n = 0 then
        none
      else
        let (path, query) ← ofPathAndQuery (rest.drop n)
        some ⟨if path.isEmpty then [byte '/'] else path, query⟩

def parse? (text : String) : Option Uri :=
  let bytes := Utf8.encodeString text
  if bytes.isEmpty || bytes.length > maxLength then
    none
  else if bytes = [byte '*'] then
    some ⟨bytes, none⟩
  else if bytes.head? = some (byte '/') then
    (ofPathAndQuery bytes).map fun (path, query) => ⟨path, query⟩
  else if bytes.length = 1 then do
    let n ← authorityLength bytes
    if n = 1 then some ⟨[], none⟩ else none
  else
    ofFull bytes

end Uri
end FrameBridge
