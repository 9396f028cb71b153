import FrameBridge.Text.Split
import FrameBridge.Text.Utf8

/-!
# Routes

A route is a pattern of paths.  A name in braces stands for one segment, or for
the end of one; a name with a star in front stands for all that is left of the
path.  A doubled brace stands for itself.
-/

namespace FrameBridge

/-- A part of a route: a byte that stands for itself, the rest of a segment, or the
rest of a path. -/
inductive RoutePart where
  | literal (b : UInt8)
  | segment
  | rest
  deriving DecidableEq

/-- A pattern of paths. -/
abbrev Route : Type := List RoutePart

namespace Route

/-- The byte that divides a path into segments. -/
def slash : UInt8 := 0x2f

def star : UInt8 := 0x2a

def colon : UInt8 := 0x3a

def openBrace : UInt8 := 0x7b

def closeBrace : UInt8 := 0x7d

section Reading

/-- A sign in the written form of a route: a byte without a meaning of its own, or
an end of a name. -/
inductive Sign where
  | plain (b : UInt8)
  | opening
  | closing

/-- The signs that bytes stand for. -/
def signs : List UInt8 → List Sign
  | [] => []
  | [b] => [single b]
  | b :: c :: bytes =>
      if b = c ∧ (b = openBrace ∨ b = closeBrace) then
        .plain b :: signs bytes
      else
        single b :: signs (c :: bytes)
where
  single (b : UInt8) : Sign :=
    if b = openBrace then .opening else if b = closeBrace then .closing else .plain b

/-- Where the reading of a route stands, seen from the names of its parts.  Of a name
that is being read, it is known whether it is blank as yet. -/
inductive Place where
  | outside
  | before
  | inside (part : RoutePart) (isBlank : Bool)
  | behind (part : RoutePart)

/-- Reads the parts of a route.  The first byte of a name is free, but no name
begins with a closing brace, and none has a slash or a star further on. -/
def readParts : Place → List Sign → Option Route
  | .outside, [] => some []
  | .outside, .plain b :: signs => (.literal b :: ·) <$> readParts .outside signs
  | .outside, .opening :: signs => readParts .before signs
  | .outside, .closing :: _ => none
  | .before, .plain b :: signs =>
      if b = star then
        readParts (.inside .rest true) signs
      else if b = closeBrace then
        none
      else
        readParts (.inside .segment false) signs
  | .before, .opening :: signs => readParts (.inside .segment false) signs
  | .before, _ => none
  | .inside part _, .plain b :: signs =>
      if b = star ∨ b = slash then none else readParts (.inside part false) signs
  | .inside part _, .opening :: signs => readParts (.inside part false) signs
  | .inside part isBlank, .closing :: signs =>
      if isBlank then none else (part :: ·) <$> readParts (.behind part) signs
  | .inside _ _, [] => none
  | .behind _, [] => some []
  | .behind .segment, .plain b :: signs =>
      if b = slash then (.literal b :: ·) <$> readParts .outside signs else none
  | .behind _, _ => none

/-- The greatest number of names for segments in a route. -/
def maxSegmentNames : Nat := 25

/-- No segment begins with a colon or a star. -/
def hasPlainSegments (path : List UInt8) : Bool :=
  (Text.splitAll slash path).all fun segment =>
    segment.head? != some colon && segment.head? != some star

def ofPath? (path : String) : Option Route :=
  let bytes := Utf8.encodeString path
  if bytes.head? = some slash && hasPlainSegments bytes then
    (readParts .outside (signs bytes)).filter fun route =>
      route.count .segment ≤ maxSegmentNames
  else
    none

/-- The route of one path. -/
def ofLiteral (path : String) : Route :=
  (Utf8.encodeString path).map .literal

end Reading

section Matching

/-- The bytes up to the end of a segment. -/
def segmentOf (path : List UInt8) : List UInt8 :=
  path.takeWhile (· != slash)

/-- A path has the pattern of a route.  A name stands for nothing only where a
slash follows. -/
def matchesPath : Route → List UInt8 → Bool
  | [], path => path.isEmpty
  | .literal b :: route, path => path.head? == some b && matchesPath route path.tail
  | .segment :: route, path =>
      !path.isEmpty && matchesPath route (path.drop (segmentOf path).length)
  | .rest :: _, path => !path.isEmpty

end Matching

end Route
end FrameBridge
