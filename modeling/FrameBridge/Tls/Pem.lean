import FrameBridge.Text.Split
import FrameBridge.Tls.Base64

/-!
# Sections of key files

A key file is a text in which each key or certificate is a section between two
lines with the same label.  Lines outside sections have no meaning, and
sections with unknown labels are passed over.
-/

namespace FrameBridge
namespace Pem

/-- What a section holds. -/
inductive Label where
  | certificate
  | privateKey
  | rsaPrivateKey
  | ecPrivateKey
  | other
  deriving DecidableEq

def Label.ofText? (text : List UInt8) : Option Label :=
  let names : List (String × Label) :=
    [("CERTIFICATE", .certificate), ("PRIVATE KEY", .privateKey),
      ("RSA PRIVATE KEY", .rsaPrivateKey), ("EC PRIVATE KEY", .ecPrivateKey),
      ("PUBLIC KEY", .other), ("X509 CRL", .other), ("CERTIFICATE REQUEST", .other),
      ("ECHCONFIG", .other)]
  (names.find? fun entry => Text.asciiBytes entry.1.toList == text).map Prod.snd

structure Section where
  label : Label
  content : List UInt8

/-- What is found in a key file; none stands for a section that cannot be
read. -/
abbrev Finding : Type := Option Section

section Lines

def dash : UInt8 := 0x2d

/-- The byte of a blank. -/
def blank : UInt8 := 0x20

/-- A byte that ends a line. -/
def endsLine (b : UInt8) : Bool :=
  b == 0x0a || b == 0x0d

def lines (bytes : List UInt8) : List (List UInt8) :=
  Text.splitAll 0x0a (bytes.map fun b => if endsLine b then 0x0a else b)

/-- The beginning of the first line of a section. -/
def headMark : List UInt8 := Text.asciiBytes "-----BEGIN ".toList

/-- The beginning of the last line of a section. -/
def footMark : List UInt8 := Text.asciiBytes "-----END ".toList

/-- The number of dashes behind a label. -/
def dashCount : Nat := 5

/-- The text of the label in the first line of a section; none if it is not
followed by the right number of dashes. -/
def labelText? (line : List UInt8) : Option (List UInt8) :=
  let isFill (b : UInt8) : Bool := b == dash || b == blank
  let fill := (line.reverse.takeWhile isFill).reverse
  let front := line.take (line.length - fill.length)
  if fill.count dash = dashCount then
    some ((front ++ fill.takeWhile (· == blank)).drop headMark.length)
  else
    none

/-- A line without blanks at its end. -/
def trimLine (line : List UInt8) : List UInt8 :=
  (line.reverse.dropWhile (· == blank)).reverse

end Lines

section Reading

/-- A section that is being read: the text of its label, and what its lines hold so
far. -/
structure Building where
  label : List UInt8
  body : List UInt8

/-- The line ends a section with some label. -/
def isFoot (label line : List UInt8) : Bool :=
  (footMark ++ label ++ List.replicate dashCount dash).isPrefixOf line

/-- What a section comes to at its end; nothing if its label is unknown. -/
def Building.finish (b : Building) : List Finding :=
  match Label.ofText? b.label with
  | none => []
  | some label => [(Base64.decode? b.body).map fun content => ⟨label, content⟩]

/-- What is found in lines, given the section that is being read.  A section
without a last line cannot be read. -/
def findings : Option Building → List (List UInt8) → List Finding
  | none, [] => []
  | some _, [] => [none]
  | reading, line :: rest =>
      if headMark.isPrefixOf line then
        match labelText? line with
        | some label => findings (some ⟨label, (reading.map Building.body).getD []⟩) rest
        | none => none :: findings none rest
      else
        match reading with
        | none => findings none rest
        | some b =>
            if isFoot b.label line then
              b.finish ++ findings none rest
            else
              findings (some { b with body := b.body ++ trimLine line }) rest

/-- What is found in a key file. -/
def read (bytes : List UInt8) : List Finding :=
  findings none (lines bytes)

end Reading

end Pem
end FrameBridge
