import FrameBridge.Text.Ascii
import FrameBridge.Text.Split
import FrameBridge.Text.Utf8

/-!
# Queries

A query is a list of pairs in the form encoding: pairs are divided by `&`, a
name ends at the first `=`, a plus sign stands for a space, and a percent sign
with two hexadecimal digits for a byte.  A percent sign without two digits
stands for itself.  The decoded bytes are read as UTF-8, with U+FFFD for what
is none.
-/

namespace FrameBridge
namespace Query

def percent : UInt8 := 0x25

def plus : UInt8 := 0x2b

def ampersand : UInt8 := 0x26

def equals : UInt8 := 0x3d

/-- The byte that a percent sign and two hexadecimal digits stand for. -/
def escaped (mark high low : UInt8) : Option UInt8 :=
  if mark = percent then do
    let high ← Text.hexValue (Char.ofNat high.toNat)
    let low ← Text.hexValue (Char.ofNat low.toNat)
    return UInt8.ofNat (high * 16 + low)
  else
    none

/-- The byte that a byte outside an escape stands for. -/
def unescaped (b : UInt8) : UInt8 :=
  if b = plus then 0x20 else b

/-- Undoes the escapes of a name or a value. -/
def decodeBytes : List UInt8 → List UInt8
  | [] => []
  | b :: high :: low :: rest =>
      match escaped b high low with
      | some byte => byte :: decodeBytes rest
      | none => unescaped b :: decodeBytes (high :: low :: rest)
  | b :: rest => unescaped b :: decodeBytes rest

/-- The text of an encoded name or value. -/
def decode (bytes : List UInt8) : String :=
  String.ofList (Utf8.decodeLossy (decodeBytes bytes))

/-- The name and the value of one encoded pair. -/
def decodePair (part : List UInt8) : String × String :=
  match Text.splitFirst equals part with
  | some (name, value) => (decode name, decode value)
  | none => (decode part, "")

/-- The pairs of a query, in order.  Empty parts are no pairs. -/
def pairs (query : List UInt8) : List (String × String) :=
  ((Text.splitAll ampersand query).filter (· ≠ [])).map decodePair

/-- The values with a name, in order. -/
def valuesOf (name : String) (query : List UInt8) : List String :=
  ((pairs query).filter fun pair => pair.1 == name).map Prod.snd

end Query
end FrameBridge
