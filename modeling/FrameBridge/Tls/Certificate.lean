import FrameBridge.Tls.Der

/-!
# Certificates

A certificate says whose public key some key is.  Of what it says only the
description of the key is used.  But the whole certificate must have its form:
the third version, the parts in their order, extensions of which the known ones
are there once, and no unknown extension that must be understood.
-/

namespace FrameBridge
namespace Certificate

open Der

/-- A certificate has fewer bytes than this. -/
def sizeLimit : Nat := 65536

section Extensions

structure Extension where
  name : List UInt8
  isCritical : Bool
  content : List UInt8

/-- The truth value of a content. -/
def truth? (content : List UInt8) : Option Bool :=
  if content = [0xff] then some true
  else if content = [0x00] then some false
  else none

def extension : Der.Reader Extension := do
  let name ← value identifier
  let isCritical ← match ← value? boolean with
    | some content => checked (truth? content)
    | none => pure false
  return ⟨name, isCritical, ← value octetString⟩

/-- Reads extensions up to the end, at most some number of them. -/
def extensions : (count : Nat) → Der.Reader (List Extension)
  | 0 => atEnd *> pure []
  | count + 1 => (atEnd *> pure []) <|> (do
      let first ← whole sequence extension
      return first :: (← extensions count))

/-- The name of the extension for the use of a key. -/
def keyUsage : List UInt8 := [0x55, 0x1d, 0x0f]

/-- The names of the known extensions: the use of a key, the names of the
subject, the limits of an authority, the names that it can give, where revoked
certificates are listed, and the further use of a key. -/
def knownNames : List (List UInt8) :=
  [keyUsage, [0x55, 0x1d, 0x11], [0x55, 0x1d, 0x13], [0x55, 0x1d, 0x1e], [0x55, 0x1d, 0x1f],
    [0x55, 0x1d, 0x25]]

/-- The content of an extension has the form of its kind: most known extensions
hold a sequence. -/
def Extension.isUsable (e : Extension) : Bool :=
  if e.name = keyUsage then true
  else if knownNames.contains e.name then (parseWhole? (value sequence) e.content).isSome
  else !e.isCritical

/-- The extensions can be used together. -/
def areUsable (es : List Extension) : Bool :=
  es.all Extension.isUsable &&
    knownNames.all fun name => (es.filter fun e => e.name == name).length ≤ 1

/-- Reads the extensions at the end of a certificate, if there are any. -/
def extensionPart : Der.Reader Unit := do
  match ← value? (numbered 3) with
  | none => pure ()
  | some content =>
      let inner ← checked (parseWhole? (value sequence) content)
      let es ← checked (parse? (extensions inner.length) inner)
      if !areUsable es then failure

end Extensions

section Parts

/-- Reads what is signed, given the name of the algorithm, and returns the
description of the public key. -/
def signed (algorithm : List UInt8) : Der.Reader (List UInt8) := do
  let version ← whole (numbered 0) natural
  if version ≠ 2 then failure
  let _serial ← value integer
  let named ← value sequence
  if named ≠ algorithm then failure
  let _issuer ← value sequence
  let _validity ← value sequence
  let _subject ← value sequence
  let key ← value sequence
  extensionPart
  return key

def parts : Der.Reader (List UInt8) := do
  let content ← value sequence
  let algorithm ← value sequence
  let _signature ← wholeBits
  checked (parseWhole? (signed algorithm) content)

end Parts

/-- The description of the public key of a certificate. -/
def keyInfo? (bytes : List UInt8) : Option (List UInt8) :=
  if bytes.length < sizeLimit then parseWhole? (whole sequence parts) bytes else none

end Certificate
end FrameBridge
