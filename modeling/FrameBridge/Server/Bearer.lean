import FrameBridge.Http.Header

/-!
# Bearer keys

A request shows a key in its first `Authorization` line.  Keys are compared
byte by byte over the whole length of the expected key, so that the time taken
depends on the expected key alone.
-/

namespace FrameBridge
namespace Bearer

/-- The byte that stands for one that the provided key is too short to have. -/
def padding : UInt8 := 0xff

/-- The bits in which the bytes of two keys differ, gathered over the length of
the expected key. -/
def gather : (diff : UInt8) → (expected provided : List UInt8) → UInt8
  | diff, [], _ => diff
  | diff, b :: expected, [] => gather (diff ||| (b ^^^ padding)) expected []
  | diff, b :: expected, c :: provided => gather (diff ||| (b ^^^ c)) expected provided

def sameKey (expected provided : List UInt8) : Bool :=
  gather (if expected.length = provided.length then 0 else 1) expected provided == 0

/-- What stands before a key. -/
def scheme : List Char := "Bearer ".toList

/-- The key that a request shows. -/
def providedKey? (headers : Headers) : Option (List Char) := do
  let text ← headers.text? "authorization"
  if scheme.isPrefixOf text then some (text.drop scheme.length) else none

/-- The request shows the expected key. -/
def authorizes (key : String) (headers : Headers) : Bool :=
  match providedKey? headers with
  | some provided => sameKey (Utf8.encodeString key) (Utf8.encode provided)
  | none => false

end Bearer
end FrameBridge
