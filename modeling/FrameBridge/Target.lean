import FrameBridge.Address.IPv6
import FrameBridge.Text.Blank

/-!
# Relay targets

A target is the host and the port that a session relays to.  It is written
`host:port`, with an IPv6 host in brackets.  Hosts are checked by their
characters only; a name is looked up when a connection is made.

A list of allowed targets consists of entries that are a host, which then
stands for every port, or a host with a port.
-/

namespace FrameBridge

/-- The host and the port that a session relays to.  An IPv6 address stands without
brackets. -/
structure Target where
  host : String
  port : UInt16
  deriving DecidableEq

inductive TargetError where
  | empty
  | missingPort
  | emptyHost
  | invalidHost (host : String)
  | invalidPort (port : String)
  deriving DecidableEq

namespace TargetError

def message : TargetError → String
  | empty => "target is empty"
  | missingPort => "missing `:port` suffix"
  | emptyHost => "host is empty"
  | invalidHost host => "host `" ++ host ++ "` is not a valid hostname or address"
  | invalidPort port => "port `" ++ port ++ "` is not a number in 1-65535"

end TargetError

namespace Target

section Host

def maxHostLength : Nat := 253

def isHostChar (c : Char) : Bool :=
  Text.isAsciiAlnum c || c == '.' || c == '-' || c == '_'

/-- The text is a host name, or an IPv4 address. -/
def isHostName (host : List Char) : Bool :=
  host.length ≤ maxHostLength && host.head? != some '.' && host.head? != some '-' &&
    host.all isHostChar

/-- Checks a host: a name, an IPv4 address or an IPv6 address without brackets. -/
def checkHost (host : String) : Except TargetError Unit :=
  if host.toList = [] then
    .error .emptyHost
  else if ':' ∈ host.toList then
    if (IPv6.parse? host.toList).isSome then .ok () else .error (.invalidHost host)
  else if isHostName host.toList then
    .ok ()
  else
    .error (.invalidHost host)

def ofParts (host : String) (port : UInt16) : Except TargetError Target := do
  checkHost host
  if port = 0 then
    throw (.invalidPort "0")
  return ⟨host, port⟩

end Host

section Reading

/-- Reads a port: decimal digits, with an optional plus sign, of a value from 1
to 65535. -/
def parsePort (text : List Char) : Except TargetError UInt16 :=
  match Text.natural? text with
  | some n =>
      if 0 < n ∧ n < 65536 then
        .ok (UInt16.ofNat n)
      else
        .error (.invalidPort (String.ofList text))
  | none => .error (.invalidPort (String.ofList text))

/-- Cuts a text that starts with a bracket into the address and the port. -/
def splitBracketed (whole rest : List Char) : Except TargetError (List Char × List Char) :=
  match Text.splitFirst ']' rest with
  | none => .error (.invalidHost (String.ofList whole))
  | some (host, tail) =>
      match tail with
      | ':' :: port =>
          if (IPv6.parse? host).isSome then
            .ok (host, port)
          else
            .error (.invalidHost (String.ofList host))
      | _ => .error .missingPort

/-- Cuts a text without brackets into the host and the port.  A host with a
colon is refused, because the port would be ambiguous. -/
def splitPlain (cs : List Char) : Except TargetError (List Char × List Char) :=
  match Text.splitLast ':' cs with
  | none => .error .missingPort
  | some (host, port) =>
      if ':' ∈ host then
        .error (.invalidHost (String.ofList host))
      else do
        checkHost (String.ofList host)
        return (host, port)

/-- Cuts a text into a valid host and the text of the port. -/
def splitHostPort (cs : List Char) : Except TargetError (List Char × List Char) :=
  match cs with
  | [] => .error .empty
  | '[' :: rest => splitBracketed cs rest
  | _ => splitPlain cs

/-- Reads a target; white space around it is ignored. -/
def parse (s : String) : Except TargetError Target := do
  let (host, port) ← splitHostPort (Text.trim s.toList)
  return ⟨String.ofList host, ← parsePort port⟩

end Reading

def render (t : Target) : String :=
  let host := t.host.toList
  let shown := if ':' ∈ host then '[' :: host ++ [']'] else host
  String.ofList (shown ++ ':' :: Nat.toDigits 10 t.port.toNat)

section AllowedTargets

def isBracket (c : Char) : Bool :=
  c == '[' || c == ']'

/-- The target matches an entry of a list of allowed targets.  Letter case does
not count. -/
def matchesEntry (t : Target) (entry : String) : Bool :=
  match parse entry with
  | .ok allowed =>
      Text.equalFold allowed.host.toList t.host.toList && allowed.port == t.port
  | .error _ =>
      Text.equalFold (Text.stripBoth isBracket entry.toList) t.host.toList

/-- Checks an entry of a list of allowed targets: a target, or else a host. -/
def checkEntry (entry : String) : Except TargetError Unit :=
  match parse entry with
  | .ok _ => .ok ()
  | .error _ => checkHost entry

end AllowedTargets

end Target
end FrameBridge
