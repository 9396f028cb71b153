import FrameBridge.Address.IPv6

/-!
# Socket addresses

A socket address is an IP address with a port.  An IPv6 address is written in
brackets and can carry a scope number, which is printed unless it is zero.
-/

namespace FrameBridge

inductive SocketAddress where
  | v4 (ip : IPv4) (port : UInt16)
  | v6 (ip : IPv6) (scope : UInt32) (port : UInt16)
  deriving DecidableEq

namespace SocketAddress

open Address

/-- Reads a port: decimal digits of a value below 2^16. -/
def readPort (cs : List Char) : Option (UInt16 × List Char) :=
  (readNumber UInt16.size cs).map fun (n, rest) => (UInt16.ofNat n, rest)

/-- Reads an optional scope: a percent sign and a number below 2^32. -/
def readScope (cs : List Char) : UInt32 × List Char :=
  match readChar '%' cs >>= readNumber UInt32.size with
  | some (n, rest) => (UInt32.ofNat n, rest)
  | none => (0, cs)

def readV4 (cs : List Char) : Option (SocketAddress × List Char) := do
  let (ip, cs) ← IPv4.read cs
  let (port, cs) ← readPort (← readChar ':' cs)
  return (.v4 ip port, cs)

/-- Reads an IPv6 address in brackets and a port. -/
def readV6 (cs : List Char) : Option (SocketAddress × List Char) := do
  let (ip, cs) ← IPv6.read (← readChar '[' cs)
  let (scope, cs) := readScope cs
  let cs ← readChar ']' cs
  let (port, cs) ← readPort (← readChar ':' cs)
  return (.v6 ip scope port, cs)

def parse? (s : String) : Option SocketAddress :=
  match readV4 s.toList <|> readV6 s.toList with
  | some (address, []) => some address
  | _ => none

/-- The written form of the IP address alone. -/
def renderIp : SocketAddress → String
  | v4 ip _ => String.ofList ip.render
  | v6 ip _ _ => String.ofList ip.render

def render : SocketAddress → String
  | v4 ip port => String.ofList (ip.render ++ ':' :: Nat.toDigits 10 port.toNat)
  | v6 ip scope port =>
      let scopeText := if scope = 0 then [] else '%' :: Nat.toDigits 10 scope.toNat
      String.ofList ('[' :: ip.render ++ scopeText ++ ']' :: ':' :: Nat.toDigits 10 port.toNat)

end SocketAddress
end FrameBridge
