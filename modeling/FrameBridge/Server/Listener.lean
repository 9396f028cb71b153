import FrameBridge.Address.Socket

/-!
# Listeners
-/

namespace FrameBridge

inductive ListenerError where
  | address (text : String)
  deriving DecidableEq

/-- The text shown for a listener that cannot be bound. -/
def ListenerError.message : ListenerError → String
  | address text => "invalid bind address `" ++ text ++ "`: invalid socket address syntax"

namespace Listener

/-- The address that a listener is bound to.  A port of zero stands for any
that is free. -/
def bind (address : String) : Except ListenerError SocketAddress :=
  match SocketAddress.parse? address with
  | some parsed => .ok parsed
  | none => .error (.address address)

end Listener
end FrameBridge
