import FrameBridge.Address.Socket
import FrameBridge.Http.Header
import FrameBridge.Http.Uri

/-!
# Requests
-/

namespace FrameBridge

/-- A request, from a client at some address.  The connection of one that is
`upgradable` can be handed over once the request was answered. -/
structure Request where
  method : String := "GET"
  uri : Uri
  headers : Headers := []
  peer : SocketAddress
  upgradable : Bool := false

namespace Request

def isMethod (method : String) : Bool :=
  Header.isToken method.toList

/-- The request is for the head of a response only. -/
def isHead (request : Request) : Bool :=
  request.method == "HEAD"

/-- The request reads something. -/
def isRead (request : Request) : Bool :=
  request.method == "GET" || request.isHead

end Request
end FrameBridge
