import FrameBridge.Server.Admin
import FrameBridge.Server.Relay

/-!
# Routing

Every request gets an identifier, unless it brings one along, and the response
carries it.  The path decides who answers; paths that stand for themselves
come before the route of the relay.  If there are admin routes, paths without
a route are kept from those without the key, as the admin routes are.
-/

namespace FrameBridge

inductive Endpoint where
  | index
  | admin (route : AdminRoute)
  | relay
  deriving DecidableEq

/-- The identifier of a request, which the request brings along unless it is a random
one. -/
inductive RequestId where
  | given (value : List UInt8)
  | generated
  deriving DecidableEq

/-- What comes of a request: the response with its identifier, and the server
afterwards. -/
structure Served where
  response : Response Body
  requestId : RequestId
  server : Server

namespace Server

def requestId (request : Request) : RequestId :=
  match request.headers.get? "x-request-id" with
  | some value => .given value
  | none => .generated

/-- The admin route of a path, if there are admin routes. -/
def adminRoute? (server : Server) (path : List UInt8) : Option AdminRoute :=
  if server.startup.admin.enabled then AdminRoute.ofPath? path else none

/-- Who answers requests for a path. -/
def endpoint? (server : Server) (path : List UInt8) : Option Endpoint :=
  if path = Utf8.encodeString indexPath then
    some .index
  else
    match server.adminRoute? path with
    | some route => some (.admin route)
    | none => if server.route.matchesPath path then some .relay else none

def index (request : Request) : Response Body :=
  (Response.ofText 200 ("access from " ++ request.peer.render)).map .text

/-- The response where no path fits. -/
def missing (server : Server) (request : Request) : Response Body :=
  if server.startup.admin.enabled then
    Admin.missing server.config request
  else
    Response.ofStatus 404

/-- The response of an endpoint, and the server afterwards. -/
def dispatch (server : Server) (request : Request) (dial : Target → Nat → DialOutcome) :
    Option Endpoint → Response Body × Server
  | none => (server.missing request, server)
  | some (.admin route) => (Admin.respond server.config server.tracker request route, server)
  | some .index =>
      if request.isRead then
        (index request, server)
      else
        (Response.methodNotAllowed.withAllowed request, server)
  | some .relay =>
      if request.isRead then
        let outcome := server.relay request dial
        (outcome.reply.response.map .text, outcome.server)
      else
        (Response.methodNotAllowed.withAllowed request, server)

def serve (server : Server) (request : Request) (dial : Target → Nat → DialOutcome) : Served :=
  let (response, after) := server.dispatch request dial (server.endpoint? request.uri.path)
  { response := response.forRequest request, requestId := requestId request, server := after }

end Server
end FrameBridge
