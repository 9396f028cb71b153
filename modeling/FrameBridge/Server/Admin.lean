import FrameBridge.Decimal.Reading
import FrameBridge.Http.Request
import FrameBridge.Http.Response
import FrameBridge.Server.Basic
import FrameBridge.Server.Bearer

/-!
# The admin routes

The admin routes show the status of the relay and the live sessions to those
who show the key of the configuration in force.  All others get the same
answer, whatever they ask for.
-/

namespace FrameBridge

structure SystemStatus where
  version : String := "0.1.0"
  status : String := "operational"
  activeSessions : Nat
  maxSessions : Nat
  relayPath : String
  remote : Option String
  allowClientTarget : Bool
  deriving DecidableEq

inductive Body where
  | text (s : String)
  | status (s : SystemStatus)
  | sessions (entries : List SessionEntry)

/-- The milliseconds that connecting took, as they are read from a body. -/
def Body.latencyMillis (entry : SessionEntry) : Float :=
  Decimal.reread entry.stats.latency.toMillis

inductive AdminRoute where
  | status
  | sessions
  deriving DecidableEq

namespace AdminRoute

def ofPath? (path : List UInt8) : Option AdminRoute :=
  if path = Utf8.encodeString Server.statusPath then
    some status
  else if path = Utf8.encodeString Server.sessionsPath then
    some sessions
  else
    none

end AdminRoute

namespace Response

/-- A response with a body in JSON. -/
def ofJson (body : Body) : Response Body :=
  { status := 200, headers := [("content-type", "application/json")], body := body }

/-- A response with nothing but a status. -/
def ofStatus (status : Nat) : Response Body :=
  { status := status, body := .text "" }

/-- Adds the methods that a route takes, if the request has another one. -/
def withAllowed (response : Response Body) (request : Request) : Response Body :=
  if request.isRead then
    response
  else
    { response with headers := response.headers ++ [("allow", "GET,HEAD")] }

/-- The response to a method that a route does not take. -/
def methodNotAllowed : Response Body :=
  ofStatus 405

/-- A response to a request for the head has no body. -/
def forRequest (response : Response Body) (request : Request) : Response Body :=
  if request.isHead then { response with body := .text "" } else response

end Response

namespace Admin

/-- The status that the admin sees. -/
def status (config : Config) (tracker : Tracker) : SystemStatus where
  activeSessions := tracker.activeCount
  maxSessions := tracker.limit
  relayPath := config.relay.path
  remote := config.relay.remote
  allowClientTarget := config.relay.allowClientTarget

def view (config : Config) (tracker : Tracker) : AdminRoute → Body
  | .status => .status (Admin.status config tracker)
  | .sessions => .sessions tracker.snapshot

/-- The answer to a request for some route, once the key was shown. -/
def dispatch (config : Config) (tracker : Tracker) (request : Request) (route : AdminRoute) :
    Response Body :=
  if request.isRead then
    Response.ofJson (Admin.view config tracker route)
  else
    Response.methodNotAllowed

/-- The answer to a request for some route. -/
def respond (config : Config) (tracker : Tracker) (request : Request) (route : AdminRoute) :
    Response Body :=
  let response :=
    if Bearer.authorizes config.admin.apiKey request.headers then
      dispatch config tracker request route
    else
      Response.ofStatus 401
  (response.withAllowed request).forRequest request

/-- The answer to a request for a path without a route, which is kept from those
without the key as well. -/
def missing (config : Config) (request : Request) : Response Body :=
  if Bearer.authorizes config.admin.apiKey request.headers then
    Response.ofStatus 404
  else
    Response.ofStatus 401

/-- The answer to a request to the admin routes alone. -/
def serve (config : Config) (tracker : Tracker) (request : Request) : Response Body :=
  match AdminRoute.ofPath? request.uri.path with
  | some route => respond config tracker request route
  | none => missing config request

end Admin
end FrameBridge
