import FrameBridge.Config.Reload
import FrameBridge.Http.Route
import FrameBridge.Server.Tracker

/-!
# Servers

A server is built from a configuration that fixes its listener and its routes.
Configurations that are applied later take the place of that configuration
only where settings are read anew for each request.
-/

namespace FrameBridge

/-- A server: the configuration that it was built from, and the one that requests are
decided by. -/
structure Server where
  startup : Config
  live : LiveConfig
  route : Route
  tracker : Tracker

namespace Server

section Building

/-- The path that shows the address of the client. -/
def indexPath : String := "/"

/-- The path that shows the status. -/
def statusPath : String := "/admin/status"

/-- The path that shows the live sessions. -/
def sessionsPath : String := "/admin/sessions"

/-- The paths that the relay cannot have. -/
def takenPaths (hasAdmin : Bool) : List String :=
  indexPath :: if hasAdmin then [statusPath, sessionsPath] else []

/-- The server of a configuration.  There is none if the limit of sessions is
too great, or the path of the relay is no route or is taken. -/
def ofConfig? (config : Config) (layout : Layout := .newestFirst) : Option Server := do
  let tracker ← Tracker.ofLimit? config.listener.maxSessions layout
  let route ← Route.ofPath? config.relay.path
  if (takenPaths config.admin.enabled).any fun path => Route.ofLiteral path == route then
    none
  else
    some { startup := config, live := { current := config }, route := route, tracker := tracker }

end Building

section Reloading

/-- The configuration that requests are decided by. -/
def config (server : Server) : Config :=
  server.live.current

/-- Puts a configuration in force. -/
def applyUpdate (server : Server) (next : Config) : Server :=
  { server with live.current := next }

/-- Takes note of an event of the directory of the configuration file. -/
def observe (server : Server) (watched : Option String) (event : FileEvent)
    (content : FileContent) : Server :=
  { server with live := server.live.observe watched event content }

/-- Puts the oldest version that waits in force. -/
def applyNext (server : Server) : Server :=
  { server with live := server.live.applyNext }

/-- A setting that is fixed when a server is built differs. -/
def needsRestart (previous next : Config) : Bool :=
  previous.listener.bindAddress != next.listener.bindAddress ||
    previous.listener.maxSessions != next.listener.maxSessions ||
    previous.listener.tls != next.listener.tls ||
    previous.relay.path != next.relay.path ||
    previous.admin.enabled != next.admin.enabled

end Reloading

section Settings

/-- The settings that a server goes by. -/
structure Settings where
  bindAddress : String
  maxSessions : Nat
  tls : Option TlsFiles
  route : Route
  hasAdmin : Bool
  requestSecs : Nat
  policy : RelayPolicy
  connectSecs : Nat
  adminKey : String
  deriving DecidableEq

def settings (server : Server) : Settings where
  bindAddress := server.startup.listener.bindAddress
  maxSessions := server.tracker.limit
  tls := server.startup.listener.tls
  route := server.route
  hasAdmin := server.startup.admin.enabled
  requestSecs := server.startup.timeouts.requestSecs
  policy := server.config.relay
  connectSecs := server.config.timeouts.connectSecs
  adminKey := server.config.admin.apiKey

end Settings

def count (server : Server) (metric : Metric) : Server :=
  { server with tracker.metrics := server.tracker.metrics.add metric 1 }

end Server
end FrameBridge
