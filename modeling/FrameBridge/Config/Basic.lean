import FrameBridge.Text.Blank

/-!
# Configuration

The settings of the relay, in the sections in which a configuration file gives
them.  Every setting has a default.
-/

namespace FrameBridge

/-- The paths of a certificate chain and of its private key. -/
structure TlsFiles where
  certPath : String
  keyPath : String
  deriving DecidableEq

/-- Where and for how many sessions the relay listens. -/
structure ListenerConfig where
  bindAddress : String := "0.0.0.0:8080"
  tls : Option TlsFiles := none
  maxSessions : Nat := 1024
  deriving DecidableEq

/-- Where sessions may relay to, and how.  A blank remote stands for none, and an
empty list of allowed targets allows every target.  A frame to the client has at
most `bufferSize` bytes. -/
structure RelayPolicy where
  path : String := "/handshake"
  remote : Option String := some "127.0.0.1:5201"
  allowClientTarget : Bool := false
  allowedTargets : List String := []
  bufferSize : Nat := 16384
  deriving DecidableEq

/-- The limits for connecting to a target and for answering a plain request, in
seconds. -/
structure TimeoutConfig where
  connectSecs : Nat := 5
  requestSecs : Nat := 30
  deriving DecidableEq

structure ObservabilityConfig where
  logLevel : String := "info"
  metricsEnabled : Bool := false
  metricsAddress : String := "0.0.0.0:9090"
  deriving DecidableEq

/-- The admin key that configurations start with. -/
def placeholderAdminKey : String := "CHANGE_ME_IN_PRODUCTION"

structure AdminConfig where
  enabled : Bool := false
  apiKey : String := placeholderAdminKey
  deriving DecidableEq

structure Config where
  listener : ListenerConfig := {}
  relay : RelayPolicy := {}
  timeouts : TimeoutConfig := {}
  observability : ObservabilityConfig := {}
  admin : AdminConfig := {}
  deriving DecidableEq

namespace RelayPolicy

/-- The target for requests that name none, without white space around it. -/
def fixedRemote (policy : RelayPolicy) : Option String :=
  match policy.remote with
  | none => none
  | some remote =>
      let trimmed := Text.trimString remote
      if trimmed = "" then none else some trimmed

end RelayPolicy
end FrameBridge
