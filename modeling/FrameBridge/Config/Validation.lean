import FrameBridge.Address.Socket
import FrameBridge.Config.Basic
import FrameBridge.Server.Tracker
import FrameBridge.Target

/-!
# Validation of configurations

A configuration is checked setting by setting, and every problem is reported,
in the order of the settings.
-/

namespace FrameBridge

inductive ConfigProblem where
  | bindAddress (value : String)
  | maxSessions
  | relayPath (value : String)
  | remote (value : String) (cause : TargetError)
  | allowedTarget (value : String) (cause : TargetError)
  | noTarget
  | bufferSize
  | timeout (setting : String)
  | adminKey
  deriving DecidableEq

namespace ConfigProblem

def message : ConfigProblem → String
  | bindAddress value => "listener.bind_address `" ++ value ++ "` is not a socket address"
  | maxSessions =>
      "listener.max_sessions must be between 1 and " ++
        String.ofList (Nat.toDigits 10 Tracker.slotLimit)
  | relayPath value =>
      "relay.path `" ++ value ++
        "` must be a literal path starting with '/' other than `/` or `/admin`"
  | remote value cause => "relay.remote `" ++ value ++ "` is invalid: " ++ cause.message
  | allowedTarget value cause =>
      "relay.allowed_targets entry `" ++ value ++ "` is invalid: " ++ cause.message
  | noTarget => "relay has no fixed remote and client targets are disabled"
  | bufferSize => "relay.buffer_size must be greater than zero"
  | timeout setting => "timeouts." ++ setting ++ " must be greater than zero"
  | adminKey => "admin.api_key must be changed when the admin API is enabled"

end ConfigProblem

namespace Config

/-- The path of the relay is a literal path that no other route has. -/
def isRelayPath (path : List Char) : Bool :=
  path.head? == some '/' && path != ['/'] && !"/admin".toList.isPrefixOf path &&
    !path.any fun c => c == '\x7b' || c == '\x7d' || c == '*'

/-- Reports a problem unless a condition holds. -/
def require (condition : Bool) (problem : ConfigProblem) : List ConfigProblem :=
  if condition then [] else [problem]

/-- The problem of a fixed remote that is no target. -/
def remoteProblems (policy : RelayPolicy) : List ConfigProblem :=
  match policy.fixedRemote with
  | none => []
  | some remote =>
      match Target.parse remote with
      | .ok _ => []
      | .error cause => [.remote remote cause]

/-- The problem of one entry of the allowed targets. -/
def entryProblems (entry : String) : List ConfigProblem :=
  match Target.checkEntry entry with
  | .ok _ => []
  | .error cause => [.allowedTarget entry cause]

/-- Every problem of a configuration, in the order of the settings. -/
def problems (config : Config) : List ConfigProblem :=
  require (SocketAddress.parse? config.listener.bindAddress).isSome
      (.bindAddress config.listener.bindAddress) ++
    require (0 < config.listener.maxSessions &&
        config.listener.maxSessions ≤ Tracker.slotLimit) .maxSessions ++
    require (isRelayPath config.relay.path.toList) (.relayPath config.relay.path) ++
    remoteProblems config.relay ++
    config.relay.allowedTargets.flatMap entryProblems ++
    require (config.relay.fixedRemote.isSome || config.relay.allowClientTarget) .noTarget ++
    require (config.relay.bufferSize != 0) .bufferSize ++
    require (config.timeouts.connectSecs != 0) (.timeout "connect_secs") ++
    require (config.timeouts.requestSecs != 0) (.timeout "request_secs") ++
    require (!(config.admin.enabled && config.admin.apiKey == placeholderAdminKey)) .adminKey

/-- The configuration has no problem. -/
def Valid (config : Config) : Prop :=
  config.problems = []

instance (config : Config) : Decidable config.Valid :=
  inferInstanceAs (Decidable (config.problems = []))

end Config
end FrameBridge
