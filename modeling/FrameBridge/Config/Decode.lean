import FrameBridge.Config.Basic
import FrameBridge.Config.Document

/-!
# Settings from documents

A configuration is read from a document.  A group of settings is a table, or
an array that gives the settings in their order.  Settings that are not given
keep their defaults, and names that no setting has are ignored.  A moment is
taken for a table without settings.

Two rules depend on the format that the document comes from: whether an array
may hold more items than there are settings, and the range of integers is the
format's own.
-/

namespace FrameBridge
namespace Config

/-- What becomes of the items of an array that are more than the settings of its
group. -/
inductive Surplus where
  | ignored
  | refused
  deriving DecidableEq

section Values

def boolOf : Document → Option Bool
  | .bool b => some b
  | _ => none

/-- Reads an integer from 0 to 2^64 - 1. -/
def natOf : Document → Option Nat
  | .int (.ofNat n) => if n < UInt64.size then some n else none
  | _ => none

def textOf : Document → Option String
  | .text s => some s
  | _ => none

def textsOf : Document → Option (List String)
  | .array items => items.mapM textOf
  | _ => none

/-- Reads a value that can be absent. -/
def optionOf {α : Type} (read : Document → Option α) : Document → Option (Option α)
  | .null => some none
  | d => (read d).map some

/-- Reads a setting, with a default for one that is not given. -/
def settingOf {α : Type} (read : Document → Option α) (default : α) :
    Option Document → Option α
  | none => some default
  | some d => read d

end Values

section Groups

variable (surplus : Surplus)

/--
The settings of a group in the order of their names, given by name or by
position.
-/
def settings (names : List String) : Document → Option (List (Option Document))
  | .table entries => some (names.map fun name => Document.lookup name entries)
  | .moment => some (names.map fun _ => none)
  | .array items =>
      if surplus = .refused ∧ items.length > names.length then
        none
      else
        some ((List.range names.length).map fun i => items[i]?)
  | _ => none

/-- Reads the files of a certificate; both must be given. -/
def tlsOf (d : Document) : Option TlsFiles := do
  match ← settings surplus ["cert_path", "key_path"] d with
  | [some certPath, some keyPath] =>
      return { certPath := ← textOf certPath, keyPath := ← textOf keyPath }
  | _ => none

def listenerOf (d : Document) : Option ListenerConfig := do
  match ← settings surplus ["bind_address", "tls", "max_sessions"] d with
  | [bindAddress, tls, maxSessions] =>
      let base : ListenerConfig := {}
      return {
        bindAddress := ← settingOf textOf base.bindAddress bindAddress
        tls := ← settingOf (optionOf (tlsOf surplus)) base.tls tls
        maxSessions := ← settingOf natOf base.maxSessions maxSessions }
  | _ => none

def policyOf (d : Document) : Option RelayPolicy := do
  match ← settings surplus
      ["path", "remote", "allow_client_target", "allowed_targets", "buffer_size"] d with
  | [path, remote, allowClientTarget, allowedTargets, bufferSize] =>
      let base : RelayPolicy := {}
      return {
        path := ← settingOf textOf base.path path
        remote := ← settingOf (optionOf textOf) base.remote remote
        allowClientTarget := ← settingOf boolOf base.allowClientTarget allowClientTarget
        allowedTargets := ← settingOf textsOf base.allowedTargets allowedTargets
        bufferSize := ← settingOf natOf base.bufferSize bufferSize }
  | _ => none

def timeoutsOf (d : Document) : Option TimeoutConfig := do
  match ← settings surplus ["connect_secs", "request_secs"] d with
  | [connectSecs, requestSecs] =>
      let base : TimeoutConfig := {}
      return {
        connectSecs := ← settingOf natOf base.connectSecs connectSecs
        requestSecs := ← settingOf natOf base.requestSecs requestSecs }
  | _ => none

def observabilityOf (d : Document) : Option ObservabilityConfig := do
  match ← settings surplus ["log_level", "metrics_enabled", "metrics_address"] d with
  | [logLevel, metricsEnabled, metricsAddress] =>
      let base : ObservabilityConfig := {}
      return {
        logLevel := ← settingOf textOf base.logLevel logLevel
        metricsEnabled := ← settingOf boolOf base.metricsEnabled metricsEnabled
        metricsAddress := ← settingOf textOf base.metricsAddress metricsAddress }
  | _ => none

def adminOf (d : Document) : Option AdminConfig := do
  match ← settings surplus ["enabled", "api_key"] d with
  | [enabled, apiKey] =>
      let base : AdminConfig := {}
      return {
        enabled := ← settingOf boolOf base.enabled enabled
        apiKey := ← settingOf textOf base.apiKey apiKey }
  | _ => none

def ofDocument (d : Document) : Option Config := do
  match ← settings surplus ["listener", "relay", "timeouts", "observability", "admin"] d with
  | [listener, relay, timeouts, observability, admin] =>
      return {
        listener := ← settingOf (listenerOf surplus) {} listener
        relay := ← settingOf (policyOf surplus) {} relay
        timeouts := ← settingOf (timeoutsOf surplus) {} timeouts
        observability := ← settingOf (observabilityOf surplus) {} observability
        admin := ← settingOf (adminOf surplus) {} admin }
  | _ => none

end Groups

end Config
end FrameBridge
