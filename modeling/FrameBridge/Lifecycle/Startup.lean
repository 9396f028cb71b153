import FrameBridge.Logging.Filter
import FrameBridge.Server.Basic
import FrameBridge.Server.Listener
import FrameBridge.Tls.Load

/-!
# Starting up

The relay starts with the configuration of a file, or with the defaults.  It
sets up its log, binds its listener, builds its server and loads its
certificate, in this order; the first step that fails ends the program.
-/

namespace FrameBridge

/-- Why the relay does not start.  A log level without a filter and a
configuration without a server are no errors that the program reports: it
crashes. -/
inductive StartupError where
  | config (cause : ConfigError)
  | logLevel
  | listener (cause : ListenerError)
  | unservable
  | tls (cause : TlsError)
  deriving DecidableEq

/-- The text shown for a relay that does not start; none if it crashes. -/
def StartupError.message? : StartupError → Option String
  | config cause => some ("configuration error: " ++ cause.message)
  | logLevel => none
  | listener cause => some cause.message
  | unservable => none
  | tls cause => some ("server error: " ++ cause.message)

namespace Server

/-- Loads the certificate of a configuration, if it has one. -/
def loadTls (config : Config) (files : String → FileContent) : Except TlsError Unit :=
  match config.listener.tls with
  | none => .ok ()
  | some tls => Tls.load files tls

def setUpLog (config : Config) : Except StartupError LogFilter :=
  match LogFilter.ofLevel? config.observability.logLevel with
  | some filter => .ok filter
  | none => .error .logLevel

/-- Starts a server of a configuration. -/
def start (config : Config) (files : String → FileContent) : Except StartupError Server := do
  let _ ← setUpLog config
  let _ ← (Listener.bind config.listener.bindAddress).mapError .listener
  match ofConfig? config with
  | none => throw .unservable
  | some server =>
      (loadTls config files).mapError .tls
      return server

/-- Starts a server of the configuration that comes from some source. -/
def startFrom (source : Config.Source) (files : String → FileContent) :
    Except StartupError Server := do
  let config ← (Config.initial source).mapError .config
  start config files

end Server
end FrameBridge
