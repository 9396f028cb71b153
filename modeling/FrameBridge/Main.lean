import FrameBridge.CommandLine
import FrameBridge.Lifecycle.Startup

/-!
# The program

The program goes through the start of the relay on the configuration it is
given, and says whether the relay can run on it.
-/

open FrameBridge

def readContent (path : String) : IO FileContent := do
  try
    return some (← IO.FS.readBinFile path).toList
  catch _ =>
    return none

/-- The contents of the files that a configuration names. -/
def readTlsFiles (config : Config) : IO (String → FileContent) := do
  match config.listener.tls with
  | none => return fun _ => none
  | some tls =>
      let certificate ← readContent tls.certPath
      let key ← readContent tls.keyPath
      return fun path =>
        if path = tls.certPath then certificate else if path = tls.keyPath then key else none

/-- Goes through the start of the relay. -/
def startUp (path : Option String) : IO (Except StartupError Server) := do
  let source ← match path with
    | none => pure Config.Source.defaults
    | some path => do pure (Config.Source.file (← readContent path))
  let files : String → FileContent ← match Config.initial source with
    | .error _ => pure (fun _ => none)
    | .ok config => readTlsFiles config
  return Server.startFrom source files

/-- The exit status of a program that crashed. -/
def crashStatus : UInt32 := 101

/-- Shows that the relay can run. -/
def report (server : Server) : IO UInt32 := do
  IO.println ("ready to listen on " ++ server.startup.listener.bindAddress)
  return 0

def main (arguments : List String) : IO UInt32 := do
  match CommandLine.read (← IO.getEnv CommandLine.variableName) arguments with
  | .error e =>
      IO.eprintln e.message
      return 2
  | .ok .help =>
      IO.println CommandLine.helpText
      return 0
  | .ok .version =>
      IO.println CommandLine.versionText
      return 0
  | .ok (.start path) =>
      match ← startUp path with
      | .ok server => report server
      | .error e =>
          match e.message? with
          | some message =>
              IO.eprintln ("Error: " ++ message)
              return 1
          | none => return crashStatus
