/-!
# The command line

The program takes the path of a configuration file.  The path can also come
from the environment; what is given on the command line wins.
-/

namespace FrameBridge
namespace CommandLine

/-- What the program is asked to do. -/
inductive Command where
  | start (path : Option String)
  | help
  | version
  deriving DecidableEq

inductive Error where
  | unexpected (argument : String)
  | missingPath
  | repeatedPath
  deriving DecidableEq

/-- The name of the variable that gives the path. -/
def variableName : String := "WS_RELAY_CONFIG"

def usage : String := "Usage: ws-relay [OPTIONS]"

def Error.message (e : Error) : String :=
  let problem :=
    match e with
    | unexpected argument => "unexpected argument '" ++ argument ++ "' found"
    | missingPath => "a value is required for '--config <CONFIG>' but none was supplied"
    | repeatedPath => "the argument '--config <CONFIG>' cannot be used multiple times"
  "error: " ++ problem ++ "\n\n" ++ usage ++ "\n\nFor more information, try '--help'."

def versionText : String := "ws-relay 0.1.0"

def helpText : String :=
  "WebSocket to TCP relay\n\n" ++ usage ++ "\n\nOptions:\n" ++
    "  -c, --config <CONFIG>  Path to a TOML configuration file. Defaults apply when omitted [env: " ++
    variableName ++ "=]\n" ++
    "  -h, --help             Print help\n" ++
    "  -V, --version          Print version"

/-- The text behind a mark at the beginning of an argument. -/
def behind? (mark argument : String) : Option String :=
  if mark.toList.isPrefixOf argument.toList then
    some (String.ofList (argument.toList.drop mark.length))
  else
    none

/-- The path that an argument gives by itself. -/
def inlinePath? (argument : String) : Option String :=
  behind? "--config=" argument <|> behind? "-c=" argument <|> behind? "-c" argument

/-- Keeps a path, unless there is one already. -/
def addPath (path : Option String) (next : String) : Except Error (Option String) :=
  if next = "" then
    .error .missingPath
  else
    match path with
    | some _ => .error .repeatedPath
    | none => .ok (some next)

/-- Reads arguments, given the path so far. -/
def readFrom (path : Option String) : List String → Except Error Command
  | [] => .ok (.start path)
  | "-h" :: _ => .ok .help
  | "--help" :: _ => .ok .help
  | "-V" :: _ => .ok .version
  | "--version" :: _ => .ok .version
  | ["-c"] => .error .missingPath
  | ["--config"] => .error .missingPath
  | "-c" :: next :: rest => do readFrom (← addPath path next) rest
  | "--config" :: next :: rest => do readFrom (← addPath path next) rest
  | argument :: rest =>
      match inlinePath? argument with
      | some next => do readFrom (← addPath path next) rest
      | none => .error (.unexpected argument)

/-- Reads the arguments, given the path that comes from the environment. -/
def read (fromEnvironment : Option String) (arguments : List String) : Except Error Command := do
  match ← readFrom none arguments with
  | .start path => return .start (path <|> fromEnvironment)
  | command => return command

end CommandLine
end FrameBridge
