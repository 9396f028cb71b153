import FrameBridge.Config.Decode
import FrameBridge.Config.Validation
import FrameBridge.Text.Utf8
import FrameBridge.Toml.Parser

/-!
# Loading of configurations

A configuration is read from a file in TOML and validated.  Only a
configuration without problems is ever returned.
-/

namespace FrameBridge

/-- The bytes of a file; none if there is no such file. -/
abbrev FileContent : Type := Option (List UInt8)

inductive ReadError where
  | missing
  | notText
  deriving DecidableEq

def ReadError.message : ReadError → String
  | missing => "No such file or directory (os error 2)"
  | notText => "stream did not contain valid UTF-8"

def FileContent.text : FileContent → Except ReadError String
  | none => .error .missing
  | some bytes =>
      match Utf8.decode? bytes with
      | some cs => .ok (String.ofList cs)
      | none => .error .notText

inductive ConfigError where
  | unreadable (cause : ReadError)
  | malformed
  | invalid (problems : List ConfigProblem)
  deriving DecidableEq

def ConfigError.message : ConfigError → String
  | unreadable cause => "cannot read config file: " ++ cause.message
  | malformed => "cannot parse config"
  | invalid problems =>
      "invalid config: " ++ "; ".intercalate (problems.map ConfigProblem.message)

namespace Config

/-- Accepts a configuration without problems. -/
def validate (config : Config) : Except ConfigError Config :=
  match config.problems with
  | [] => .ok config
  | problems => .error (.invalid problems)

/-- Reads a configuration from a text in TOML. -/
def parse (text : String) : Except ConfigError Config :=
  match Toml.parse? text >>= ofDocument .ignored with
  | some config => config.validate
  | none => .error .malformed

def load (file : FileContent) : Except ConfigError Config :=
  match file.text with
  | .ok text => parse text
  | .error cause => .error (.unreadable cause)

/-- Where the configuration to start with comes from.  Without a file, every setting
has its default. -/
inductive Source where
  | defaults
  | file (content : FileContent)

def initial : Source → Except ConfigError Config
  | .defaults => ({} : Config).validate
  | .file content => load content

end Config
end FrameBridge
