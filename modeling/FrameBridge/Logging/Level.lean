import FrameBridge.Text.Ascii

/-!
# Log levels

A level is the least severity of what is logged.  It is written as a name, or
as the number of the level.
-/

namespace FrameBridge

inductive LogLevel where
  | off
  | error
  | warn
  | info
  | debug
  | trace
  deriving DecidableEq

namespace LogLevel

/-- All levels, by the number that stands for each. -/
def all : List LogLevel := [off, error, warn, info, debug, trace]

def label : LogLevel → String
  | off => "off"
  | error => "error"
  | warn => "warn"
  | info => "info"
  | debug => "debug"
  | trace => "trace"

/-- Reads a level: a number, or a name in any letter case. -/
def parse? (cs : List Char) : Option LogLevel :=
  match Text.natural? cs with
  | some n => all[n]?
  | none => all.find? fun level => Text.equalFold cs level.label.toList

end LogLevel

end FrameBridge
