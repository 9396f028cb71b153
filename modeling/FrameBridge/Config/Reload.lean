import FrameBridge.Config.Load

/-!
# Reloading of configurations

While the relay runs, the directory of its configuration file is watched.  A
version of the file that can be loaded waits until it is applied; versions are
applied in the order in which they were read.  What cannot be loaded changes
nothing.
-/

namespace FrameBridge

/-- What happened to files of a directory.  One that is moved to where it is counts
as modified; reads and removals are among the others. -/
inductive FileEvent.Kind where
  | create
  | modify
  | other
  deriving DecidableEq

/-- An event of a directory, with the names of the files that it happened to. -/
structure FileEvent where
  kind : FileEvent.Kind
  names : List String

namespace FileEvent

/-- The event can have changed the content of a file.  A path that names no
file is never concerned. -/
def concerns (event : FileEvent) (watched : Option String) : Bool :=
  match watched with
  | none => false
  | some name => (event.kind == .create || event.kind == .modify) && event.names.contains name

end FileEvent

/-- The version of a configuration that an event brings, given the content that
the watched file has when it is read. -/
def Config.reloaded? (watched : Option String) (event : FileEvent) (content : FileContent) :
    Option Config :=
  if event.concerns watched then (Config.load content).toOption else none

/-- The configuration in force, and the versions that wait to be applied, the oldest
first. -/
structure LiveConfig where
  current : Config
  pending : List Config := []

namespace LiveConfig

/-- Takes note of an event. -/
def observe (live : LiveConfig) (watched : Option String) (event : FileEvent)
    (content : FileContent) : LiveConfig :=
  { live with pending := live.pending ++ (Config.reloaded? watched event content).toList }

/-- Applies the oldest version that waits. -/
def applyNext (live : LiveConfig) : LiveConfig :=
  match live.pending with
  | [] => live
  | next :: rest => { current := next, pending := rest }

end LiveConfig
end FrameBridge
