import FrameBridge.Logging.Directive

/-!
# Log filters

A filter is a list of directives divided by commas.  What is no directive is
left out, and a filter without directives logs errors.

Directives are kept in their order: the more exactly one says what it is for,
the earlier it comes.
-/

namespace FrameBridge

/-- A filter.  A directive that names only a field stands in both lists. -/
structure LogFilter where
  plain : List LogDirective
  inSpans : List LogDirective

namespace LogFilter

/-- Adds a directive to others in their order.  It replaces one that is for the
same. -/
def add (d : LogDirective) : List LogDirective → List LogDirective
  | [] => [d]
  | e :: rest =>
      match d.order e with
      | .eq => d :: rest
      | .gt => d :: e :: rest
      | .lt => e :: add d rest

def sort (directives : List LogDirective) : List LogDirective :=
  directives.foldl (fun sorted d => add d sorted) []

def ofDirectives (directives : List LogDirective) : LogFilter :=
  let (inSpans, plain) := directives.partition (·.isScoped)
  match sort (plain ++ inSpans.filter (·.isPlain)), sort inSpans with
  | [], [] => ⟨[⟨none, none, none, .error⟩], []⟩
  | plain, inSpans => ⟨plain, inSpans⟩

/-- What a text between commas contributes to a filter: a directive or nothing.
A text with a part that begins or ends within a character makes a filter
impossible. -/
def piece? (cs : List Char) : Option (Option LogDirective) :=
  match LogDirective.parse cs with
  | .ok d => some (some d)
  | .error .malformed => some none
  | .error .brokenCharacter => none

/-- The filter of some text, unless it is impossible. -/
def ofText? (cs : List Char) : Option LogFilter := do
  let pieces ← (Text.splitAll ',' cs).mapM piece?
  return ofDirectives (pieces.filterMap id)

/-- The filter for the relay and its handling of requests, when only a level is
configured. -/
def ofLevel? (level : String) : Option LogFilter :=
  ofText? ("ws_relay=" ++ level ++ ",tower_http=" ++ level).toList

def render (filter : LogFilter) : String :=
  ",".intercalate ((filter.plain ++ filter.inSpans).map LogDirective.render)

end LogFilter
end FrameBridge
