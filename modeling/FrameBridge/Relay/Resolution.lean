import FrameBridge.Config.Basic
import FrameBridge.Http.Query
import FrameBridge.Http.Upgrade
import FrameBridge.Http.Uri
import FrameBridge.Relay.Rejection

/-!
# Resolution of targets

The target of a request is the one that its query names, if the policy allows
that, and otherwise the fixed remote of the policy.  No name is looked up and
no connection is made.
-/

namespace FrameBridge
namespace RelayPolicy

/-- The name under which a query gives a target. -/
def targetParameter : String := "remote_addr"

/-- The text for a query that gives more than one target. -/
def duplicateText : String :=
  "Failed to deserialize query string: duplicate field `" ++ targetParameter ++ "`"

/-- The target that a query gives, without white space around it. -/
def requestedTarget (query : Option (List UInt8)) : Except Rejection (Option String) :=
  match Query.valuesOf targetParameter (query.getD []) with
  | [] => .ok none
  | [value] =>
      let trimmed := Text.trimString value
      .ok (if trimmed = "" then none else some trimmed)
  | _ => .error (.badQuery duplicateText)

def readTarget (input : String) : Except Rejection Target :=
  match Target.parse input with
  | .ok target => .ok target
  | .error cause => .error (.invalidTarget input cause)

/-- The policy allows a target named by a request. -/
def allows (policy : RelayPolicy) (target : Target) : Bool :=
  policy.allowedTargets.isEmpty || policy.allowedTargets.any target.matchesEntry

/-- The target of a request that names one. -/
def resolveRequested (policy : RelayPolicy) (input : String) : Except Rejection Target :=
  if policy.allowClientTarget then do
    let target ← readTarget input
    if policy.allows target then
      return target
    else
      throw (.targetNotAllowed target)
  else
    .error .clientTargetDisabled

/-- The target of a request that names none. -/
def resolveFixed (policy : RelayPolicy) : Except Rejection Target :=
  match policy.fixedRemote with
  | some input => readTarget input
  | none => .error .missingTarget

def resolve (policy : RelayPolicy) (headers : Headers) (uri : Uri) : Except Rejection Target := do
  if !Http.isUpgrade headers then
    throw .upgradeRequired
  match ← requestedTarget uri.query with
  | some input => policy.resolveRequested input
  | none => policy.resolveFixed

end RelayPolicy
end FrameBridge
