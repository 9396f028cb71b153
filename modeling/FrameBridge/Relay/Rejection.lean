import FrameBridge.Target
import FrameBridge.Time.Duration

/-!
# Rejections

A request for an upgrade can be refused for one of nine reasons.  Each has a
status, a label under which it is counted, and a text.
-/

namespace FrameBridge

inductive Rejection where
  | upgradeRequired
  | badQuery (text : String)
  | missingTarget
  | invalidTarget (input : String) (cause : TargetError)
  | clientTargetDisabled
  | targetNotAllowed (target : Target)
  | atCapacity
  | upstreamUnreachable (target : Target) (cause : String)
  | upstreamTimeout (target : Target) (after : Duration)
  deriving DecidableEq

namespace Rejection

def message : Rejection → String
  | upgradeRequired => "Expected Upgrade: websocket"
  | badQuery text => "malformed query string: " ++ text
  | missingTarget => "no relay target configured and none supplied"
  | invalidTarget input cause => "invalid relay target `" ++ input ++ "`: " ++ cause.message
  | clientTargetDisabled => "client-supplied relay targets are disabled"
  | targetNotAllowed target => "relay target " ++ target.render ++ " is not permitted"
  | atCapacity => "relay is at session capacity"
  | upstreamUnreachable target cause => "upstream " ++ target.render ++ " unreachable: " ++ cause
  | upstreamTimeout target after =>
      "upstream " ++ target.render ++ " did not accept within " ++ after.render

def status : Rejection → Nat
  | upgradeRequired => 426
  | badQuery _ => 400
  | missingTarget => 400
  | invalidTarget _ _ => 400
  | clientTargetDisabled => 403
  | targetNotAllowed _ => 403
  | atCapacity => 503
  | upstreamUnreachable _ _ => 502
  | upstreamTimeout _ _ => 504

/-- The label under which a rejection is counted. -/
def label : Rejection → String
  | upgradeRequired => "upgrade_required"
  | badQuery _ => "bad_query"
  | missingTarget => "missing_target"
  | invalidTarget _ _ => "invalid_target"
  | clientTargetDisabled => "client_target_disabled"
  | targetNotAllowed _ => "target_not_allowed"
  | atCapacity => "at_capacity"
  | upstreamUnreachable _ _ => "upstream_unreachable"
  | upstreamTimeout _ _ => "upstream_timeout"

/-- The request was refused before any connection was tried. -/
def isPrecondition : Rejection → Bool
  | upstreamUnreachable _ _ => false
  | upstreamTimeout _ _ => false
  | _ => true

end Rejection
end FrameBridge
