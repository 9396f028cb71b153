import FrameBridge.Proofs.Config.Validation
import FrameBridge.Proofs.Relay.Resolution

/-!
# The fixed remote of a valid configuration

Validation takes the fixed remote from a policy and reads it, and so does every
request that names no target.  Where there is no fixed remote, validation asks
that requests may name a target.  So the settings of a valid configuration are
never the reason why a request is refused: a request that names no target is
refused only where it could have named one, and has to.
-/

namespace FrameBridge
namespace RelayPolicy

variable {config : Config} {headers : Headers} {uri : Uri}

/-- What a request that names no target gets under a valid configuration. -/
theorem granted_or_missing_of_valid
    (hvalid : config.Valid)
    (hupgrade : Http.isUpgrade headers = true)
    (hnothing : AsksNothing uri) :
    (∃ remote target,
      config.relay.fixedRemote = some remote ∧
      Target.parse remote = .ok target ∧
      Granted config.relay headers uri target) ∨
    (config.relay.fixedRemote = none ∧
      config.relay.allowClientTarget = true ∧
      FirstFailure config.relay headers uri .missingTarget) := by
  have hsound := Config.valid_iff_sound.mp hvalid
  cases hremote : config.relay.fixedRemote with
  | some remote =>
      obtain ⟨target, hparse⟩ := hsound.remote remote hremote
      exact Or.inl ⟨remote, target, rfl, hparse, .fixed hupgrade hnothing hremote hparse⟩
  | none =>
      refine Or.inr ⟨rfl, ?_, .missingTarget hupgrade hnothing hremote⟩
      rcases hsound.hasTarget with hsome | hallowed
      · rw [hremote] at hsome
        cases hsome
      · exact hallowed

/-- Under a valid configuration, a request that names no target gets the fixed
remote if there is one, and otherwise is told to name a target, which it may.  It
is refused for no other reason, and not at all if requests may not name a
target. -/
theorem valid_policy_resolves
    (hvalid : config.Valid)
    (hupgrade : Http.isUpgrade headers = true)
    (hnothing : AsksNothing uri) :
    (∀ remote,
      config.relay.fixedRemote = some remote →
      ∃ target,
        Target.parse remote = .ok target ∧
        config.relay.resolve headers uri = .ok target) ∧
    (config.relay.fixedRemote = none →
      config.relay.resolve headers uri = .error .missingTarget) ∧
    (∀ rejection,
      config.relay.resolve headers uri = .error rejection →
      rejection = .missingTarget ∧
        config.relay.fixedRemote = none ∧
        config.relay.allowClientTarget = true) ∧
    (config.relay.allowClientTarget = false →
      ∃ target, config.relay.resolve headers uri = .ok target) := by
  rcases granted_or_missing_of_valid hvalid hupgrade hnothing with
    ⟨remote, target, hremote, hparse, hgranted⟩ | ⟨hnone, hallowed, hmissing⟩
  · have hresolve := hgranted.resolve
    refine ⟨?_, ?_, ?_, ?_⟩
    · intro other hother
      rw [hremote] at hother
      cases hother
      exact ⟨target, hparse, hresolve⟩
    · intro hnone
      rw [hremote] at hnone
      cases hnone
    · intro rejection hrejected
      rw [hresolve] at hrejected
      cases hrejected
    · intro _
      exact ⟨target, hresolve⟩
  · have hresolve := hmissing.resolve
    refine ⟨?_, ?_, ?_, ?_⟩
    · intro remote hremote
      rw [hnone] at hremote
      cases hremote
    · intro _
      exact hresolve
    · intro rejection hrejected
      rw [hresolve] at hrejected
      cases hrejected
      exact ⟨rfl, hnone, hallowed⟩
    · intro hdisabled
      rw [hdisabled] at hallowed
      cases hallowed

/-- The fixed remote has white space around it. -/
def spaced : Config where
  relay := { remote := some " [::1]:7\n" }

/-- The query names a target, but with white space only. -/
def blank : Uri :=
  ⟨[], some (Utf8.encodeString "x=1&remote%5Faddr=+")⟩

theorem asksNothing_blank :
    AsksNothing blank := by
  have hparts :
      (Text.splitAll Query.ampersand (blank.query.getD [])).filter (· ≠ []) =
        [Utf8.encodeString "x=1", Utf8.encodeString "remote%5Faddr=+"] := by
    decide
  have hfirst : Query.decodePair (Utf8.encodeString "x=1") = ("x", "1") :=
    Query.decodePair_of_split rfl rfl rfl
  have hsecond :
      Query.decodePair (Utf8.encodeString "remote%5Faddr=+") = ("remote_addr", " ") :=
    Query.decodePair_of_split rfl rfl rfl
  have hpairs : Query.pairs (blank.query.getD []) = [("x", "1"), ("remote_addr", " ")] := by
    rw [Query.pairs, hparts, List.map_cons, List.map_singleton, hfirst, hsecond]
  constructor
  · rw [targetCount, hpairs]
    decide
  · intro value hnames
    rw [Names, hpairs] at hnames
    have hvalue : value = " " := by
      simpa [targetParameter] using hnames
    rw [hvalue]
    intro c hc
    obtain rfl : c = ' ' := by
      simpa using hc
    decide

theorem valid_policy_resolves_spaced :
    spaced.relay.resolve [⟨"upgrade", Utf8.encodeString "websocket"⟩] blank =
      .ok ⟨"::1", 7⟩ := by
  have hvalid : spaced.Valid := by
    decide
  have hupgrade : Http.isUpgrade [⟨"upgrade", Utf8.encodeString "websocket"⟩] = true := by
    decide
  have hremote : spaced.relay.fixedRemote = some "[::1]:7" := by
    decide
  obtain ⟨hfixed, -⟩ := valid_policy_resolves hvalid hupgrade asksNothing_blank
  obtain ⟨target, hparse, hresolve⟩ := hfixed _ hremote
  have hread : Target.parse "[::1]:7" = .ok ⟨"::1", 7⟩ := by
    decide
  rw [hread] at hparse
  cases hparse
  exact hresolve

end RelayPolicy
end FrameBridge
