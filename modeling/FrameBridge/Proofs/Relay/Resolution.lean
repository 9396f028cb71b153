import FrameBridge.Proofs.Http.Query
import FrameBridge.Proofs.Text.Trim
import FrameBridge.Relay.Resolution

/-!
# What a policy makes of a request

A request asks for a target if its query has a pair with the right name and a
value that is not blank.  It gets a target if every check on its way succeeds,
and otherwise the rejection of the first check that fails.

`FirstFailure` lists the checks with all that come before them.  The proof
shows that a request which meets the conditions of a result gets that result,
and that every request meets the conditions of some result.
-/

namespace FrameBridge

namespace RelayPolicy

section Requests

/-- How often a query names a target. -/
def targetCount (uri : Uri) : Nat :=
  (Query.pairs (uri.query.getD [])).countP fun pair => pair.1 == targetParameter

/-- A query names a target with some text. -/
def Names (uri : Uri) (value : String) : Prop :=
  (targetParameter, value) ∈ Query.pairs (uri.query.getD [])

/-- A query names a target once, and not with a blank text. -/
def Asks (uri : Uri) (value : String) : Prop :=
  targetCount uri ≤ 1 ∧ Names uri value ∧ ¬ Text.IsBlankText value

/-- A query names no target, or once with a blank text. -/
def AsksNothing (uri : Uri) : Prop :=
  targetCount uri ≤ 1 ∧ ∀ value, Names uri value → Text.IsBlankText value

/-- The target may be asked for. -/
def Admits (policy : RelayPolicy) (target : Target) : Prop :=
  policy.allowedTargets = [] ∨
    ∃ entry ∈ policy.allowedTargets, target.matchesEntry entry = true

end Requests

/-- All checks on a request succeed, and give a target. -/
inductive Granted
    (policy : RelayPolicy) (headers : Headers) (uri : Uri)
    (target : Target) : Prop
  | requested
      {value : String}
      (hupgrade : Http.isUpgrade headers = true)
      (hasks : Asks uri value)
      (hallowed : policy.allowClientTarget = true)
      (hparse : Target.parse value = .ok target)
      (hadmits : policy.Admits target)
  | fixed
      {remote : String}
      (hupgrade : Http.isUpgrade headers = true)
      (hnothing : AsksNothing uri)
      (hremote : policy.fixedRemote = some remote)
      (hparse : Target.parse remote = .ok target)

/-- The first check on a request that fails gives a rejection. -/
inductive FirstFailure
    (policy : RelayPolicy) (headers : Headers) (uri : Uri) : Rejection → Prop
  | upgradeRequired
      (hupgrade : Http.isUpgrade headers = false) :
      FirstFailure policy headers uri .upgradeRequired
  | badQuery
      (hupgrade : Http.isUpgrade headers = true)
      (htwice : 2 ≤ targetCount uri) :
      FirstFailure policy headers uri (.badQuery duplicateText)
  | clientTargetDisabled
      {value : String}
      (hupgrade : Http.isUpgrade headers = true)
      (hasks : Asks uri value)
      (hdisabled : policy.allowClientTarget = false) :
      FirstFailure policy headers uri .clientTargetDisabled
  | invalidRequested
      {value : String} {cause : TargetError}
      (hupgrade : Http.isUpgrade headers = true)
      (hasks : Asks uri value)
      (hallowed : policy.allowClientTarget = true)
      (hparse : Target.parse value = .error cause) :
      FirstFailure policy headers uri (.invalidTarget (Text.trimString value) cause)
  | targetNotAllowed
      {value : String} {target : Target}
      (hupgrade : Http.isUpgrade headers = true)
      (hasks : Asks uri value)
      (hallowed : policy.allowClientTarget = true)
      (hparse : Target.parse value = .ok target)
      (hadmits : ¬ policy.Admits target) :
      FirstFailure policy headers uri (.targetNotAllowed target)
  | missingTarget
      (hupgrade : Http.isUpgrade headers = true)
      (hnothing : AsksNothing uri)
      (hremote : policy.fixedRemote = none) :
      FirstFailure policy headers uri .missingTarget
  | invalidFixed
      {remote : String} {cause : TargetError}
      (hupgrade : Http.isUpgrade headers = true)
      (hnothing : AsksNothing uri)
      (hremote : policy.fixedRemote = some remote)
      (hparse : Target.parse remote = .error cause) :
      FirstFailure policy headers uri (.invalidTarget remote cause)

section Queries

variable {uri : Uri} {value : String}

theorem length_valuesOf :
    (Query.valuesOf targetParameter (uri.query.getD [])).length = targetCount uri := by
  rw [Query.valuesOf, List.length_map, ← List.countP_eq_length_filter]
  rfl

theorem mem_valuesOf_iff :
    value ∈ Query.valuesOf targetParameter (uri.query.getD []) ↔ Names uri value := by
  simp only [Query.valuesOf, Names, List.mem_map, List.mem_filter, beq_iff_eq]
  constructor
  · rintro ⟨⟨name, v⟩, ⟨hmem, rfl⟩, rfl⟩
    exact hmem
  · intro hmem
    exact ⟨(targetParameter, value), ⟨hmem, rfl⟩, rfl⟩

/-- Two names of a target are too many, whatever their values are. -/
theorem requestedTarget_of_twice
    (htwice : 2 ≤ targetCount uri) :
    requestedTarget uri.query = .error (.badQuery duplicateText) := by
  rw [← length_valuesOf] at htwice
  unfold requestedTarget
  split
  · simp_all
  · simp_all
  · rfl

/-- One name with a value that is not blank is asked for. -/
theorem requestedTarget_of_asks
    (hasks : Asks uri value) :
    requestedTarget uri.query = .ok (some (Text.trimString value)) := by
  obtain ⟨honce, hnames, hblank⟩ := hasks
  rw [← length_valuesOf] at honce
  rw [← mem_valuesOf_iff] at hnames
  have hvalues : Query.valuesOf targetParameter (uri.query.getD []) = [value] := by
    cases hlist : Query.valuesOf targetParameter (uri.query.getD []) with
    | nil =>
        simp [hlist] at hnames
    | cons first rest =>
        cases rest with
        | nil =>
            rw [hlist, List.mem_singleton] at hnames
            rw [hnames]
        | cons second rest =>
            simp [hlist] at honce
  rw [requestedTarget, hvalues]
  simp [Text.trimString_eq_empty_iff, hblank]

/-- A blank value counts as none. -/
theorem requestedTarget_of_asksNothing
    (hnothing : AsksNothing uri) :
    requestedTarget uri.query = .ok none := by
  obtain ⟨honce, hblank⟩ := hnothing
  rw [← length_valuesOf] at honce
  cases hlist : Query.valuesOf targetParameter (uri.query.getD []) with
  | nil =>
      simp [requestedTarget, hlist]
  | cons first rest =>
      have hfirst : Text.IsBlankText first :=
        hblank first (mem_valuesOf_iff.mp (by simp [hlist]))
      cases rest with
      | nil =>
          simp [requestedTarget, hlist, Text.trimString_eq_empty_iff.mpr hfirst]
      | cons second rest =>
          simp [hlist] at honce

/-- Every query names targets twice, asks for one, or asks for none. -/
theorem query_cases
    (uri : Uri) :
    2 ≤ targetCount uri ∨ (∃ value, Asks uri value) ∨ AsksNothing uri := by
  rcases Nat.lt_or_ge 1 (targetCount uri) with htwice | honce
  · exact Or.inl htwice
  · refine Or.inr ?_
    rcases Classical.em (∃ value, Names uri value ∧ ¬ Text.IsBlankText value) with hsome | hnone
    · obtain ⟨value, hnames, hblank⟩ := hsome
      exact Or.inl ⟨value, honce, hnames, hblank⟩
    · refine Or.inr ⟨honce, fun value hnames => ?_⟩
      exact Classical.byContradiction fun hblank => hnone ⟨value, hnames, hblank⟩

end Queries

section Results

variable {policy : RelayPolicy} {headers : Headers} {uri : Uri} {value : String}

theorem allows_iff
    {target : Target} :
    policy.allows target = true ↔ policy.Admits target := by
  simp [allows, Admits, List.any_eq_true]

theorem resolve_of_asks
    (hupgrade : Http.isUpgrade headers = true)
    (hasks : Asks uri value) :
    policy.resolve headers uri = policy.resolveRequested (Text.trimString value) := by
  simp [resolve, hupgrade, requestedTarget_of_asks hasks, bind, Except.bind]

theorem resolve_of_asksNothing
    (hupgrade : Http.isUpgrade headers = true)
    (hnothing : AsksNothing uri) :
    policy.resolve headers uri = policy.resolveFixed := by
  simp [resolve, hupgrade, requestedTarget_of_asksNothing hnothing, bind, Except.bind]

/-- A request that meets the conditions of a target gets it. -/
theorem Granted.resolve
    {target : Target}
    (h : Granted policy headers uri target) :
    policy.resolve headers uri = .ok target := by
  cases h with
  | requested hupgrade hasks hallowed hparse hadmits =>
      rw [resolve_of_asks hupgrade hasks]
      simp [resolveRequested, hallowed, readTarget, Target.parse_trimString, hparse,
        allows_iff.mpr hadmits, bind, Except.bind, pure, Except.pure]
  | fixed hupgrade hnothing hremote hparse =>
      rw [resolve_of_asksNothing hupgrade hnothing]
      simp [resolveFixed, hremote, readTarget, hparse]

/-- A request that meets the conditions of a rejection gets it. -/
theorem FirstFailure.resolve
    {rejection : Rejection}
    (h : FirstFailure policy headers uri rejection) :
    policy.resolve headers uri = .error rejection := by
  cases h with
  | upgradeRequired hupgrade =>
      simp [RelayPolicy.resolve, hupgrade, bind, Except.bind, throw, throwThe, MonadExceptOf.throw]
  | badQuery hupgrade htwice =>
      simp [RelayPolicy.resolve, hupgrade, requestedTarget_of_twice htwice, bind, Except.bind]
  | clientTargetDisabled hupgrade hasks hdisabled =>
      rw [resolve_of_asks hupgrade hasks]
      simp [resolveRequested, hdisabled]
  | invalidRequested hupgrade hasks hallowed hparse =>
      rw [resolve_of_asks hupgrade hasks]
      simp [resolveRequested, hallowed, readTarget, Target.parse_trimString, hparse, bind,
        Except.bind]
  | targetNotAllowed hupgrade hasks hallowed hparse hadmits =>
      rw [resolve_of_asks hupgrade hasks]
      simp [resolveRequested, hallowed, readTarget, Target.parse_trimString, hparse,
        mt allows_iff.mp hadmits, bind, Except.bind, throw, throwThe, MonadExceptOf.throw]
  | missingTarget hupgrade hnothing hremote =>
      rw [resolve_of_asksNothing hupgrade hnothing]
      simp [resolveFixed, hremote]
  | invalidFixed hupgrade hnothing hremote hparse =>
      rw [resolve_of_asksNothing hupgrade hnothing]
      simp [resolveFixed, hremote, readTarget, hparse]

/-- Every request meets the conditions of a target or of a rejection. -/
theorem granted_or_firstFailure
    (policy : RelayPolicy) (headers : Headers) (uri : Uri) :
    (∃ target, Granted policy headers uri target) ∨
      ∃ rejection, FirstFailure policy headers uri rejection := by
  cases hupgrade : Http.isUpgrade headers with
  | false =>
      exact Or.inr ⟨_, .upgradeRequired hupgrade⟩
  | true =>
      rcases query_cases uri with htwice | ⟨value, hasks⟩ | hnothing
      · exact Or.inr ⟨_, .badQuery hupgrade htwice⟩
      · cases hallowed : policy.allowClientTarget with
        | false =>
            exact Or.inr ⟨_, .clientTargetDisabled hupgrade hasks hallowed⟩
        | true =>
            cases hparse : Target.parse value with
            | error cause =>
                exact Or.inr ⟨_, .invalidRequested hupgrade hasks hallowed hparse⟩
            | ok target =>
                rcases Classical.em (policy.Admits target) with hadmits | hadmits
                · exact Or.inl ⟨_, .requested hupgrade hasks hallowed hparse hadmits⟩
                · exact Or.inr ⟨_, .targetNotAllowed hupgrade hasks hallowed hparse hadmits⟩
      · cases hremote : policy.fixedRemote with
        | none =>
            exact Or.inr ⟨_, .missingTarget hupgrade hnothing hremote⟩
        | some remote =>
            cases hparse : Target.parse remote with
            | error cause =>
                exact Or.inr ⟨_, .invalidFixed hupgrade hnothing hremote hparse⟩
            | ok target =>
                exact Or.inl ⟨_, .fixed hupgrade hnothing hremote hparse⟩

/-- A target comes out exactly if every check succeeds. -/
theorem resolve_eq_ok_iff
    {target : Target} :
    policy.resolve headers uri = .ok target ↔ Granted policy headers uri target := by
  constructor
  · intro hresolve
    rcases granted_or_firstFailure policy headers uri with ⟨other, h⟩ | ⟨rejection, h⟩
    · rw [h.resolve] at hresolve
      cases hresolve
      exact h
    · rw [h.resolve] at hresolve
      cases hresolve
  · exact Granted.resolve

/-- A rejection comes out exactly if it is that of the first check that fails. -/
theorem resolve_eq_error_iff
    {rejection : Rejection} :
    policy.resolve headers uri = .error rejection ↔
      FirstFailure policy headers uri rejection := by
  constructor
  · intro hresolve
    rcases granted_or_firstFailure policy headers uri with ⟨target, h⟩ | ⟨other, h⟩
    · rw [h.resolve] at hresolve
      cases hresolve
    · rw [h.resolve] at hresolve
      cases hresolve
      exact h
  · exact FirstFailure.resolve

/-- Only the fixed remote is left to requests that may not name a target. -/
theorem fixed_of_disabled
    {target : Target}
    (hdisabled : policy.allowClientTarget = false)
    (hresolve : policy.resolve headers uri = .ok target) :
    ∃ remote, policy.fixedRemote = some remote ∧ Target.parse remote = .ok target := by
  cases resolve_eq_ok_iff.mp hresolve with
  | requested hupgrade hasks hallowed hparse hadmits =>
      rw [hdisabled] at hallowed
      cases hallowed
  | fixed hupgrade hnothing hremote hparse =>
      exact ⟨_, hremote, hparse⟩

/-- A request gets a target exactly if all checks succeed, and otherwise the
rejection of the first check that fails.  If requests may not name a target,
then whatever they say they get the same one. -/
theorem resolve_enforces_policy
    (policy : RelayPolicy) (headers : Headers) (uri : Uri) :
    (∀ target,
      policy.resolve headers uri = .ok target ↔
        Http.isUpgrade headers = true ∧
        targetCount uri ≤ 1 ∧
        ((∃ value,
            Names uri value ∧
            ¬ Text.IsBlankText value ∧
            policy.allowClientTarget = true ∧
            Target.parse value = .ok target ∧
            (policy.allowedTargets = [] ∨
              ∃ entry ∈ policy.allowedTargets, target.matchesEntry entry = true)) ∨
          (∀ value, Names uri value → Text.IsBlankText value) ∧
            ∃ remote,
              policy.fixedRemote = some remote ∧
              Target.parse remote = .ok target)) ∧
    (∀ rejection,
      policy.resolve headers uri = .error rejection ↔
        FirstFailure policy headers uri rejection) ∧
    (policy.allowClientTarget = false →
      ∀ headers' uri' target target',
        policy.resolve headers uri = .ok target →
        policy.resolve headers' uri' = .ok target' →
        target = target') := by
  refine ⟨fun target => ?_, fun rejection => resolve_eq_error_iff, ?_⟩
  · rw [resolve_eq_ok_iff]
    constructor
    · rintro (⟨hupgrade, hasks, hallowed, hparse, hadmits⟩ |
        ⟨hupgrade, hnothing, hremote, hparse⟩)
      · exact
          ⟨hupgrade, hasks.1,
            Or.inl ⟨_, hasks.2.1, hasks.2.2, hallowed, hparse, hadmits⟩⟩
      · exact ⟨hupgrade, hnothing.1, Or.inr ⟨hnothing.2, _, hremote, hparse⟩⟩
    · rintro ⟨hupgrade, honce,
        ⟨value, hnames, hblank, hallowed, hparse, hadmits⟩ |
          ⟨hblank, remote, hremote, hparse⟩⟩
      · exact .requested hupgrade ⟨honce, hnames, hblank⟩ hallowed hparse hadmits
      · exact .fixed hupgrade ⟨honce, hblank⟩ hremote hparse
  · intro hdisabled headers' uri' target target' hresolve hresolve'
    obtain ⟨remote, hremote, hparse⟩ := fixed_of_disabled hdisabled hresolve
    obtain ⟨remote', hremote', hparse'⟩ := fixed_of_disabled hdisabled hresolve'
    rw [hremote] at hremote'
    cases hremote'
    rw [hparse] at hparse'
    cases hparse'
    rfl

/-- Requests may name a target on the list, and there is none besides. -/
def listed : RelayPolicy :=
  { remote := none, allowClientTarget := true, allowedTargets := ["echo.internal"] }

/-- The name of the parameter and the target are escaped. -/
def escaped : Uri :=
  ⟨[], some (Utf8.encodeString "x=1&remote%5Faddr=+Echo.Internal%3A7")⟩

/-- The second name of the parameter is escaped, and its value is blank. -/
def doubled : Uri :=
  ⟨[], some (Utf8.encodeString "remote_addr=echo.internal:7&remote%5Faddr=")⟩

theorem pairs_escaped :
    Query.pairs (escaped.query.getD []) = [("x", "1"), ("remote_addr", " Echo.Internal:7")] := by
  have hparts :
      (Text.splitAll Query.ampersand (escaped.query.getD [])).filter (· ≠ []) =
        [Utf8.encodeString "x=1", Utf8.encodeString "remote%5Faddr=+Echo.Internal%3A7"] := by
    decide
  have hfirst : Query.decodePair (Utf8.encodeString "x=1") = ("x", "1") :=
    Query.decodePair_of_split rfl rfl rfl
  have hsecond :
      Query.decodePair (Utf8.encodeString "remote%5Faddr=+Echo.Internal%3A7") =
        ("remote_addr", " Echo.Internal:7") :=
    Query.decodePair_of_split rfl rfl rfl
  rw [Query.pairs, hparts, List.map_cons, List.map_singleton, hfirst, hsecond]

theorem pairs_doubled :
    Query.pairs (doubled.query.getD []) =
      [("remote_addr", "echo.internal:7"), ("remote_addr", "")] := by
  have hparts :
      (Text.splitAll Query.ampersand (doubled.query.getD [])).filter (· ≠ []) =
        [Utf8.encodeString "remote_addr=echo.internal:7", Utf8.encodeString "remote%5Faddr="] := by
    decide
  have hfirst :
      Query.decodePair (Utf8.encodeString "remote_addr=echo.internal:7") =
        ("remote_addr", "echo.internal:7") :=
    Query.decodePair_of_split rfl rfl rfl
  have hsecond :
      Query.decodePair (Utf8.encodeString "remote%5Faddr=") = ("remote_addr", "") :=
    Query.decodePair_of_split rfl rfl rfl
  rw [Query.pairs, hparts, List.map_cons, List.map_singleton, hfirst, hsecond]

theorem resolve_enforces_policy_listed :
    listed.resolve [⟨"upgrade", Utf8.encodeString "h2c, WebSocket"⟩] escaped =
        .ok ⟨"Echo.Internal", 7⟩ ∧
      targetCount escaped ≤ 1 ∧
      FirstFailure listed [⟨"upgrade", Utf8.encodeString "websocket"⟩] doubled
        (.badQuery duplicateText) := by
  have hupgrade :
      Http.isUpgrade [⟨"upgrade", Utf8.encodeString "h2c, WebSocket"⟩] = true ∧
        Http.isUpgrade [⟨"upgrade", Utf8.encodeString "websocket"⟩] = true := by
    decide
  have hescaped : requestedTarget escaped.query = .ok (some "Echo.Internal:7") := by
    rw [requestedTarget, Query.valuesOf, pairs_escaped]
    rfl
  have hdoubled : requestedTarget doubled.query = .error (.badQuery duplicateText) := by
    rw [requestedTarget, Query.valuesOf, pairs_doubled]
    rfl
  have hgranted :
      listed.resolve [⟨"upgrade", Utf8.encodeString "h2c, WebSocket"⟩] escaped =
        .ok ⟨"Echo.Internal", 7⟩ := by
    rw [resolve, hupgrade.1, hescaped]
    rfl
  have hrefused :
      listed.resolve [⟨"upgrade", Utf8.encodeString "websocket"⟩] doubled =
        .error (.badQuery duplicateText) := by
    rw [resolve, hupgrade.2, hdoubled]
    rfl
  obtain ⟨-, honce, -⟩ := ((resolve_enforces_policy listed _ escaped).1 _).mp hgranted
  exact ⟨hgranted, honce, ((resolve_enforces_policy listed _ doubled).2.1 _).mp hrefused⟩

end Results

end RelayPolicy
end FrameBridge
