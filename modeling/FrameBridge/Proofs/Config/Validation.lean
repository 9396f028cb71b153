import FrameBridge.Config.Validation

/-!
# Valid configurations

A configuration has no problem exactly if every setting is as it should be.
-/

namespace FrameBridge
namespace Config

variable {config : Config}

@[simp] theorem require_eq_nil_iff
    {condition : Bool} {problem : ConfigProblem} :
    require condition problem = [] ↔ condition = true := by
  cases condition <;> simp [require]

/-- A fixed remote has no problem exactly if it is blank or a target. -/
theorem remoteProblems_eq_nil_iff
    {policy : RelayPolicy} :
    remoteProblems policy = [] ↔
      ∀ remote, policy.fixedRemote = some remote → ∃ target, Target.parse remote = .ok target := by
  unfold remoteProblems
  cases policy.fixedRemote with
  | none =>
      simp
  | some remote =>
      cases hparse : Target.parse remote <;> simp [hparse]

theorem entryProblems_eq_nil_iff
    {entry : String} :
    entryProblems entry = [] ↔ Target.checkEntry entry = .ok () := by
  unfold entryProblems
  cases Target.checkEntry entry <;> simp

/-- Every setting is as it should be. -/
structure Sound (config : Config) : Prop where
  bindAddress : (SocketAddress.parse? config.listener.bindAddress).isSome = true
  maxSessions :
    0 < config.listener.maxSessions ∧
      config.listener.maxSessions ≤ Tracker.slotLimit
  relayPath : isRelayPath config.relay.path.toList = true
  remote :
    ∀ remote, config.relay.fixedRemote = some remote →
      ∃ target, Target.parse remote = .ok target
  allowedTargets :
    ∀ entry ∈ config.relay.allowedTargets, Target.checkEntry entry = .ok ()
  hasTarget :
    config.relay.fixedRemote.isSome = true ∨ config.relay.allowClientTarget = true
  bufferSize : config.relay.bufferSize ≠ 0
  connectSecs : config.timeouts.connectSecs ≠ 0
  requestSecs : config.timeouts.requestSecs ≠ 0
  adminKey :
    config.admin.enabled = true → config.admin.apiKey ≠ placeholderAdminKey

/-- The list of problems is empty exactly if every setting is as it should be. -/
theorem valid_iff_sound :
    config.Valid ↔ config.Sound := by
  simp only [Valid, problems, List.append_eq_nil_iff, List.flatMap_eq_nil_iff,
    require_eq_nil_iff, remoteProblems_eq_nil_iff, entryProblems_eq_nil_iff,
    Bool.and_eq_true, Bool.or_eq_true, decide_eq_true_eq, bne_iff_ne, Bool.not_eq_true',
    Bool.and_eq_false_imp, beq_eq_false_iff_ne]
  constructor
  · rintro ⟨⟨⟨⟨⟨⟨⟨⟨⟨hbind, hmax⟩, hpath⟩, hremote⟩, hentries⟩, htarget⟩, hbuffer⟩, hconnect⟩,
      hrequest⟩, hkey⟩
    exact ⟨hbind, hmax, hpath, hremote, hentries, htarget, hbuffer, hconnect, hrequest, hkey⟩
  · intro h
    exact
      ⟨⟨⟨⟨⟨⟨⟨⟨⟨h.bindAddress, h.maxSessions⟩, h.relayPath⟩, h.remote⟩, h.allowedTargets⟩,
        h.hasTarget⟩, h.bufferSize⟩, h.connectSecs⟩, h.requestSecs⟩, h.adminKey⟩

/-- The path of the relay is written without braces and stars, and is not below
the path of the admin. -/
theorem isRelayPath_iff
    {path : List Char} :
    isRelayPath path = true ↔
      path.head? = some '/' ∧
      path ≠ ['/'] ∧
      ¬ "/admin".toList <+: path ∧
      '\x7b' ∉ path ∧ '\x7d' ∉ path ∧ '*' ∉ path := by
  have hprefix : "/admin".toList.isPrefixOf path = false ↔ ¬ "/admin".toList <+: path := by
    rw [← List.isPrefixOf_iff_prefix, Bool.not_eq_true]
  have hsigns :
      (path.any fun c => c == '\x7b' || c == '\x7d' || c == '*') = false ↔
        '\x7b' ∉ path ∧ '\x7d' ∉ path ∧ '*' ∉ path := by
    rw [List.any_eq_false]
    constructor
    · intro hall
      refine ⟨fun hmem => ?_, fun hmem => ?_, fun hmem => ?_⟩ <;>
        exact absurd (hall _ hmem) (by decide)
    · rintro ⟨hopen, hclose, hstar⟩ c hc
      simp only [Bool.or_eq_true, beq_iff_eq]
      rintro ((rfl | rfl) | rfl)
      · exact hopen hc
      · exact hclose hc
      · exact hstar hc
  simp only [isRelayPath, Bool.and_eq_true, beq_iff_eq, bne_iff_ne, Bool.not_eq_true',
    hprefix, hsigns, and_assoc]

/-- What validation ensures about the signs of the path of the relay. -/
theorem relayPath_of_valid
    (hvalid : config.Valid) :
    config.relay.path.toList.head? = some '/' ∧
      config.relay.path.toList ≠ ['/'] ∧
      ¬ "/admin".toList <+: config.relay.path.toList ∧
      '\x7b' ∉ config.relay.path.toList ∧
      '\x7d' ∉ config.relay.path.toList ∧
      '*' ∉ config.relay.path.toList :=
  isRelayPath_iff.mp (valid_iff_sound.mp hvalid).relayPath

end Config
end FrameBridge
