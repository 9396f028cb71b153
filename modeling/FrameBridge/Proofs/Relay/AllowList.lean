import FrameBridge.Proofs.Relay.Resolution
import FrameBridge.Proofs.Target.Entries

/-!
# Lists of allowed targets

A list of accepted entries allows what its entries stand for, and each of them
stands for one thing.  So a list allows what its entries allow one by one.  It
does not matter in which order they come, how often they are repeated, or in
which letter case they and the targets are written.
-/

namespace FrameBridge
namespace RelayPolicy

/-- The policy with another list of allowed targets. -/
def allowing (policy : RelayPolicy) (entries : List String) : RelayPolicy :=
  { policy with allowedTargets := entries }

/-- The lists have the same entries up to letter case, in any order and any
number. -/
structure SameEntries (entries entries' : List String) : Prop where
  forth : ∀ entry ∈ entries, ∃ entry' ∈ entries', Text.SameLetters entry entry'
  back : ∀ entry' ∈ entries', ∃ entry ∈ entries, Text.SameLetters entry' entry

section Lists

variable {policy : RelayPolicy} {entries entries' : List String} {entry : String}
  {target target' : Target}

theorem SameEntries.symm
    (h : SameEntries entries entries') :
    SameEntries entries' entries :=
  ⟨h.back, h.forth⟩

theorem SameEntries.admits
    (h : SameEntries entries entries')
    (htarget : target.SameLetters target')
    (hadmits : (policy.allowing entries).Admits target) :
    (policy.allowing entries').Admits target' := by
  rcases hadmits with hnil | ⟨entry, hmem, hmatches⟩
  · have hnone : entries' = [] := by
      refine List.eq_nil_iff_forall_not_mem.mpr fun entry' hmem' => ?_
      obtain ⟨entry, hmem, -⟩ := h.back entry' hmem'
      rw [show entries = [] from hnil] at hmem
      exact List.not_mem_nil hmem
    exact Or.inl hnone
  · obtain ⟨entry', hmem', hsame⟩ := h.forth entry hmem
    exact Or.inr ⟨entry', hmem', Target.matchesEntry_of_sameLetters htarget hsame hmatches⟩

/-- A list with one entry admits what matches the entry. -/
theorem admits_single_iff :
    (policy.allowing [entry]).Admits target ↔ target.matchesEntry entry = true := by
  constructor
  · rintro (hnil | ⟨other, hmem, hmatches⟩)
    · cases hnil
    · rwa [← List.mem_singleton.mp hmem]
  · intro hmatches
    exact Or.inr ⟨entry, List.mem_singleton.mpr rfl, hmatches⟩

/-- A list admits what one of the meanings of its entries admits. -/
theorem admits_iff_exists_means
    (hne : policy.allowedTargets ≠ [])
    (haccepted : ∀ entry ∈ policy.allowedTargets, Target.checkEntry entry = .ok ()) :
    policy.Admits target ↔
      ∃ entry ∈ policy.allowedTargets,
        ∃ meaning, Target.Means entry meaning ∧ meaning.Admits target := by
  constructor
  · rintro (hnil | ⟨entry, hmem, hmatches⟩)
    · exact absurd hnil hne
    · obtain ⟨meaning, hmeans⟩ := Target.checkEntry_eq_ok_iff.mp (haccepted entry hmem)
      exact ⟨entry, hmem, meaning, hmeans, (Target.matchesEntry_iff_admits hmeans).mp hmatches⟩
  · rintro ⟨entry, hmem, meaning, hmeans, hadmits⟩
    exact Or.inr ⟨entry, hmem, (Target.matchesEntry_iff_admits hmeans).mpr hadmits⟩

end Lists

section Resolving

variable {policy : RelayPolicy} {headers headers' : Headers} {uri uri' : Uri}
  {value value' : String} {entries entries' : List String} {target : Target}

/-- A request that names a target gets this target, if it may, and no other. -/
theorem resolve_eq_ok_iff_of_asks
    (hupgrade : Http.isUpgrade headers = true)
    (hasks : Asks uri value) :
    policy.resolve headers uri = .ok target ↔
      policy.allowClientTarget = true ∧ Target.parse value = .ok target ∧ policy.Admits target := by
  constructor
  · intro hresolve
    cases resolve_eq_ok_iff.mp hresolve with
    | requested _ hasks' hallowed hparse hadmits =>
        -- the one value that was asked for was read
        have htrim := requestedTarget_of_asks hasks
        rw [requestedTarget_of_asks hasks'] at htrim
        injection htrim with htrim
        injection htrim with htrim
        rw [← Target.parse_trimString, htrim, Target.parse_trimString] at hparse
        exact ⟨hallowed, hparse, hadmits⟩
    | fixed _ hnothing _ _ =>
        exact absurd (hnothing.2 value hasks.2.1) hasks.2.2
  · rintro ⟨hallowed, hparse, hadmits⟩
    exact (Granted.requested hupgrade hasks hallowed hparse hadmits).resolve

theorem Granted.allowing
    (h : Granted policy headers uri target)
    (hadmits : policy.Admits target → (policy.allowing entries).Admits target) :
    Granted (policy.allowing entries) headers uri target := by
  cases h with
  | requested hupgrade hasks hallowed hparse hadmitted =>
      exact .requested hupgrade hasks hallowed hparse (hadmits hadmitted)
  | fixed hupgrade hnothing hremote hparse =>
      exact .fixed hupgrade hnothing hremote hparse

/-- A list allows what its entries allow one by one. -/
theorem resolve_eq_ok_iff_exists_single
    (hne : policy.allowedTargets ≠ []) :
    policy.resolve headers uri = .ok target ↔
      ∃ entry ∈ policy.allowedTargets,
        (policy.allowing [entry]).resolve headers uri = .ok target := by
  constructor
  · intro hresolve
    have hgranted := resolve_eq_ok_iff.mp hresolve
    obtain ⟨entry, hmem, hsingle⟩ :
        ∃ entry ∈ policy.allowedTargets,
          policy.Admits target → (policy.allowing [entry]).Admits target := by
      by_cases hadmits : policy.Admits target
      · rcases hadmits with hnil | ⟨entry, hmem, hmatches⟩
        · exact absurd hnil hne
        · exact ⟨entry, hmem, fun _ => admits_single_iff.mpr hmatches⟩
      · obtain ⟨entry, hmem⟩ := List.exists_mem_of_ne_nil _ hne
        exact ⟨entry, hmem, fun hadmits' => absurd hadmits' hadmits⟩
    exact ⟨entry, hmem, (hgranted.allowing hsingle).resolve⟩
  · rintro ⟨entry, hmem, hresolve⟩
    have hgranted := resolve_eq_ok_iff.mp hresolve
    have hall : Granted (policy.allowing policy.allowedTargets) headers uri target :=
      hgranted.allowing fun hadmits => Or.inr ⟨entry, hmem, admits_single_iff.mp hadmits⟩
    exact hall.resolve

/-- Order, repetition and letter case of the entries do not matter. -/
theorem resolve_of_sameEntries
    (h : SameEntries entries entries') :
    (policy.allowing entries).resolve headers uri =
      (policy.allowing entries').resolve headers uri := by
  have hallows :
      (policy.allowing entries).allows = (policy.allowing entries').allows := by
    funext target
    rw [Bool.eq_iff_iff, allows_iff, allows_iff]
    have hself : target.SameLetters target := ⟨rfl, rfl⟩
    exact ⟨h.admits hself, h.symm.admits hself⟩
  have hrequested :
      (policy.allowing entries).resolveRequested =
        (policy.allowing entries').resolveRequested := by
    funext input
    rw [resolveRequested, resolveRequested, hallows]
    rfl
  have hfixed :
      (policy.allowing entries).resolveFixed = (policy.allowing entries').resolveFixed := rfl
  rw [resolve, resolve, hrequested, hfixed]

/-- A target that is named in other letters is resolved alike. -/
theorem resolve_of_sameLetters
    (hupgrade : Http.isUpgrade headers = true) (hupgrade' : Http.isUpgrade headers' = true)
    (hasks : Asks uri value) (hasks' : Asks uri' value')
    (hsame : Text.SameLetters value value')
    (hresolve : policy.resolve headers uri = .ok target) :
    ∃ target',
      policy.resolve headers' uri' = .ok target' ∧ target.SameLetters target' := by
  obtain ⟨hallowed, hparse, hadmits⟩ := (resolve_eq_ok_iff_of_asks hupgrade hasks).mp hresolve
  obtain ⟨target', hparse', htarget⟩ := Target.parse_of_sameLetters hsame hparse
  have hentries : SameEntries policy.allowedTargets policy.allowedTargets :=
    ⟨fun entry hmem => ⟨entry, hmem, rfl⟩, fun entry hmem => ⟨entry, hmem, rfl⟩⟩
  have hadmits' : (policy.allowing policy.allowedTargets).Admits target' :=
    hentries.admits htarget hadmits
  exact
    ⟨target', (resolve_eq_ok_iff_of_asks hupgrade' hasks').mpr ⟨hallowed, hparse', hadmits'⟩,
      htarget⟩

end Resolving

section Results

/--
An accepted entry stands for one thing, and the targets that match it are those
that it stands for.  A list of accepted entries that is not empty allows the
targets that its entries stand for:

* what a request gets under the list it gets under one of the entries alone;
* a request that names a target gets it if some entry stands for it;
* lists with the same entries, in whatever order, number and letter case, give
  every request the same;
* requests that name targets with the same letters get targets with the same
  letters.
-/
theorem allowed_targets_follow_meanings :
    (∀ entry, Target.checkEntry entry = .ok () →
      ∃ meaning,
        Target.Means entry meaning ∧
        (∀ other, Target.Means entry other → other = meaning) ∧
        ∀ target : Target, target.matchesEntry entry = true ↔ meaning.Admits target) ∧
    (∀ (policy : RelayPolicy) (headers : Headers) (uri : Uri) (target : Target),
      policy.allowedTargets ≠ [] →
      (∀ entry ∈ policy.allowedTargets, Target.checkEntry entry = .ok ()) →
      (policy.resolve headers uri = .ok target ↔
        ∃ entry ∈ policy.allowedTargets,
          (policy.allowing [entry]).resolve headers uri = .ok target) ∧
      ∀ value,
        Http.isUpgrade headers = true →
        Asks uri value →
        policy.allowClientTarget = true →
        (policy.resolve headers uri = .ok target ↔
          Target.parse value = .ok target ∧
          ∃ entry ∈ policy.allowedTargets,
            ∃ meaning, Target.Means entry meaning ∧ meaning.Admits target)) ∧
    (∀ (policy : RelayPolicy) (entries entries' : List String) (headers : Headers) (uri : Uri),
      SameEntries entries entries' →
      (policy.allowing entries).resolve headers uri =
        (policy.allowing entries').resolve headers uri) ∧
    ∀ (policy : RelayPolicy) (headers headers' : Headers) (uri uri' : Uri)
        (value value' : String) (target : Target),
      Http.isUpgrade headers = true →
      Http.isUpgrade headers' = true →
      Asks uri value →
      Asks uri' value' →
      Text.SameLetters value value' →
      policy.resolve headers uri = .ok target →
      ∃ target',
        policy.resolve headers' uri' = .ok target' ∧ target.SameLetters target' := by
  refine ⟨?_, ?_, ?_, ?_⟩
  · intro entry haccepted
    obtain ⟨meaning, hmeans⟩ := Target.checkEntry_eq_ok_iff.mp haccepted
    exact
      ⟨meaning, hmeans, fun _ => hmeans.unique, fun _ => Target.matchesEntry_iff_admits hmeans⟩
  · intro policy headers uri target hne haccepted
    refine ⟨resolve_eq_ok_iff_exists_single hne, ?_⟩
    intro value hupgrade hasks hallowed
    rw [resolve_eq_ok_iff_of_asks hupgrade hasks, admits_iff_exists_means hne haccepted]
    constructor
    · rintro ⟨-, hparse, hadmits⟩
      exact ⟨hparse, hadmits⟩
    · rintro ⟨hparse, hadmits⟩
      exact ⟨hallowed, hparse, hadmits⟩
  · intro policy entries entries' headers uri hsame
    exact resolve_of_sameEntries hsame
  · intro policy headers headers' uri uri' value value' target hupgrade hupgrade' hasks hasks'
      hsame hresolve
    exact resolve_of_sameLetters hupgrade hupgrade' hasks hasks' hsame hresolve

theorem asks_escaped :
    Asks escaped " Echo.Internal:7" := by
  refine ⟨?_, ?_, ?_⟩
  · rw [targetCount, pairs_escaped]
    decide
  · rw [Names, pairs_escaped]
    decide
  · intro hblank
    exact absurd (hblank 'E' (by decide)) (by decide)

/-- The one entry of the list, twice and in capitals, behind an address. -/
theorem allowed_targets_follow_meanings_repeated :
    (listed.allowing ["::1", "ECHO.internal", "Echo.INTERNAL"]).resolve
        [⟨"upgrade", Utf8.encodeString "websocket"⟩] escaped =
      .ok ⟨"Echo.Internal", 7⟩ := by
  have hupgrade : Http.isUpgrade [⟨"upgrade", Utf8.encodeString "websocket"⟩] = true := by
    decide
  have hparse : Target.parse " Echo.Internal:7" = .ok ⟨"Echo.Internal", 7⟩ := by
    decide
  obtain ⟨hmeaning, hunion, -, -⟩ := allowed_targets_follow_meanings
  obtain ⟨meaning, hmeans, -, hmatches⟩ := hmeaning "Echo.INTERNAL" (by decide)
  have hadmits := (hmatches ⟨"Echo.Internal", 7⟩).mp (by decide)
  let policy := listed.allowing ["::1", "ECHO.internal", "Echo.INTERNAL"]
  have haccepted : ∀ entry ∈ policy.allowedTargets, Target.checkEntry entry = .ok () := by
    decide
  obtain ⟨-, hnamed⟩ :=
    hunion policy _ escaped ⟨"Echo.Internal", 7⟩ (by decide) haccepted
  exact
    (hnamed _ hupgrade asks_escaped rfl).mpr
      ⟨hparse, "Echo.INTERNAL", by decide, meaning, hmeans, hadmits⟩

end Results

end RelayPolicy
end FrameBridge
