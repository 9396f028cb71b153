import FrameBridge.Proofs.Tracker.Handlers
import Mathlib.Data.List.Induction

/-!
# The published number of sessions

Handlers publish what they counted before, and between the two steps others can
enter or remove sessions.  So the published number is what the handler that
published last had counted (`LastPublished`), which need not be the number of
live sessions any more, even when all handlers are at rest.

As long as no two handlers can have a slot at once, the number is right at rest
(`Settled`).  Otherwise two operations that cross leave a wrong one: two
releases one that is too great (`drops_cross`), an admission that comes between
the steps of a release one that is too small (`admission_crosses`).
-/

namespace FrameBridge

namespace HandlerPhase

/-- The number that the handler publishes with its next step. -/
def toPublish? : HandlerPhase → Option Nat
  | counted _ count => some count
  | recounted count => some count
  | _ => none

/-- The published number, or what the handler is about to publish, is right as
far as this handler is concerned. -/
def Current (t : Tracker) : HandlerPhase → Prop
  | entered _ => True
  | removed => True
  | counted _ count => count = t.size
  | recounted count => count = t.size
  | idle => t.published = t.size
  | slotTaken => t.published = t.size
  | numbered _ => t.published = t.size
  | holding _ => t.published = t.size
  | leaving => t.published = t.size

end HandlerPhase

namespace Handler

variable {h : Handler} {t : Tracker} {count : Nat}

/-- A handler that is about to publish does nothing else. -/
theorem step_published
    (hpending : h.phase.toPublish? = some count) :
    (h.step t).2 = t.publish count ∧ (h.step t).1.phase.toPublish? = none := by
  obtain ⟨peer, target, phase⟩ := h
  cases phase with
  | counted | recounted =>
      cases hpending
      exact ⟨rfl, rfl⟩
  | idle | slotTaken | numbered | entered | holding | removed | leaving =>
      cases hpending

/-- A handler that is not about to publish leaves what was published. -/
theorem step_silent
    (hsilent : h.phase.toPublish? = none) :
    (h.step t).2.published = t.published ∧ (h.step t).2.metrics = t.metrics := by
  obtain ⟨peer, target, phase⟩ := h
  cases phase with
  | counted | recounted =>
      cases hsilent
  | idle =>
      rcases step_idle peer target t with hstep | ⟨-, hstep⟩ <;> rw [hstep] <;> exact ⟨rfl, rfl⟩
  | slotTaken | numbered | entered | holding | removed | leaving =>
      exact ⟨rfl, rfl⟩

/-- What a handler is about to publish after a step, it counted in this step. -/
theorem count_of_step
    (hpending : (h.step t).1.phase.toPublish? = some count) :
    t.size = count := by
  obtain ⟨peer, target, phase⟩ := h
  cases phase with
  | entered | removed =>
      cases hpending
      rfl
  | idle =>
      rcases step_idle peer target t with hstep | ⟨-, hstep⟩ <;> rw [hstep] at hpending <;>
        cases hpending
  | slotTaken | numbered | counted | holding | recounted | leaving =>
      cases hpending

theorem step_current
    (hcurrent : h.phase.Current t) :
    (h.step t).1.phase.Current (h.step t).2 := by
  obtain ⟨peer, target, phase⟩ := h
  cases phase with
  | idle =>
      rcases step_idle peer target t with hstep | ⟨-, hstep⟩ <;> rw [hstep] <;> exact hcurrent
  | entered | removed =>
      exact rfl
  | holding =>
      exact trivial
  | numbered =>
      exact trivial
  | slotTaken | counted | recounted | leaving =>
      exact hcurrent

end Handler

namespace Handlers

/-- The gauge of live sessions, if it was set. -/
def gauge? (s : Handlers) : Option Binary64 :=
  s.tracker.metrics.sessionsActive?

section Source

/-- Steps that publish nothing. -/
inductive Silent (start : Handlers) : List Nat → Handlers → Prop
  | nil :
      Silent start [] start
  | concat
      {schedule : List Nat} {s s' : Handlers} {index : Nat} {h : Handler}
      (before : Silent start schedule s)
      (hget : s.handlers[index]? = some h)
      (hsilent : h.phase.toPublish? = none)
      (hstep : s.step? index = some s') :
      Silent start (schedule ++ [index]) s'

/-- A handler counted the sessions on the way, and made no step since. -/
inductive Counted (start : Handlers) (schedule : List Nat) (index count : Nat) : Prop
  | intro
      {before after : List Nat} {s : Handlers}
      (hsplit : schedule = before ++ index :: after)
      (hrest : index ∉ after)
      (hrun : start.run? before = some s)
      (hcount : s.tracker.activeCount = count) :
      Counted start schedule index count

/-- Where the published number comes from. -/
inductive LastPublished (start : Handlers) (schedule : List Nat) (s : Handlers) : Prop
  | never
      (hsilent : Silent start schedule s)
      (hpublished : s.tracker.published = 0)
      (hgauge : s.gauge? = none)
  | last
      {before after : List Nat} {index : Nat} {u v : Handlers}
      (hsplit : schedule = before ++ index :: after)
      (hrun : start.run? before = some u)
      (hcounted : Counted start before index s.tracker.published)
      (hstep : u.step? index = some v)
      (hsilent : Silent v after s)
      (hgauge : s.gauge? = some (Binary64.ofNat s.tracker.published))

variable {start s s' : Handlers} {schedule : List Nat} {index other count : Nat} {h : Handler}

theorem run?_concat :
    start.run? (schedule ++ [index]) = some s' ↔
      ∃ s, start.run? schedule = some s ∧ s.step? index = some s' := by
  rw [run?_append, Option.bind_eq_some_iff]
  simp [run?]

/-- Steps of others do not change what was counted. -/
theorem Counted.concat
    (hcounted : Counted start schedule index count)
    (hne : index ≠ other) :
    Counted start (schedule ++ [other]) index count := by
  obtain ⟨hsplit, hrest, hrun, hcount⟩ := hcounted
  refine ⟨by rw [hsplit, List.append_assoc, List.cons_append], ?_, hrun, hcount⟩
  rw [List.mem_append, List.mem_singleton]
  rintro (hmem | heq)
  · exact hrest hmem
  · exact hne heq

/-- At the start nobody is about to publish. -/
def Unpublished (start : Handlers) : Prop :=
  ∀ h ∈ start.handlers, h.phase.toPublish? = none

/-- A handler that is about to publish has counted on the way. -/
theorem counted_of_run
    (hstart : start.Unpublished)
    (hrun : start.run? schedule = some s)
    (hget : s.handlers[index]? = some h)
    (hpending : h.phase.toPublish? = some count) :
    Counted start schedule index count := by
  induction schedule using List.reverseRecOn generalizing s h with
  | nil =>
      cases hrun
      rw [hstart h (List.mem_of_getElem? hget)] at hpending
      cases hpending
  | append_singleton schedule last ih =>
      obtain ⟨u, hbefore, hstep⟩ := run?_concat.mp hrun
      obtain ⟨k, hk, rfl⟩ := exists_of_step? hstep
      by_cases heq : last = index
      · subst heq
        obtain ⟨hlt, -⟩ := List.getElem?_eq_some_iff.mp hk
        rw [List.getElem?_set_self hlt] at hget
        cases hget
        exact ⟨rfl, List.not_mem_nil, hbefore, Handler.count_of_step hpending⟩
      · rw [List.getElem?_set_ne heq] at hget
        exact (ih hbefore hget hpending).concat (Ne.symm heq)

/-- What is published was counted by whoever published last. -/
theorem lastPublished_of_run
    (hstart : start.Unpublished)
    (hpublished : start.tracker.published = 0)
    (hgauge : start.gauge? = none)
    (hrun : start.run? schedule = some s) :
    LastPublished start schedule s := by
  induction schedule using List.reverseRecOn generalizing s with
  | nil =>
      cases hrun
      exact .never .nil hpublished hgauge
  | append_singleton schedule index ih =>
      obtain ⟨u, hbefore, hstep⟩ := run?_concat.mp hrun
      obtain ⟨h, hget, rfl⟩ := exists_of_step? hstep
      cases hpending : h.phase.toPublish? with
      | some count =>
          obtain ⟨htracker, -⟩ := Handler.step_published (t := u.tracker) hpending
          refine .last rfl hbefore ?_ hstep .nil ?_
          · rw [htracker]
            exact counted_of_run hstart hbefore hget hpending
          · simp only [gauge?, htracker]
            rfl
      | none =>
          obtain ⟨hkept, hmetrics⟩ := Handler.step_silent (t := u.tracker) hpending
          have hkeptGauge :
              gauge? ⟨(h.step u.tracker).2, u.handlers.set index (h.step u.tracker).1⟩ =
                u.gauge? := by
            simp only [gauge?, hmetrics]
          cases ih hbefore with
          | never hsilent hzero hnone =>
              exact
                .never (hsilent.concat hget hpending hstep) (hkept.trans hzero)
                  (hkeptGauge.trans hnone)
          | last hsplit hrun' hcounted hstep' hsilent hset =>
              refine .last ?_ hrun' ?_ hstep' (hsilent.concat hget hpending hstep) ?_
              · rw [hsplit, List.append_assoc, List.cons_append]
              · rw [hkept]
                exact hcounted
              · rw [hkeptGauge, hkept]
                exact hset

end Source

section Rest

variable {s : Handlers} {index : Nat} {h : Handler} {p : HandlerPhase}

theorem isAtRest_iff :
    s.isAtRest = true ↔ ∀ h ∈ s.handlers, h.phase.isAtRest = true := by
  simp [isAtRest]

theorem isAtRest_set
    {t : Tracker}
    (hrest : s.isAtRest = true)
    (hphase : h.phase.isAtRest = true) :
    isAtRest ⟨t, s.handlers.set index h⟩ = true := by
  rw [isAtRest_iff] at hrest ⊢
  intro k hmem
  rcases List.mem_or_eq_of_mem_set hmem with hmem | rfl
  · exact hrest k hmem
  · exact hphase

/-- At rest, whoever has a slot has a session, and all sessions are entered. -/
theorem activeCount_of_rest
    (hregistered : Registered s.tracker s.handlers)
    (hrest : s.isAtRest = true) :
    s.tracker.activeCount = s.slotCount := by
  have hlength := hregistered.entries.length_eq
  rw [inserted, List.length_filterMap_eq_countP] at hlength
  refine hlength.trans (List.countP_congr fun h hmem => ?_)
  have hphase := isAtRest_iff.mp hrest h hmem
  cases hp : h.phase with
  | idle | holding =>
      simp [Handler.inserted?, hp, HandlerPhase.entryId?, HandlerPhase.hasSlot]
  | slotTaken | numbered | entered | counted | removed | recounted | leaving =>
      rw [hp] at hphase
      cases hphase

end Rest

section OneAtATime

/-- What is published is right, as far as the handler that has a slot knows. -/
structure Settled (t : Tracker) (handlers : List Handler) : Prop where
  current : ∀ h ∈ handlers, h.phase.hasSlot = true → h.phase.Current t
  empty : slotsTaken handlers = 0 → t.published = t.size

variable {t : Tracker} {h : Handler} {handlers handlers' others : List Handler}

theorem Settled.perm
    (hsettled : Settled t handlers)
    (hperm : handlers.Perm handlers') :
    Settled t handlers' where
  current h hmem := hsettled.current h (hperm.mem_iff.mpr hmem)
  empty hnone := hsettled.empty (by rw [slotsTaken_perm hperm, hnone])

/-- If the others have no slot before and after a step, what the handler knows
is all there is to know. -/
theorem Settled.head
    (hsettled : Settled t (h :: others))
    (hbefore : slotsTaken (h :: others) ≤ 1)
    (hafter : slotsTaken ((h.step t).1 :: others) ≤ 1) :
    Settled (h.step t).2 ((h.step t).1 :: others) := by
  by_cases hslot : h.phase.hasSlot = true ∨ (h.step t).1.phase.hasSlot = true
  · have hnone : slotsTaken others = 0 := by
      rcases hslot with hslot | hslot
      · rw [slotsTaken_cons_of_pos hslot] at hbefore
        omega
      · rw [slotsTaken_cons_of_pos hslot] at hafter
        omega
    have hcurrent : h.phase.Current t := by
      by_cases hhas : h.phase.hasSlot = true
      · exact hsettled.current h List.mem_cons_self hhas
      · rw [HandlerPhase.eq_idle_of_slotless (Bool.eq_false_iff.mpr hhas)]
        refine hsettled.empty ?_
        rw [slotsTaken_cons_of_neg hhas, hnone]
    have hnext := Handler.step_current hcurrent
    refine ⟨?_, ?_⟩
    · intro k hmem hk
      rcases List.mem_cons.mp hmem with rfl | hmem
      · exact hnext
      · exact absurd hk (List.countP_eq_zero.mp hnone k hmem)
    · intro hzero
      have hidle := List.countP_eq_zero.mp hzero _ List.mem_cons_self
      rw [HandlerPhase.eq_idle_of_slotless (Bool.eq_false_iff.mpr hidle)] at hnext
      exact hnext
  · -- a handler without a slot that gets none makes no change
    rw [not_or] at hslot
    obtain ⟨peer, target, phase⟩ := h
    cases HandlerPhase.eq_idle_of_slotless (Bool.eq_false_iff.mpr hslot.1)
    rcases Handler.step_idle peer target t with hstep | ⟨-, hstep⟩
    · rw [hstep]
      exact hsettled
    · rw [hstep] at hslot
      exact absurd rfl hslot.2

variable {s s' start : Handlers} {limit : Nat} {schedule : List Nat}

theorem step_frame
    {index : Nat}
    (hstep : s.step? index = some s') :
    s'.tracker.limit = s.tracker.limit ∧ s'.handlers.length = s.handlers.length := by
  obtain ⟨h, -, rfl⟩ := exists_of_step? hstep
  refine ⟨?_, List.length_set⟩
  obtain ⟨peer, target, phase⟩ := h
  cases phase with
  | idle =>
      rcases Handler.step_idle peer target s.tracker with hstep' | ⟨-, hstep'⟩ <;>
        rw [hstep']
  | slotTaken | numbered | entered | counted | holding | removed | recounted | leaving =>
      rfl

/-- There are no more slots taken than there are slots, or handlers. -/
theorem Shared.slotCount_le
    (hshared : Shared s.tracker s.handlers)
    (hnarrow : s.tracker.limit ≤ 1 ∨ s.handlers.length ≤ 1) :
    s.slotCount ≤ 1 := by
  have hslots : s.tracker.free + s.slotCount = s.tracker.limit := hshared.slots
  have hhandlers : s.slotCount ≤ s.handlers.length := List.countP_le_length
  omega

/-- With one slot or one handler, nobody can come between counting and publishing. -/
theorem Settled.run
    (hshared : Shared s.tracker s.handlers)
    (hnarrow : s.tracker.limit ≤ 1 ∨ s.handlers.length ≤ 1)
    (hsettled : Settled s.tracker s.handlers)
    (hrun : s.run? schedule = some s') :
    Settled s'.tracker s'.handlers := by
  induction schedule generalizing s with
  | nil =>
      cases hrun
      exact hsettled
  | cons index schedule ih =>
      obtain ⟨next, hstep, hrest⟩ := Option.bind_eq_some_iff.mp hrun
      have hshared' := hshared.step hstep
      obtain ⟨hlimit, hlength⟩ := step_frame hstep
      have hnarrow' : next.tracker.limit ≤ 1 ∨ next.handlers.length ≤ 1 := by
        rw [hlimit, hlength]
        exact hnarrow
      refine ih hshared' hnarrow' ?_ hrest
      have hbefore := hshared.slotCount_le hnarrow
      have hafter := hshared'.slotCount_le hnarrow'
      obtain ⟨h, hget, rfl⟩ := exists_of_step? hstep
      obtain ⟨hfront, hset⟩ := handlers_perm hget
      refine ((hsettled.perm hfront).head ?_ ?_).perm (hset _).symm
      · rw [← slotsTaken_perm hfront]
        exact hbefore
      · rw [← slotsTaken_perm (hset _)]
        exact hafter

/-- What is settled is right at rest. -/
theorem published_of_settled
    (hsettled : Settled s.tracker s.handlers)
    (hrest : s.isAtRest = true) :
    s.tracker.published = s.tracker.activeCount := by
  by_cases hnone : s.slotCount = 0
  · exact hsettled.empty hnone
  · obtain ⟨h, hmem, hslot⟩ := List.countP_pos_iff.mp (Nat.pos_of_ne_zero hnone)
    have hphase := isAtRest_iff.mp hrest h hmem
    have hcurrent := hsettled.current h hmem hslot
    cases hp : h.phase with
    | holding id =>
        rw [hp] at hcurrent
        exact hcurrent
    | idle =>
        rw [hp] at hslot
        cases hslot
    | slotTaken | numbered | entered | counted | removed | recounted | leaving =>
        rw [hp] at hphase
        cases hphase

end OneAtATime

section Crossing

variable {s : Handlers} {i j : Nat} {a b : SessionId} {h k : Handler}

theorem Registered.size_remove
    (hregistered : Registered s.tracker s.handlers)
    (hi : s.handlers[i]? = some h) (hh : h.phase = .holding a) :
    (s.tracker.remove a).size + 1 = s.tracker.size := by
  have hentry : h.inserted? = some { id := a, peer := h.peer, target := h.target } := by
    rw [Handler.inserted?, hh]
    rfl
  have hlive := hregistered.mem_entries_iff.mpr ⟨h, List.mem_of_getElem? hi, hentry⟩
  exact Tracker.size_remove (List.mem_map_of_mem (f := SessionEntry.id) hlive)

/-- A handler removed its entry and counted the rest, and did not publish yet. -/
def halfReleased (s : Handlers) (i : Nat) (h : Handler) (a : SessionId) : Handlers where
  tracker := s.tracker.remove a
  handlers := s.handlers.set i { h with phase := .recounted (s.tracker.remove a).size }

/-- A handler that is in the middle of its release does not notice what another
one does. -/
theorem run?_crossed
    {middle : List Nat} {t : Tracker} {x : Handler}
    (hi : s.handlers[i]? = some h) (hh : h.phase = .holding a)
    (hne : i ≠ j)
    (hmiddle :
      (s.halfReleased i h a).run? middle =
        some ⟨t, (s.halfReleased i h a).handlers.set j x⟩) :
    s.run? (List.replicate 2 i ++ (middle ++ List.replicate 2 i)) =
      some
        ⟨(t.publish (s.tracker.remove a).size).freeSlot,
          (s.handlers.set j x).set i { h with phase := .idle }⟩ := by
  have hlt := (List.getElem?_eq_some_iff.mp hi).1
  have hget :
      ((s.halfReleased i h a).handlers.set j x)[i]? =
        some { h with phase := .recounted (s.tracker.remove a).size } := by
    rw [List.getElem?_set_ne (Ne.symm hne)]
    exact List.getElem?_set_self hlt
  have hfirst : s.run? (List.replicate 2 i) = some (s.halfReleased i h a) :=
    run?_recount hi hh
  have hlast := run?_leave (s := ⟨t, (s.halfReleased i h a).handlers.set j x⟩) hget rfl
  rw [run?_append, hfirst, Option.bind_some, run?_append, hmiddle, Option.bind_some, hlast]
  dsimp only [halfReleased]
  rw [List.set_comm _ x hne, List.set_set]

/-- Between the count and the publication of one release there is another one. -/
theorem drops_cross
    (hregistered : Registered s.tracker s.handlers)
    (hbound : s.tracker.drawn ≤ 2 ^ 64)
    (hrest : s.isAtRest = true)
    (hi : s.handlers[i]? = some h) (hh : h.phase = .holding a)
    (hj : s.handlers[j]? = some k) (hk : k.phase = .holding b)
    (hne : i ≠ j) :
    ∃ schedule s',
      s.run? schedule = some s' ∧
      s'.isAtRest = true ∧
      s'.tracker.activeCount + 2 = s.tracker.activeCount ∧
      s'.tracker.published = s'.tracker.activeCount + 1 := by
  have hregistered' := hregistered.run (run?_recount hi hh) hbound
  have hj' : (s.halfReleased i h a).handlers[j]? = some k := by
    rw [halfReleased, List.getElem?_set_ne hne]
    exact hj
  have hleft : (s.tracker.remove a).size + 1 = s.tracker.size :=
    hregistered.size_remove hi hh
  have hright : ((s.tracker.remove a).remove b).size + 1 = (s.tracker.remove a).size :=
    hregistered'.size_remove hj' hk
  refine ⟨_, _, run?_crossed hi hh hne (run?_release hj' hk), ?_, ?_, hright.symm⟩
  · exact isAtRest_set (isAtRest_set (t := s.tracker) hrest rfl) rfl
  · show ((s.tracker.remove a).remove b).size + 2 = s.tracker.size
    omega

/-- Between the count and the publication of a release there is an admission. -/
theorem admission_crosses
    (hregistered : Registered s.tracker s.handlers)
    (hbound : s.tracker.drawn < 2 ^ 64)
    (hrest : s.isAtRest = true)
    (hfree : 0 < s.tracker.free)
    (hi : s.handlers[i]? = some h) (hh : h.phase = .holding a)
    (hj : s.handlers[j]? = some k) (hk : k.phase = .idle) :
    ∃ schedule s',
      s.run? schedule = some s' ∧
      s'.isAtRest = true ∧
      s'.tracker.activeCount = s.tracker.activeCount ∧
      s'.tracker.published + 1 = s'.tracker.activeCount := by
  have hne : i ≠ j := by
    rintro rfl
    rw [hi] at hj
    cases hj
    rw [hh] at hk
    cases hk
  have hj' : (s.halfReleased i h a).handlers[j]? = some k := by
    rw [halfReleased, List.getElem?_set_ne hne]
    exact hj
  have hregistered' := hregistered.run (run?_recount hi hh) (Nat.le_of_lt hbound)
  obtain ⟨t, haccept, haccepted⟩ :
      ∃ t, (s.tracker.remove a).accept k.peer k.target =
          (some (s.tracker.remove a).nextId, t) ∧ _ :=
    Tracker.accept_of_free_pos hfree
  have hleft : (s.tracker.remove a).size + 1 = s.tracker.size :=
    hregistered.size_remove hi hh
  have hright : t.size = (s.tracker.remove a).size + 1 :=
    (haccepted.entries_perm (hregistered'.fresh hbound)).length_eq
  refine ⟨_, _, run?_crossed hi hh hne (run?_accept hj' hk haccept), ?_, ?_, hright.symm⟩
  · exact isAtRest_set (isAtRest_set (t := s.tracker) hrest rfl) rfl
  · exact hright.trans hleft

variable {start : Handlers} {limit : Nat} {layout : Layout}
  {requests : List (SocketAddress × Target)}

theorem isAtRest_init
    (hstart : init? limit requests layout = some start) :
    start.isAtRest = true := by
  obtain ⟨-, rfl⟩ := init?_eq_some_iff.mp hstart
  rw [isAtRest_iff]
  intro h hmem
  obtain ⟨request, -, rfl⟩ := List.mem_map.mp hmem
  rfl

/-- Some handler has a session, and another one has none. -/
theorem exists_admitted
    (hstart : init? limit requests layout = some start)
    (hlimit : 1 < limit)
    (hrequests : 1 < requests.length) :
    ∃ s h k a,
      start.run? (List.replicate 5 0) = some s ∧
      s.isAtRest = true ∧
      s.tracker.drawn = 1 ∧
      s.tracker.activeCount = 1 ∧
      0 < s.tracker.free ∧
      s.handlers[0]? = some h ∧ h.phase = .holding a ∧
      s.handlers[1]? = some k ∧ k.phase = .idle := by
  have hrest := isAtRest_init hstart
  obtain ⟨-, rfl⟩ := init?_eq_some_iff.mp hstart
  match requests, hrequests with
  | first :: second :: others, _ =>
      obtain ⟨t, haccept, haccepted⟩ :
          ∃ t, (Tracker.empty limit layout).accept first.1 first.2 =
              (some (Tracker.empty limit layout).nextId, t) ∧ _ :=
        Tracker.accept_of_free_pos (Nat.zero_lt_of_lt hlimit)
      have hfirst :
          ((first :: second :: others).map fun request =>
            ({ peer := request.1, target := request.2 } : Handler))[0]? =
              some { peer := first.1, target := first.2 } := rfl
      have hrun :=
        run?_accept
          (s := ⟨Tracker.empty limit layout,
            (first :: second :: others).map fun request =>
              { peer := request.1, target := request.2 }⟩) hfirst rfl haccept
      refine
        ⟨_, _, _, _, hrun, isAtRest_set hrest rfl, haccepted.drawn_eq, ?_, ?_, rfl, rfl, rfl, rfl⟩
      · have hfresh : (Tracker.empty limit layout).Fresh :=
          (Tracker.numbered_empty limit layout).fresh (Nat.two_pow_pos 64)
        exact (haccepted.entries_perm hfresh).length_eq
      · have hfree : t.free + 1 = limit := haccepted.free_succ
        show 0 < t.free
        omega

/-- Two handlers can leave a number that nobody waits for although there is a
session, and one that everybody waits for although there is none. -/
theorem stale_of_wide
    (hstart : init? limit requests layout = some start)
    (hlimit : 1 < limit)
    (hrequests : 1 < requests.length) :
    (∃ schedule s,
      start.run? schedule = some s ∧ s.isAtRest = true ∧
        s.tracker.activeCount = 0 ∧ s.tracker.isIdle = false) ∧
    ∃ schedule s,
      start.run? schedule = some s ∧ s.isAtRest = true ∧
        s.tracker.activeCount = 1 ∧ s.tracker.isIdle = true := by
  obtain ⟨s, h, k, a, hrun, hrest, hdrawn, hone, hfree, hi, hh, hj, hk⟩ :=
    exists_admitted hstart hlimit hrequests
  have hregistered := (Registered.init hstart).run hrun (by omega)
  constructor
  · obtain ⟨t, haccept, haccepted⟩ :
        ∃ t, s.tracker.accept k.peer k.target = (some s.tracker.nextId, t) ∧ _ :=
      Tracker.accept_of_free_pos hfree
    have hsecond := run?_accept hj hk haccept
    have htwice : t.drawn = 2 := by
      rw [haccepted.drawn_eq, hdrawn]
    have htwo : t.activeCount = s.tracker.activeCount + 1 :=
      (haccepted.entries_perm (hregistered.fresh (by omega))).length_eq
    have hi' :
        (s.handlers.set 1 { k with phase := .holding s.tracker.nextId })[0]? = some h := by
      rw [List.getElem?_set_ne Nat.one_ne_zero]
      exact hi
    have hj' :
        (s.handlers.set 1 { k with phase := .holding s.tracker.nextId })[1]? =
          some { k with phase := .holding s.tracker.nextId } :=
      List.getElem?_set_self (List.getElem?_eq_some_iff.mp hj).1
    obtain ⟨schedule, s', hrun', hrest', hcount, hpublished⟩ :=
      drops_cross (hregistered.run hsecond (by dsimp only; omega)) (by dsimp only; omega)
        (isAtRest_set hrest rfl) hi' hh hj' rfl Nat.zero_ne_one
    refine
      ⟨List.replicate 5 0 ++ (List.replicate 5 1 ++ schedule), s', ?_, hrest', ?_, ?_⟩
    · rw [run?_append, hrun, Option.bind_some, run?_append, hsecond, Option.bind_some]
      exact hrun'
    · dsimp only at hcount
      omega
    · rw [Tracker.isIdle, beq_eq_false_iff_ne, hpublished]
      exact Nat.succ_ne_zero _
  · obtain ⟨schedule, s', hrun', hrest', hcount, hpublished⟩ :=
      admission_crosses hregistered (by omega) hrest hfree hi hh hj hk
    refine ⟨List.replicate 5 0 ++ schedule, s', ?_, hrest', hcount.trans hone, ?_⟩
    · rw [run?_append, hrun, Option.bind_some]
      exact hrun'
    · rw [Tracker.isIdle, beq_iff_eq]
      omega

end Crossing

section Results

variable {limit : Nat} {layout : Layout} {requests : List (SocketAddress × Target)}
  {start : Handlers}

theorem settled_init
    (hstart : init? limit requests layout = some start) :
    Settled start.tracker start.handlers := by
  obtain ⟨-, rfl⟩ := init?_eq_some_iff.mp hstart
  refine ⟨?_, fun _ => rfl⟩
  intro h hmem hslot
  obtain ⟨request, -, rfl⟩ := List.mem_map.mp hmem
  cases hslot

theorem unpublished_init
    (hstart : init? limit requests layout = some start) :
    start.Unpublished := by
  obtain ⟨-, rfl⟩ := init?_eq_some_iff.mp hstart
  intro h hmem
  obtain ⟨request, -, rfl⟩ := List.mem_map.mp hmem
  rfl

/-- The published number is always what the handler that published last had
counted.  At rest this is the number of live sessions in every run exactly if
there is no room for two handlers.  If there is, then a run can end with nobody
live and somebody waited for, and another with somebody live and nobody waited
for. -/
theorem count_goes_stale
    (hstart : init? limit requests layout = some start) :
    (∀ schedule s, start.run? schedule = some s →
      LastPublished start schedule s ∧
        (s.tracker.drawn ≤ 2 ^ 64 → s.isAtRest = true →
          s.tracker.activeCount = s.slotCount)) ∧
    ((∀ schedule s, start.run? schedule = some s → s.isAtRest = true →
        s.tracker.published = s.tracker.activeCount) ↔
      limit ≤ 1 ∨ requests.length ≤ 1) ∧
    (1 < limit → 1 < requests.length →
      (∃ schedule s,
        start.run? schedule = some s ∧ s.isAtRest = true ∧
          s.tracker.activeCount = 0 ∧ s.tracker.isIdle = false) ∧
      ∃ schedule s,
        start.run? schedule = some s ∧ s.isAtRest = true ∧
          s.tracker.activeCount = 1 ∧ s.tracker.isIdle = true) := by
  have hinit := init?_eq_some_iff.mp hstart
  refine ⟨?_, ?_, stale_of_wide hstart⟩
  · intro schedule s hrun
    obtain ⟨hzero, hunset⟩ : start.tracker.published = 0 ∧ start.gauge? = none := by
      rw [hinit.2]
      exact ⟨rfl, rfl⟩
    exact
      ⟨lastPublished_of_run (unpublished_init hstart) hzero hunset hrun,
        fun hbound => activeCount_of_rest ((Registered.init hstart).run hrun hbound)⟩
  · constructor
    · intro hright
      by_contra hwide
      rw [not_or, Nat.not_le, Nat.not_le] at hwide
      obtain ⟨⟨schedule, s, hrun, hrest, hnone, hidle⟩, -⟩ :=
        stale_of_wide hstart hwide.1 hwide.2
      have hzero := (hright schedule s hrun hrest).trans hnone
      rw [Tracker.isIdle, hzero] at hidle
      cases hidle
    · intro hnarrow schedule s hrun hrest
      refine published_of_settled ?_ hrest
      refine (settled_init hstart).run (Shared.init hstart) ?_ hrun
      rw [hinit.2, List.length_map]
      exact hnarrow

/-- Two requests for the same target. -/
def pair : List (SocketAddress × Target) :=
  [(.v4 ⟨127, 0, 0, 1⟩ 40000, ⟨"echo.internal", 7⟩),
   (.v4 ⟨127, 0, 0, 1⟩ 40001, ⟨"echo.internal", 7⟩)]

theorem count_goes_stale_pair :
    ∃ start,
      init? 2 pair = some start ∧
      ∃ schedule s,
        start.run? schedule = some s ∧ s.isAtRest = true ∧
          s.tracker.activeCount = 0 ∧ s.tracker.isIdle = false := by
  obtain ⟨start, hstart⟩ : ∃ start, init? 2 pair = some start :=
    ⟨_, rfl⟩
  exact ⟨start, hstart, ((count_goes_stale hstart).2.2 (by decide) (by decide)).1⟩

/-- Both handlers accept their sessions.  Then the first one removes its entry
and counts the other, the second one makes its whole release, and the first one
publishes its count. -/
def crossing : List Nat :=
  [0, 0, 0, 0, 0, 1, 1, 1, 1, 1, 0, 0, 1, 1, 1, 1, 0, 0]

/-- It does not hold that the published number is right at rest. -/
theorem count_stale_at_rest :
    ¬ ∀ (limit : Nat) (requests : List (SocketAddress × Target)) (start : Handlers)
        (schedule : List Nat) (s : Handlers),
      init? limit requests = some start →
      start.run? schedule = some s →
      s.isAtRest = true →
      s.tracker.published = s.tracker.activeCount := by
  intro hright
  have hwrong := hright 2 pair _ crossing _ rfl rfl rfl
  exact absurd hwrong (by decide)

end Results

end Handlers
end FrameBridge
