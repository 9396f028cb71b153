import FrameBridge.Proofs.Tracker.Publication
import Mathlib.Data.List.Nodup
import Mathlib.Data.List.Perm.Subperm

/-!
# The limit of sessions among many handlers

The handlers that share a tracker take slots, make entries, remove entries and
give slots back, in any order of their steps.  A handler has a slot before it
makes its entry and still has it when the entry is removed, so that there are
never more entries than slots taken (`Shared.activeCount_le`).

An entry belongs to one handler.  As long as no number is drawn twice, it is
there until this handler removes it, and nobody gets its number afterwards
(`mem_entries_iff`).  What a handler does to the slots is to take one and to free
it, in turn (`inTurn_of_run`).
-/

namespace FrameBridge

/-- What a step does to the free slots: one is taken, or one is freed. -/
inductive SlotEvent where
  | taken
  | freed
  deriving DecidableEq

namespace SlotEvent

/-- What became of the free slots from one state of a tracker to the next. -/
def between? (before after : Tracker) : Option SlotEvent :=
  if after.free + 1 = before.free then
    some taken
  else if before.free + 1 = after.free then
    some freed
  else
    none

/-- Every slot that is taken is freed before the next one is taken, and only
then.  The flags tell whether a slot is held before the events and after them. -/
inductive InTurn : Bool → List SlotEvent → Bool → Prop
  | nil
      {held : Bool} :
      InTurn held [] held
  | taken
      {events : List SlotEvent} {held : Bool}
      (hrest : InTurn true events held) :
      InTurn false (taken :: events) held
  | freed
      {events : List SlotEvent} {held : Bool}
      (hrest : InTurn false events held) :
      InTurn true (freed :: events) held

variable {before after : Tracker}

theorem between?_of_taken
    (hfree : after.free + 1 = before.free) :
    between? before after = some taken :=
  if_pos hfree

theorem between?_of_freed
    (hfree : after.free = before.free + 1) :
    between? before after = some freed := by
  rw [between?, if_neg (by omega), if_pos hfree.symm]

theorem between?_of_kept
    (hfree : after.free = before.free) :
    between? before after = none := by
  rw [between?, if_neg (by omega), if_neg (by omega)]

end SlotEvent

namespace Handler

variable {h : Handler} {t : Tracker} {e : SessionEntry} {id : SessionId}

/-- The handler keeps its entry, unless it is the step that removes it. -/
theorem step_inserted?
    (hentry : h.inserted? = some e)
    (hkept : h.phase ≠ .holding e.id) :
    (h.step t).1.inserted? = some e := by
  have hid := entryId?_of_inserted? hentry
  obtain ⟨peer, target, phase⟩ := h
  cases phase with
  | entered | counted =>
      exact hentry
  | holding id =>
      cases hid
      exact absurd rfl hkept
  | idle | slotTaken | numbered | removed | recounted | leaving =>
      cases hid

/-- The number of a handler after a step is the one it had, or it was drawn with
this step. -/
theorem drawnId?_of_step
    (hdrawn : (h.step t).1.phase.drawnId? = some id) :
    h.phase.drawnId? = some id ∨
      id = t.nextId ∧ (h.step t).2.drawn = t.drawn + 1 := by
  obtain ⟨peer, target, phase⟩ := h
  cases phase with
  | idle =>
      rcases step_idle peer target t with hstep | ⟨-, hstep⟩ <;>
        rw [hstep] at hdrawn <;> cases hdrawn
  | slotTaken =>
      cases hdrawn
      exact Or.inr ⟨rfl, rfl⟩
  | numbered | entered | counted =>
      exact Or.inl hdrawn
  | holding | removed | recounted | leaving =>
      cases hdrawn

/-- The slots of the tracker change together with those of the handler. -/
theorem free_of_step :
    (h.step t).1.phase.hasSlot = h.phase.hasSlot ∧ (h.step t).2.free = t.free ∨
      h.phase.hasSlot = false ∧
        (h.step t).1.phase.hasSlot = true ∧ (h.step t).2.free + 1 = t.free ∨
      h.phase.hasSlot = true ∧
        (h.step t).1.phase.hasSlot = false ∧ (h.step t).2.free = t.free + 1 := by
  obtain ⟨peer, target, phase⟩ := h
  cases phase with
  | idle =>
      rcases step_idle peer target t with hstep | ⟨hfree, hstep⟩
      · rw [hstep]
        exact Or.inl ⟨rfl, rfl⟩
      · rw [hstep]
        exact Or.inr (Or.inl ⟨rfl, rfl, Nat.succ_pred hfree⟩)
  | leaving =>
      exact Or.inr (Or.inr ⟨rfl, rfl, rfl⟩)
  | slotTaken | numbered | entered | counted | holding | removed | recounted =>
      exact Or.inl ⟨rfl, rfl⟩

open SlotEvent in
/-- A step takes a slot only if the handler has none, and frees only one that it has. -/
theorem inTurn_step
    {events : List SlotEvent} {held : Bool}
    (hrest : InTurn (h.step t).1.phase.hasSlot events held) :
    InTurn h.phase.hasSlot ((between? t (h.step t).2).toList ++ events) held := by
  rcases free_of_step (h := h) (t := t) with
    ⟨hslot, hfree⟩ | ⟨hbefore, hafter, hfree⟩ | ⟨hbefore, hafter, hfree⟩
  · rw [hslot] at hrest
    rw [between?_of_kept hfree]
    exact hrest
  · rw [hafter] at hrest
    rw [between?_of_taken hfree, hbefore]
    exact .taken hrest
  · rw [hafter] at hrest
    rw [between?_of_freed hfree, hbefore]
    exact .freed hrest

end Handler

namespace Handlers

def entryOf? (s : Handlers) (index : Nat) : Option SessionEntry :=
  s.handlers[index]?.bind Handler.inserted?

/-- The handler with an index has a slot. -/
def hasSlotAt (s : Handlers) (index : Nat) : Bool :=
  s.handlers[index]?.any fun h => h.phase.hasSlot

/-- What the steps of one handler do to the slots, in order. -/
def slotEvents (index : Nat) : Handlers → List Nat → List SlotEvent
  | _, [] => []
  | s, i :: schedule =>
      match s.step? i with
      | none => []
      | some next =>
          (if i = index then (SlotEvent.between? s.tracker next.tracker).toList else []) ++
            slotEvents index next schedule

/-- One of the steps is the one by which a handler removes its entry. -/
inductive Removes (index : Nat) (id : SessionId) : Handlers → List Nat → Prop
  | now
      {s : Handlers} {h : Handler} {schedule : List Nat}
      (hget : s.handlers[index]? = some h)
      (hphase : h.phase = .holding id) :
      Removes index id s (index :: schedule)
  | later
      {s next : Handlers} {i : Nat} {schedule : List Nat}
      (hstep : s.step? i = some next)
      (hrest : Removes index id next schedule) :
      Removes index id s (i :: schedule)

/-- A number that was drawn and is nobody's any more. -/
structure Retired (id : SessionId) (t : Tracker) (handlers : List Handler) : Prop where
  drawn : id ∈ Tracker.firstIds t.drawn
  unheld : id ∉ drawnIds handlers

section Steps

variable {s s' : Handlers} {i index : Nat} {h : Handler} {e : SessionEntry}
  {schedule : List Nat} {id : SessionId}

theorem entryOf?_eq_some_iff :
    s.entryOf? index = some e ↔ ∃ h, s.handlers[index]? = some h ∧ h.inserted? = some e :=
  Option.bind_eq_some_iff

theorem getElem?_step
    (hget : s.handlers[index]? = some h)
    (hstep : s.step? index = some s') :
    s'.handlers[index]? = some (h.step s.tracker).1 := by
  rw [step?_of_get hget] at hstep
  cases hstep
  exact List.getElem?_set_self (List.getElem?_eq_some_iff.mp hget).1

theorem getElem?_step_of_ne
    (hne : i ≠ index)
    (hstep : s.step? i = some s') :
    s'.handlers[index]? = s.handlers[index]? := by
  obtain ⟨h, hget, rfl⟩ := exists_of_step? hstep
  exact List.getElem?_set_ne hne

/-- What the others do leaves the entry of a handler as it is. -/
theorem entryOf?_step
    (hentry : s.entryOf? index = some e)
    (hstep : s.step? i = some s') :
    (∃ h, i = index ∧ s.handlers[index]? = some h ∧ h.phase = .holding e.id) ∨
      s'.entryOf? index = some e := by
  obtain ⟨h, hget, hh⟩ := entryOf?_eq_some_iff.mp hentry
  by_cases hi : i = index
  · subst hi
    by_cases hphase : h.phase = .holding e.id
    · exact Or.inl ⟨h, rfl, hget, hphase⟩
    · exact Or.inr
        (entryOf?_eq_some_iff.mpr ⟨_, getElem?_step hget hstep, Handler.step_inserted? hh hphase⟩)
  · refine Or.inr (entryOf?_eq_some_iff.mpr ⟨h, ?_, hh⟩)
    rw [getElem?_step_of_ne hi hstep]
    exact hget

/-- A handler that goes on from holding a session has no entry any more. -/
theorem entryOf?_of_removed
    (hget : s.handlers[index]? = some h)
    (hphase : h.phase = .holding id)
    (hstep : s.step? index = some s') :
    s'.entryOf? index = none := by
  obtain ⟨peer, target, phase⟩ := h
  cases hphase
  rw [entryOf?, getElem?_step hget hstep]
  rfl

end Steps

section Numbers

variable {s s' : Handlers} {index : Nat} {id : SessionId} {h : Handler} {e : SessionEntry}
  {schedule : List Nat}

/-- A number that is retired stays so, until numbers wrap. -/
theorem Retired.step
    (hretired : Retired id s.tracker s.handlers)
    (hstep : s.step? index = some s')
    (hbound : s'.tracker.drawn ≤ 2 ^ 64) :
    Retired id s'.tracker s'.handlers := by
  have hle := drawn_le_of_step hstep
  refine ⟨(Tracker.firstIds_sublist hle).subset hretired.drawn, fun hmem => ?_⟩
  obtain ⟨h, hget, rfl⟩ := exists_of_step? hstep
  obtain ⟨k, hk, hid⟩ := List.mem_filterMap.mp hmem
  rcases List.mem_or_eq_of_mem_set hk with hk | rfl
  · exact hretired.unheld (List.mem_filterMap.mpr ⟨k, hk, hid⟩)
  · rcases Handler.drawnId?_of_step hid with hid | ⟨hnew, hdrawn⟩
    · exact hretired.unheld (List.mem_filterMap.mpr ⟨h, List.mem_of_getElem? hget, hid⟩)
    · have hfresh : s.tracker.nextId ∉ Tracker.firstIds s.tracker.drawn := by
        refine Tracker.idAt_notMem_firstIds ?_
        dsimp only at hbound
        omega
      rw [← hnew] at hfresh
      exact hfresh hretired.drawn

theorem Retired.run
    (hretired : Retired id s.tracker s.handlers)
    (hrun : s.run? schedule = some s')
    (hbound : s'.tracker.drawn ≤ 2 ^ 64) :
    Retired id s'.tracker s'.handlers := by
  induction schedule generalizing s with
  | nil =>
      cases hrun
      exact hretired
  | cons index schedule ih =>
      obtain ⟨next, hstep, hrest⟩ := Option.bind_eq_some_iff.mp hrun
      have hnext := Nat.le_trans (drawn_le_of_run hrest) hbound
      exact ih (hretired.step hstep hnext) hrest

/-- With its entry a handler gives up its number. -/
theorem retired_of_removed
    (hregistered : Registered s.tracker s.handlers)
    (hget : s.handlers[index]? = some h)
    (hphase : h.phase = .holding id)
    (hstep : s.step? index = some s') :
    Retired id s'.tracker s'.handlers := by
  obtain ⟨hfront, hset⟩ := handlers_perm hget
  rw [step?_of_get hget] at hstep
  cases hstep
  obtain ⟨peer, target, phase⟩ := h
  cases hphase
  have hfresh := (List.nodup_cons.mp (hregistered.perm hfront).distinct).1
  refine ⟨(hregistered.perm hfront).drawn List.mem_cons_self, fun hmem => hfresh ?_⟩
  exact ((hset _).filterMap _).mem_iff.mp hmem

/-- There is no entry with a number that is retired. -/
theorem Retired.notMem_entries
    (hretired : Retired e.id s.tracker s.handlers)
    (hregistered : Registered s.tracker s.handlers) :
    e ∉ s.tracker.entries := by
  intro hmem
  obtain ⟨h, hh, hentry⟩ := hregistered.mem_entries_iff.mp hmem
  exact hretired.unheld (id_mem_drawnIds hh hentry)

/-- The entry of a handler is there as long as the handler itself did not remove
it, whatever the others do. -/
theorem mem_entries_iff
    (hregistered : Registered s.tracker s.handlers)
    (hentry : s.entryOf? index = some e)
    (hrun : s.run? schedule = some s')
    (hbound : s'.tracker.drawn ≤ 2 ^ 64) :
    e ∈ s'.tracker.entries ↔ ¬ Removes index e.id s schedule := by
  induction schedule generalizing s with
  | nil =>
      cases hrun
      obtain ⟨h, hget, hh⟩ := entryOf?_eq_some_iff.mp hentry
      exact iff_of_true
        (hregistered.mem_entries_iff.mpr ⟨h, List.mem_of_getElem? hget, hh⟩) nofun
  | cons i schedule ih =>
      obtain ⟨next, hstep, hrest⟩ := Option.bind_eq_some_iff.mp hrun
      have hregistered' :=
        hregistered.step hstep (Nat.le_trans (drawn_le_of_run hrest) hbound)
      rcases entryOf?_step hentry hstep with ⟨h, rfl, hget, hphase⟩ | hkept
      · refine iff_of_false ?_ (not_not_intro (.now hget hphase))
        have hretired := retired_of_removed hregistered hget hphase hstep
        exact (hretired.run hrest hbound).notMem_entries (hregistered'.run hrest hbound)
      · rw [ih hregistered' hkept hrest, not_iff_not]
        constructor
        · exact .later hstep
        · intro hremoves
          cases hremoves with
          | now hget hphase =>
              rw [entryOf?_of_removed hget hphase hstep] at hkept
              cases hkept
          | later hstep' hlater =>
              rw [hstep] at hstep'
              cases hstep'
              exact hlater

end Numbers

section Slots

variable {s s' : Handlers} {i index : Nat} {h : Handler} {schedule : List Nat}

theorem hasSlotAt_of_get
    (hget : s.handlers[index]? = some h) :
    s.hasSlotAt index = h.phase.hasSlot := by
  rw [hasSlotAt, hget]
  rfl

open SlotEvent in
/-- A handler frees the slot that it has before it takes another one, and frees no
other. -/
theorem inTurn_of_run
    (index : Nat)
    (hrun : s.run? schedule = some s') :
    InTurn (s.hasSlotAt index) (slotEvents index s schedule) (s'.hasSlotAt index) := by
  induction schedule generalizing s with
  | nil =>
      cases hrun
      exact .nil
  | cons i schedule ih =>
      obtain ⟨next, hstep, hrest⟩ := Option.bind_eq_some_iff.mp hrun
      have hlater := ih hrest
      simp only [slotEvents, hstep]
      by_cases hi : i = index
      · subst hi
        obtain ⟨h, hget, hnext⟩ := exists_of_step? hstep
        rw [hasSlotAt_of_get (getElem?_step hget hstep)] at hlater
        rw [if_pos rfl, hasSlotAt_of_get hget, hnext]
        rw [hnext] at hlater
        exact Handler.inTurn_step hlater
      · rw [if_neg hi, List.nil_append]
        rw [hasSlotAt, getElem?_step_of_ne hi hstep] at hlater
        exact hlater

/-- A handler that has a slot can always make the steps after which it has freed
it, and needs nobody else for this. -/
theorem frees_of_hasSlot
    (hget : s.handlers[index]? = some h)
    (hslot : h.phase.hasSlot = true) :
    ∃ n s', s.run? (List.replicate n index) = some s' ∧
      s'.hasSlotAt index = false ∧
      s'.tracker.free = s.tracker.free + 1 := by
  have hlt := (List.getElem?_eq_some_iff.mp hget).1
  have hfreed :
      ∀ n,
        let last := (Function.uncurry Handler.step)^[n] (h, s.tracker)
        last.1.phase = .idle → last.2.free = s.tracker.free + 1 →
        ∃ n s', s.run? (List.replicate n index) = some s' ∧
          s'.hasSlotAt index = false ∧
          s'.tracker.free = s.tracker.free + 1 := by
    intro n last hidle hfree
    refine ⟨n, _, run?_replicate n hget, ?_, hfree⟩
    rw [hasSlotAt_of_get (List.getElem?_set_self hlt)]
    exact congrArg HandlerPhase.hasSlot hidle
  obtain ⟨peer, target, phase⟩ := h
  cases phase with
  | idle =>
      cases hslot
  | slotTaken =>
      exact hfreed 8 rfl rfl
  | numbered =>
      exact hfreed 7 rfl rfl
  | entered =>
      exact hfreed 6 rfl rfl
  | counted =>
      exact hfreed 5 rfl rfl
  | holding =>
      exact hfreed 4 rfl rfl
  | removed =>
      exact hfreed 3 rfl rfl
  | recounted =>
      exact hfreed 2 rfl rfl
  | leaving =>
      exact hfreed 1 rfl rfl

/-- Whoever has made an entry has a slot, and no number has two entries. -/
theorem Shared.activeCount_le
    (hshared : Shared s.tracker s.handlers) :
    s.tracker.activeCount ≤ s.slotCount := by
  have hdistinct : s.tracker.entries.Nodup :=
    List.Nodup.of_map SessionEntry.id s.tracker.distinct_entries
  have hlength := (hdistinct.subperm hshared.listed).length_le
  rw [inserted, List.length_filterMap_eq_countP] at hlength
  refine Nat.le_trans hlength (List.countP_mono_left fun h _ hentry => ?_)
  by_contra hslot
  rw [Handler.inserted?, HandlerPhase.eq_idle_of_slotless (Bool.eq_false_iff.mpr hslot)] at hentry
  cases hentry

/-- A handler without a session gets a slot with its next step exactly if one is
free. -/
theorem takes_iff_free
    (hget : s.handlers[index]? = some h)
    (hidle : h.phase = .idle) :
    ∃ next, s.step? index = some next ∧
      (next.hasSlotAt index = true ↔ 0 < s.tracker.free) := by
  have hlt := (List.getElem?_eq_some_iff.mp hget).1
  refine ⟨_, step?_of_get hget, ?_⟩
  rw [hasSlotAt_of_get (List.getElem?_set_self hlt)]
  by_cases hfree : s.tracker.free = 0
  · simp [Handler.step, hidle, Tracker.takeSlot, hfree, HandlerPhase.hasSlot]
  · simp [Handler.step, hidle, Tracker.takeSlot, hfree, HandlerPhase.hasSlot]
    exact Nat.pos_of_ne_zero hfree

end Slots

section Results

variable {limit : Nat} {layout : Layout} {requests : List (SocketAddress × Target)}
  {start s : Handlers}
  {schedule : List Nat}

/-- The limit is never touched. -/
theorem limit_of_run
    (hrun : start.run? schedule = some s) :
    s.tracker.limit = start.tracker.limit := by
  induction schedule generalizing start with
  | nil =>
      cases hrun
      rfl
  | cons index schedule ih =>
      obtain ⟨next, hstep, hrest⟩ := Option.bind_eq_some_iff.mp hrun
      exact (ih hrest).trans (step_frame hstep).1

theorem hasSlotAt_init
    (hstart : init? limit requests layout = some start)
    (index : Nat) :
    start.hasSlotAt index = false := by
  obtain ⟨-, rfl⟩ := init?_eq_some_iff.mp hstart
  cases hget : requests[index]? with
  | none =>
      simp [hasSlotAt, hget]
  | some request =>
      simp [hasSlotAt, hget, HandlerPhase.hasSlot]

theorem eq_idle_of_rest
    (hrest : s.isAtRest = true)
    (hnone : ∀ h ∈ s.handlers, ∀ id, h.phase ≠ .holding id) :
    ∀ h ∈ s.handlers, h.phase = .idle := by
  intro h hmem
  have hphase := isAtRest_iff.mp hrest h hmem
  cases hp : h.phase with
  | idle =>
      rfl
  | holding id =>
      exact absurd hp (hnone h hmem id)
  | slotTaken | numbered | entered | counted | removed | recounted | leaving =>
      rw [hp] at hphase
      cases hphase

/-- However the steps of any number of handlers are interleaved, there are never
more entries than slots taken, nor more slots taken than there are, and a handler
is turned away only if all are taken.  No two entries have the same number.  An
entry is that of a handler, and it is there exactly until this handler removes
it, as long as no number was drawn twice.  Each handler takes and frees slots in
turn, and can always go on until it has freed the one it has.  So all slots are
free when nobody has a session or is about to. -/
theorem limit_holds_concurrently
    (hstart : init? limit requests layout = some start)
    (hrun : start.run? schedule = some s) :
    (s.tracker.activeCount ≤ s.slotCount ∧ s.slotCount ≤ limit ∧
      s.tracker.free + s.slotCount = limit) ∧
    (∀ i h, s.handlers[i]? = some h → h.phase = .idle →
      ∃ next, s.step? i = some next ∧
        (next.hasSlotAt i = true ↔ s.slotCount < limit)) ∧
    ((s.tracker.entries.map SessionEntry.id).Nodup ∧
      (s.tracker.drawn ≤ 2 ^ 64 → (drawnIds s.handlers).Nodup)) ∧
    (∀ e ∈ s.tracker.entries, ∃ i, s.entryOf? i = some e) ∧
    (∀ i e, s.entryOf? i = some e →
      ∀ later s', s.run? later = some s' → s'.tracker.drawn ≤ 2 ^ 64 →
        (e ∈ s'.tracker.entries ↔ ¬ Removes i e.id s later)) ∧
    (∀ i, SlotEvent.InTurn false (slotEvents i start schedule) (s.hasSlotAt i)) ∧
    (∀ i, s.hasSlotAt i = true →
      ∃ n s', s.run? (List.replicate n i) = some s' ∧
        s'.hasSlotAt i = false ∧
        s'.tracker.free = s.tracker.free + 1) ∧
    (s.isAtRest = true → (∀ h ∈ s.handlers, ∀ id, h.phase ≠ .holding id) →
      s.tracker.free = limit ∧ s.tracker.entries = []) := by
  have hshared := (Shared.init hstart).run hrun
  have hregistered := fun hbound => (Registered.init hstart).run hrun hbound
  have hlimit : s.tracker.limit = limit := by
    rw [limit_of_run hrun, (init?_eq_some_iff.mp hstart).2]
    rfl
  have hslots : s.tracker.free + s.slotCount = limit :=
    hshared.slots.trans hlimit
  have hcount := hshared.activeCount_le
  refine
    ⟨⟨hcount, by omega, hslots⟩, ?_,
      ⟨s.tracker.distinct_entries, fun hbound => (hregistered hbound).distinct⟩, ?_, ?_, ?_, ?_,
      ?_⟩
  · intro i h hget hidle
    obtain ⟨next, hstep, htakes⟩ := takes_iff_free hget hidle
    refine ⟨next, hstep, htakes.trans ?_⟩
    omega
  · intro e hmem
    obtain ⟨h, hh, hentry⟩ := List.mem_filterMap.mp (hshared.listed hmem)
    obtain ⟨i, hget⟩ := List.mem_iff_getElem?.mp hh
    exact ⟨i, entryOf?_eq_some_iff.mpr ⟨h, hget, hentry⟩⟩
  · intro i e hentry later s' hlater hbound
    have hbefore := Nat.le_trans (drawn_le_of_run hlater) hbound
    exact mem_entries_iff (hregistered hbefore) hentry hlater hbound
  · intro i
    have hturn := inTurn_of_run i hrun
    rwa [hasSlotAt_init hstart] at hturn
  · intro i hslot
    cases hget : s.handlers[i]? with
    | none =>
        simp [hasSlotAt, hget] at hslot
    | some h =>
        rw [hasSlotAt_of_get hget] at hslot
        exact frees_of_hasSlot hget hslot
  · intro hrest hnone
    have hidle := eq_idle_of_rest hrest hnone
    have hzero : s.slotCount = 0 := by
      refine List.countP_eq_zero.mpr fun h hmem => ?_
      rw [hidle h hmem]
      exact Bool.false_ne_true
    refine ⟨by omega, List.length_eq_zero_iff.mp ?_⟩
    exact Nat.le_zero.mp (hzero ▸ hcount)

/-- The second handler tries once while the first one, whose entry is gone already,
still has the only slot, and once more afterwards. -/
def contended : List Nat :=
  List.replicate 8 0 ++ [1, 0, 1, 1, 1]

theorem limit_holds_concurrently_contended :
    ∃ start s e,
      init? 1 pair = some start ∧
      start.run? contended = some s ∧
      slotEvents 0 start contended = [.taken, .freed] ∧
      s.entryOf? 1 = some e ∧
      (s.tracker.activeCount ≤ s.slotCount ∧ s.slotCount ≤ 1) ∧
      (∀ later s', s.run? later = some s' → s'.tracker.drawn ≤ 2 ^ 64 →
        (e ∈ s'.tracker.entries ↔ ¬ Removes 1 e.id s later)) ∧
      ∃ n s', s.run? (List.replicate n 1) = some s' ∧ s'.tracker.free = 1 := by
  obtain ⟨start, hstart⟩ : ∃ start, init? 1 pair = some start :=
    ⟨_, rfl⟩
  obtain ⟨s, hrun⟩ : ∃ s, start.run? contended = some s := by
    cases hstart
    exact ⟨_, rfl⟩
  obtain ⟨e, hentry⟩ : ∃ e, s.entryOf? 1 = some e := by
    cases hstart
    cases hrun
    exact ⟨_, rfl⟩
  obtain ⟨⟨hcount, hslots, hfree⟩, -, -, -, hkept, -, hfrees, -⟩ :=
    limit_holds_concurrently hstart hrun
  obtain ⟨hevents, hslot, hnone⟩ :
      slotEvents 0 start contended = [.taken, .freed] ∧
        s.hasSlotAt 1 = true ∧ s.tracker.free = 0 := by
    cases hstart
    cases hrun
    exact ⟨rfl, rfl, rfl⟩
  obtain ⟨n, s', hlater, -, hfreed⟩ := hfrees 1 hslot
  rw [hnone] at hfreed
  exact
    ⟨start, s, e, hstart, hrun, hevents, hentry, ⟨hcount, hslots⟩, hkept 1 e hentry, n, s', hlater,
      hfreed⟩

end Results

end Handlers
end FrameBridge
