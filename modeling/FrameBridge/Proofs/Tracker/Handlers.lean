import FrameBridge.Proofs.Tracker.Operations
import FrameBridge.Server.Handlers
import Mathlib.Data.List.Perm.Basic
import Mathlib.Logic.Function.Iterate

/-!
# Steps of many handlers

The steps of the handlers that share a tracker come in any order.  What each
step preserves is `Shared`: a slot is free or belongs to one handler, and there
is no entry but those that some handler made and did not remove.

As long as no number was drawn twice, each handler has its own number and all
the entries that the handlers made and did not remove are there (`Registered`).

A handler that makes all steps of an operation in a row does what the tracker
does at once (`run?_accept`, `run?_release`).
-/

namespace FrameBridge

namespace HandlerPhase

/-- The number that the handler drew, until it removes the entry with it. -/
def drawnId? : HandlerPhase → Option SessionId
  | numbered id => some id
  | entered id => some id
  | counted id _ => some id
  | holding id => some id
  | _ => none

theorem drawnId?_of_entryId?
    {p : HandlerPhase} {id : SessionId}
    (hentry : p.entryId? = some id) :
    p.drawnId? = some id := by
  cases p with
  | entered | counted | holding =>
      exact hentry
  | idle | slotTaken | numbered | removed | recounted | leaving =>
      cases hentry

theorem eq_idle_of_slotless
    {p : HandlerPhase}
    (hslot : p.hasSlot = false) :
    p = idle := by
  cases p with
  | idle =>
      rfl
  | slotTaken | numbered | entered | counted | holding | removed | recounted | leaving =>
      cases hslot

end HandlerPhase

namespace Handler

/-- The entry that the handler made and did not remove. -/
def inserted? (h : Handler) : Option SessionEntry :=
  h.phase.entryId?.map fun id => { id := id, peer := h.peer, target := h.target }

variable {h : Handler} {t : Tracker} {e : SessionEntry}

theorem entryId?_of_inserted?
    (hentry : h.inserted? = some e) :
    h.phase.entryId? = some e.id := by
  obtain ⟨id, hid, rfl⟩ := Option.map_eq_some_iff.mp hentry
  exact hid

/-- A handler without a session stays as it is if no slot is free. -/
theorem step_idle
    (peer : SocketAddress) (target : Target) (t : Tracker) :
    step ⟨peer, target, .idle⟩ t = (⟨peer, target, .idle⟩, t) ∨
      t.free ≠ 0 ∧
        step ⟨peer, target, .idle⟩ t =
          (⟨peer, target, .slotTaken⟩, { t with free := t.free - 1 }) := by
  by_cases hfree : t.free = 0
  · exact .inl (by simp [step, Tracker.takeSlot, hfree])
  · exact .inr ⟨hfree, by simp [step, Tracker.takeSlot, hfree]⟩

/-- A number that was drawn is not given back. -/
theorem step_drawn_le :
    t.drawn ≤ (h.step t).2.drawn := by
  obtain ⟨peer, target, phase⟩ := h
  cases phase with
  | idle =>
      rcases step_idle peer target t with hstep | ⟨-, hstep⟩ <;>
        exact Nat.le_of_eq (congrArg (fun next => next.2.drawn) hstep).symm
  | slotTaken =>
      exact Nat.le_succ _
  | numbered | entered | counted | holding | removed | recounted | leaving =>
      exact Nat.le_refl _

end Handler

namespace Handlers

/-- The entries that the handlers made and did not remove. -/
def inserted (handlers : List Handler) : List SessionEntry :=
  handlers.filterMap Handler.inserted?

/-- The numbers that the handlers drew. -/
def drawnIds (handlers : List Handler) : List SessionId :=
  handlers.filterMap fun h => h.phase.drawnId?

/-- The number of handlers that have a slot. -/
def slotsTaken (handlers : List Handler) : Nat :=
  handlers.countP fun h => h.phase.hasSlot

/-- The slots of a tracker are free or those of the handlers, and all entries
are theirs. -/
structure Shared (t : Tracker) (handlers : List Handler) : Prop where
  slots : t.free + slotsTaken handlers = t.limit
  listed : t.entries ⊆ inserted handlers

/-- Each handler has a number of its own, and the entries of a tracker are those
of the handlers, with all that they say. -/
structure Registered (t : Tracker) (handlers : List Handler) : Prop where
  entries : t.entries.Perm (inserted handlers)
  distinct : (drawnIds handlers).Nodup
  drawn : drawnIds handlers ⊆ Tracker.firstIds t.drawn

variable {t t' : Tracker} {h : Handler} {handlers handlers' others : List Handler}
  {peer : SocketAddress} {target : Target} {id : SessionId} {e : SessionEntry}

section Sharing

theorem slotsTaken_cons_of_pos
    (hslot : h.phase.hasSlot = true) :
    slotsTaken (h :: others) = slotsTaken others + 1 :=
  List.countP_cons_of_pos hslot

theorem slotsTaken_cons_of_neg
    (hslot : ¬ h.phase.hasSlot = true) :
    slotsTaken (h :: others) = slotsTaken others :=
  List.countP_cons_of_neg hslot

theorem slotsTaken_perm
    (hperm : handlers.Perm handlers') :
    slotsTaken handlers = slotsTaken handlers' :=
  hperm.countP_eq _

/-- In what order the handlers stand does not matter. -/
theorem Shared.perm
    (hshared : Shared t handlers)
    (hperm : handlers.Perm handlers') :
    Shared t handlers' where
  slots := by
    rw [← slotsTaken_perm hperm]
    exact hshared.slots
  listed _ hmem := (hperm.filterMap _).subset (hshared.listed hmem)

theorem Shared.takeSlot
    (hshared : Shared t (⟨peer, target, .idle⟩ :: others))
    (hfree : t.free ≠ 0) :
    Shared { t with free := t.free - 1 } (⟨peer, target, .slotTaken⟩ :: others) := by
  refine ⟨?_, hshared.listed⟩
  have hslots : t.free + slotsTaken others = t.limit := hshared.slots
  rw [slotsTaken_cons_of_pos rfl]
  dsimp only
  omega

theorem Shared.freeSlot
    (hshared : Shared t (⟨peer, target, .leaving⟩ :: others)) :
    Shared t.freeSlot (⟨peer, target, .idle⟩ :: others) := by
  refine ⟨?_, hshared.listed⟩
  have hslots := hshared.slots
  rw [slotsTaken_cons_of_pos rfl] at hslots
  have hgoal : t.free + 1 + slotsTaken others = t.limit := by
    omega
  exact hgoal

/-- A handler that makes an entry has a slot for it. -/
theorem Shared.insert
    (hshared : Shared t (⟨peer, target, .numbered id⟩ :: others)) :
    Shared (t.insert { id := id, peer := peer, target := target })
      (⟨peer, target, .entered id⟩ :: others) where
  slots := hshared.slots
  listed _ hmem := List.cons_subset_cons _ hshared.listed (t.insert_subset _ hmem)

theorem Shared.remove
    (hshared : Shared t (⟨peer, target, .holding id⟩ :: others)) :
    Shared (t.remove id) (⟨peer, target, .removed⟩ :: others) := by
  refine ⟨hshared.slots, fun e hmem => ?_⟩
  obtain ⟨hentry, hne⟩ := List.mem_filter.mp hmem
  rcases List.mem_cons.mp (hshared.listed hentry) with rfl | hother
  · exact absurd rfl (bne_iff_ne.mp hne)
  · exact hother

/-- One case for each phase in which the handler can be. -/
theorem Shared.head
    (hshared : Shared t (h :: others)) :
    Shared (h.step t).2 ((h.step t).1 :: others) := by
  obtain ⟨peer, target, phase⟩ := h
  cases phase with
  | idle =>
      rcases Handler.step_idle peer target t with hstep | ⟨hfree, hstep⟩
      · rw [hstep]
        exact hshared
      · rw [hstep]
        exact hshared.takeSlot hfree
  | numbered id =>
      exact hshared.insert
  | holding id =>
      exact hshared.remove
  | leaving =>
      exact hshared.freeSlot
  | slotTaken | entered | counted | removed | recounted =>
      exact ⟨hshared.slots, hshared.listed⟩

end Sharing

section Registering

theorem id_mem_drawnIds
    (hmem : h ∈ handlers)
    (hentry : h.inserted? = some e) :
    e.id ∈ drawnIds handlers :=
  List.mem_filterMap.mpr
    ⟨h, hmem, HandlerPhase.drawnId?_of_entryId? (Handler.entryId?_of_inserted? hentry)⟩

theorem ids_inserted_subset :
    SessionEntry.ids (inserted handlers) ⊆ drawnIds handlers := by
  intro id hmem
  obtain ⟨e, he, rfl⟩ := List.mem_map.mp hmem
  obtain ⟨h, hh, hentry⟩ := List.mem_filterMap.mp he
  exact id_mem_drawnIds hh hentry

/-- The entries are exactly those that handlers made and did not remove. -/
theorem Registered.mem_entries_iff
    (hregistered : Registered t handlers) :
    e ∈ t.entries ↔ ∃ h ∈ handlers, h.inserted? = some e := by
  rw [hregistered.entries.mem_iff, inserted, List.mem_filterMap]

/-- The number that is drawn next is no handler's, until numbers wrap. -/
theorem Registered.fresh
    (hregistered : Registered t handlers)
    (hbound : t.drawn < 2 ^ 64) :
    t.Fresh := by
  intro hmem
  have hdrawn := ids_inserted_subset ((hregistered.entries.map SessionEntry.id).subset hmem)
  exact Tracker.idAt_notMem_firstIds hbound (hregistered.drawn hdrawn)

theorem Registered.perm
    (hregistered : Registered t handlers)
    (hperm : handlers.Perm handlers') :
    Registered t handlers' where
  entries := hregistered.entries.trans (hperm.filterMap _)
  distinct := (hperm.filterMap _).nodup_iff.mp hregistered.distinct
  drawn _ hmem := hregistered.drawn ((hperm.filterMap _).mem_iff.mpr hmem)

theorem Registered.drawId
    (hregistered : Registered t (⟨peer, target, .slotTaken⟩ :: others))
    (hbound : t.drawn < 2 ^ 64) :
    Registered t.drawId.2 (⟨peer, target, .numbered t.nextId⟩ :: others) := by
  have hfirst : Tracker.firstIds t.drawId.2.drawn = Tracker.firstIds t.drawn ++ [t.nextId] :=
    Tracker.firstIds_succ t.drawn
  refine ⟨hregistered.entries, ?_, ?_⟩
  · refine List.nodup_cons.mpr ⟨fun hmem => ?_, hregistered.distinct⟩
    exact Tracker.idAt_notMem_firstIds hbound (hregistered.drawn hmem)
  · intro id hmem
    rw [hfirst, List.mem_append, List.mem_singleton]
    rcases List.mem_cons.mp hmem with hnew | hold
    · exact .inr hnew
    · exact .inl (hregistered.drawn hold)

/-- The entry of a handler comes with the number that it drew. -/
theorem Registered.insert
    (hregistered : Registered t (⟨peer, target, .numbered id⟩ :: others)) :
    Registered (t.insert { id := id, peer := peer, target := target })
      (⟨peer, target, .entered id⟩ :: others) := by
  refine ⟨?_, hregistered.distinct, hregistered.drawn⟩
  have hentries : t.entries.Perm (inserted others) := hregistered.entries
  have hfresh : id ∉ SessionEntry.ids t.entries := by
    intro hmem
    have hother := (hentries.map SessionEntry.id).subset hmem
    exact (List.nodup_cons.mp hregistered.distinct).1 (ids_inserted_subset hother)
  exact (Tracker.insert_perm_of_fresh hfresh).trans (hentries.cons _)

/-- A handler removes no entry but its own. -/
theorem Registered.remove
    (hregistered : Registered t (⟨peer, target, .holding id⟩ :: others)) :
    Registered (t.remove id) (⟨peer, target, .removed⟩ :: others) := by
  obtain ⟨hfresh, hdistinct⟩ := List.nodup_cons.mp hregistered.distinct
  refine ⟨?_, hdistinct, fun other hmem => hregistered.drawn (List.mem_cons_of_mem _ hmem)⟩
  have hentries :
      t.entries.Perm ({ id := id, peer := peer, target := target } :: inserted others) :=
    hregistered.entries
  have hfilter := hentries.filter fun entry => entry.id != id
  rw [List.filter_cons_of_neg (by simp),
    Tracker.filter_of_notMem (mt (fun hmem => ids_inserted_subset hmem) hfresh)] at hfilter
  exact hfilter

/-- Only the steps that draw a number, make the entry and remove it concern the
numbers and the entries. -/
theorem Registered.head
    (hregistered : Registered t (h :: others))
    (hbound : (h.step t).2.drawn ≤ 2 ^ 64) :
    Registered (h.step t).2 ((h.step t).1 :: others) := by
  obtain ⟨peer, target, phase⟩ := h
  cases phase with
  | idle =>
      rcases Handler.step_idle peer target t with hstep | ⟨-, hstep⟩
      · rw [hstep]
        exact hregistered
      · rw [hstep]
        exact ⟨hregistered.entries, hregistered.distinct, hregistered.drawn⟩
  | slotTaken =>
      exact hregistered.drawId hbound
  | numbered id =>
      exact hregistered.insert
  | holding id =>
      exact hregistered.remove
  | entered | counted | removed | recounted | leaving =>
      exact ⟨hregistered.entries, hregistered.distinct, hregistered.drawn⟩

end Registering

section Steps

variable {s s' : Handlers} {index : Nat} {h : Handler} {schedule : List Nat}

theorem step?_of_get
    (hget : s.handlers[index]? = some h) :
    s.step? index = some ⟨(h.step s.tracker).2, s.handlers.set index (h.step s.tracker).1⟩ := by
  simp [step?, hget]

theorem exists_of_step?
    (hstep : s.step? index = some s') :
    ∃ h, s.handlers[index]? = some h ∧
      s' = ⟨(h.step s.tracker).2, s.handlers.set index (h.step s.tracker).1⟩ := by
  obtain ⟨h, hget, -⟩ := Option.bind_eq_some_iff.mp hstep
  rw [step?_of_get hget] at hstep
  exact ⟨h, hget, (Option.some.inj hstep).symm⟩

theorem run?_append
    (first second : List Nat) :
    s.run? (first ++ second) = (s.run? first).bind fun next => next.run? second :=
  List.foldlM_append

/-- The handlers, with the one at an index in front. -/
theorem handlers_perm
    (hget : s.handlers[index]? = some h) :
    s.handlers.Perm (h :: s.handlers.eraseIdx index) ∧
      ∀ h', (s.handlers.set index h').Perm (h' :: s.handlers.eraseIdx index) := by
  obtain ⟨hlt, rfl⟩ := List.getElem?_eq_some_iff.mp hget
  exact
    ⟨(List.getElem_cons_eraseIdx_perm hlt).symm, fun h' => List.set_perm_cons_eraseIdx hlt h'⟩

theorem drawn_le_of_step
    (hstep : s.step? index = some s') :
    s.tracker.drawn ≤ s'.tracker.drawn := by
  obtain ⟨h, -, rfl⟩ := exists_of_step? hstep
  exact Handler.step_drawn_le

theorem drawn_le_of_run
    (hrun : s.run? schedule = some s') :
    s.tracker.drawn ≤ s'.tracker.drawn := by
  induction schedule generalizing s with
  | nil =>
      cases hrun
      exact Nat.le_refl _
  | cons index schedule ih =>
      obtain ⟨next, hstep, hrest⟩ := Option.bind_eq_some_iff.mp hrun
      exact Nat.le_trans (drawn_le_of_step hstep) (ih hrest)

theorem Shared.step
    (hshared : Shared s.tracker s.handlers)
    (hstep : s.step? index = some s') :
    Shared s'.tracker s'.handlers := by
  obtain ⟨h, hget, rfl⟩ := exists_of_step? hstep
  obtain ⟨hfront, hset⟩ := handlers_perm hget
  exact (hshared.perm hfront).head.perm (hset _).symm

/-- Slots are shared in every state that can be reached. -/
theorem Shared.run
    (hshared : Shared s.tracker s.handlers)
    (hrun : s.run? schedule = some s') :
    Shared s'.tracker s'.handlers := by
  induction schedule generalizing s with
  | nil =>
      cases hrun
      exact hshared
  | cons index schedule ih =>
      obtain ⟨next, hstep, hrest⟩ := Option.bind_eq_some_iff.mp hrun
      exact ih (hshared.step hstep) hrest

theorem Registered.step
    (hregistered : Registered s.tracker s.handlers)
    (hstep : s.step? index = some s')
    (hbound : s'.tracker.drawn ≤ 2 ^ 64) :
    Registered s'.tracker s'.handlers := by
  obtain ⟨h, hget, rfl⟩ := exists_of_step? hstep
  obtain ⟨hfront, hset⟩ := handlers_perm hget
  exact ((hregistered.perm hfront).head hbound).perm (hset _).symm

/-- Numbers are only drawn and never put back, so the bound at the end of a run
is one for all states on the way. -/
theorem Registered.run
    (hregistered : Registered s.tracker s.handlers)
    (hrun : s.run? schedule = some s')
    (hbound : s'.tracker.drawn ≤ 2 ^ 64) :
    Registered s'.tracker s'.handlers := by
  induction schedule generalizing s with
  | nil =>
      cases hrun
      exact hregistered
  | cons index schedule ih =>
      obtain ⟨next, hstep, hrest⟩ := Option.bind_eq_some_iff.mp hrun
      have hnext := Nat.le_trans (drawn_le_of_run hrest) hbound
      exact ih (hregistered.step hstep hnext) hrest

end Steps

section Start

variable {start : Handlers} {limit : Nat} {layout : Layout}
  {requests : List (SocketAddress × Target)}

theorem init?_eq_some_iff :
    init? limit requests layout = some start ↔
      limit ≤ Tracker.slotLimit ∧
        start =
          ⟨Tracker.empty limit layout,
            requests.map fun request => { peer := request.1, target := request.2 }⟩ := by
  simp only [init?, Option.map_eq_some_iff, Tracker.ofLimit?_eq_some_iff]
  constructor
  · rintro ⟨t, ⟨hlimit, rfl⟩, rfl⟩
    exact ⟨hlimit, rfl⟩
  · rintro ⟨hlimit, rfl⟩
    exact ⟨_, ⟨hlimit, rfl⟩, rfl⟩

theorem Shared.init
    (hstart : init? limit requests layout = some start) :
    Shared start.tracker start.handlers := by
  obtain ⟨-, rfl⟩ := init?_eq_some_iff.mp hstart
  refine ⟨?_, List.nil_subset _⟩
  simp [Tracker.empty, slotsTaken, List.countP_map, Function.comp_def, HandlerPhase.hasSlot]

theorem Registered.init
    (hstart : init? limit requests layout = some start) :
    Registered start.tracker start.handlers := by
  obtain ⟨-, rfl⟩ := init?_eq_some_iff.mp hstart
  have hdrawn :
      drawnIds (requests.map fun request => { peer := request.1, target := request.2 }) = [] := by
    simp [drawnIds, List.filterMap_map, HandlerPhase.drawnId?]
  refine ⟨?_, ?_, ?_⟩
  · simp [Tracker.empty, Tracker.entries, inserted, List.filterMap_map, Handler.inserted?,
      HandlerPhase.entryId?]
  · rw [hdrawn]
    exact .nil
  · rw [hdrawn]
    exact List.nil_subset _

end Start

section InARow

variable {s : Handlers} {index count : Nat} {id : SessionId} {h : Handler} {t : Tracker}

/-- While one handler makes its steps, the others stay as they are. -/
theorem run?_replicate
    (n : Nat)
    (hget : s.handlers[index]? = some h) :
    s.run? (List.replicate n index) =
      some
        ⟨((Function.uncurry Handler.step)^[n] (h, s.tracker)).2,
          s.handlers.set index ((Function.uncurry Handler.step)^[n] (h, s.tracker)).1⟩ := by
  induction n generalizing s h with
  | zero =>
      obtain ⟨hlt, rfl⟩ := List.getElem?_eq_some_iff.mp hget
      simp [run?]
  | succ n ih =>
      have hlt := (List.getElem?_eq_some_iff.mp hget).1
      have hnext :
          (s.handlers.set index (h.step s.tracker).1)[index]? = some (h.step s.tracker).1 :=
        List.getElem?_set_self hlt
      have hrun :
          s.run? (List.replicate (n + 1) index) =
            (s.step? index).bind fun next => next.run? (List.replicate n index) := rfl
      rw [hrun, step?_of_get hget, Option.bind_some, ih hnext, List.set_set]
      rfl

/-- Five steps in a row accept a session. -/
theorem run?_accept
    (hget : s.handlers[index]? = some h)
    (hphase : h.phase = .idle)
    (haccept : s.tracker.accept h.peer h.target = (some id, t)) :
    s.run? (List.replicate 5 index) =
      some ⟨t, s.handlers.set index { h with phase := .holding id }⟩ := by
  obtain ⟨peer, target, phase⟩ := h
  cases hphase
  have hfree : s.tracker.free ≠ 0 := by
    intro hzero
    rw [Tracker.accept_of_full hzero] at haccept
    cases haccept
  have htake :
      s.tracker.takeSlot = (true, { s.tracker with free := s.tracker.free - 1 }) :=
    if_neg hfree
  rw [Tracker.accept, htake] at haccept
  cases haccept
  have hfirst :
      Handler.step ⟨peer, target, .idle⟩ s.tracker =
        (⟨peer, target, .slotTaken⟩, { s.tracker with free := s.tracker.free - 1 }) := by
    simp only [Handler.step, htake]
  rw [run?_replicate 5 hget, Function.iterate_succ_apply, Function.uncurry_apply_pair, hfirst]
  rfl

/-- Four steps in a row release a session. -/
theorem run?_release
    (hget : s.handlers[index]? = some h)
    (hphase : h.phase = .holding id) :
    s.run? (List.replicate 4 index) =
      some ⟨s.tracker.release id, s.handlers.set index { h with phase := .idle }⟩ := by
  obtain ⟨peer, target, phase⟩ := h
  cases hphase
  exact run?_replicate 4 hget

/-- The first half of a release. -/
theorem run?_recount
    (hget : s.handlers[index]? = some h)
    (hphase : h.phase = .holding id) :
    s.run? (List.replicate 2 index) =
      some
        ⟨s.tracker.remove id,
          s.handlers.set index { h with phase := .recounted (s.tracker.remove id).size }⟩ := by
  obtain ⟨peer, target, phase⟩ := h
  cases hphase
  exact run?_replicate 2 hget

/-- The second half of a release. -/
theorem run?_leave
    (hget : s.handlers[index]? = some h)
    (hphase : h.phase = .recounted count) :
    s.run? (List.replicate 2 index) =
      some
        ⟨(s.tracker.publish count).freeSlot,
          s.handlers.set index { h with phase := .idle }⟩ := by
  obtain ⟨peer, target, phase⟩ := h
  cases hphase
  exact run?_replicate 2 hget

end InARow

end Handlers
end FrameBridge
