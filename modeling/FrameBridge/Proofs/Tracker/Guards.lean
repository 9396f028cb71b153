import FrameBridge.Proofs.Tracker.Operations
import Mathlib.Data.List.Basic
import Mathlib.Data.List.Nodup
import Mathlib.Data.List.Perm.Subperm

/-!
# Trackers and the guards they give out

Whoever is admitted by a tracker gets a guard.  Through it the statistics of
the session are written, and dropping it releases the session.  A guard is
dropped once at most, but guards can be dropped in any order, and sessions can
be admitted in between.

Beside the tracker, `GuardedTracker` keeps every guard that was given out, in
order of admission, with what was written through it and whether it is still
held.  The held guards are the set of live sessions that the tracker is meant
to keep, and `tracker_refines_guards` says that all the tracker shows is about
this set, in whatever order its registry lists the entries.

Slots and what is published go by the guards whatever their numbers are.  The
entries go by the numbers, which are words, so what is shown of them is right as
long as no number was given away twice.
-/

namespace FrameBridge

/-- The guard of a session, with what was written through it. -/
structure Guard where
  id : SessionId
  peer : SocketAddress
  target : Target
  stats : Stats := {}
  isHeld : Bool := true

namespace Guard

/-- What is to be seen of the session of a guard. -/
def entry (g : Guard) : SessionEntry where
  id := g.id
  peer := g.peer
  target := g.target
  stats := g.stats

/-- The guard after it was dropped. -/
def drop (g : Guard) : Guard :=
  { g with isHeld := false }

/-- The guard after a change of the statistics was written through it. -/
def write (change : Stats.Change) (g : Guard) : Guard :=
  { g with stats := g.stats.apply change }

theorem ids_entry
    (guards : List Guard) :
    SessionEntry.ids (guards.map entry) = guards.map Guard.id := by
  rw [SessionEntry.ids, List.map_map]
  rfl

/-- What is written through a guard is to be seen in its entry. -/
theorem changed_entry
    (g : Guard) (change : Stats.Change) :
    Registry.changed g.id change g.entry = (g.write change).entry :=
  if_pos rfl

end Guard

/-- A tracker and every guard that it gave out, in order of admission. -/
structure GuardedTracker where
  tracker : Tracker
  guards : List Guard := []

namespace GuardedTracker

/-- Something that is done with a tracker or through one of its guards, which
are told apart by their places in the order of admission. -/
inductive Use where
  | accept (peer : SocketAddress) (target : Target)
  | drop (place : Nat)
  | write (place : Nat) (change : Stats.Change)

/-- The guards that are held, in order of admission. -/
def held (s : GuardedTracker) : List Guard :=
  s.guards.filter Guard.isHeld

/-- The guard at a place, if it is held. -/
def heldAt? (s : GuardedTracker) (place : Nat) : Option Guard :=
  s.guards[place]?.filter Guard.isHeld

/-- The state after a use; none if a guard is used that is not held. -/
def act (s : GuardedTracker) : Use → Option GuardedTracker
  | .accept peer target =>
      match s.tracker.accept peer target with
      | (none, tracker) => some { s with tracker := tracker }
      | (some id, tracker) =>
          some
            { tracker := tracker
              guards := s.guards ++ [{ id := id, peer := peer, target := target }] }
  | .drop place => do
      let g ← s.heldAt? place
      return { tracker := s.tracker.release g.id, guards := s.guards.set place g.drop }
  | .write place change => do
      let g ← s.heldAt? place
      let guards := s.guards.set place (g.write change)
      return { tracker := s.tracker.changeStats g.id change, guards := guards }

def run? (s : GuardedTracker) (uses : List Use) : Option GuardedTracker :=
  uses.foldlM act s

/-- The tracker keeps the set of held guards. -/
structure Refines (s : GuardedTracker) : Prop where
  ids_eq : s.guards.map Guard.id = Tracker.firstIds s.guards.length
  drawn_eq : s.tracker.drawn = s.guards.length
  slots : s.tracker.free + s.held.length = s.tracker.limit
  listed : SessionEntry.ids s.tracker.entries ⊆ s.held.map Guard.id
  published_eq : s.tracker.published = s.tracker.size
  gauge_eq :
    s.tracker.metrics.sessionsActive? =
      if s.guards = [] then none else some (Binary64.ofNat s.tracker.size)
  entries :
    s.guards.length < 2 ^ 64 → s.tracker.entries.Perm (s.held.map Guard.entry)

section OneGuard

variable {s : GuardedTracker} {place : Nat} {g : Guard}

/-- A guard can be used until it is dropped. -/
theorem heldAt?_eq_some_iff :
    s.heldAt? place = some g ↔ s.guards[place]? = some g ∧ g.isHeld = true := by
  simp [heldAt?, Option.filter_eq_some_iff]

/-- The guard at a place, looked at in front of the other held ones.  Whatever
it becomes, the others stay. -/
theorem held_split
    (hheld : s.heldAt? place = some g) :
    ∃ others,
      s.held.Perm (g :: others) ∧
      ∀ g' : Guard,
        ((s.guards.set place g').filter Guard.isHeld).Perm
          (if g'.isHeld then g' :: others else others) := by
  obtain ⟨hget, hg⟩ := heldAt?_eq_some_iff.mp hheld
  obtain ⟨hlt, rfl⟩ := List.getElem?_eq_some_iff.mp hget
  refine ⟨(s.guards.eraseIdx place).filter Guard.isHeld, ?_, fun g' => ?_⟩
  · have hfront := (List.getElem_cons_eraseIdx_perm hlt).symm.filter Guard.isHeld
    rwa [List.filter_cons_of_pos hg] at hfront
  · have hfront := (List.set_perm_cons_eraseIdx hlt g').filter Guard.isHeld
    rwa [List.filter_cons] at hfront

theorem ids_set
    (hheld : s.heldAt? place = some g)
    (g' : Guard)
    (hid : g'.id = g.id) :
    (s.guards.set place g').map Guard.id = s.guards.map Guard.id := by
  obtain ⟨hget, -⟩ := heldAt?_eq_some_iff.mp hheld
  obtain ⟨hlt, rfl⟩ := List.getElem?_eq_some_iff.mp hget
  rw [List.map_set, hid, ← List.getElem_map Guard.id (h := by simpa using hlt)]
  exact List.set_getElem_self _

theorem guards_ne_nil
    (hheld : s.heldAt? place = some g) :
    s.guards ≠ [] := by
  intro hnil
  simp [heldAt?, hnil] at hheld

end OneGuard

namespace Refines

variable {s s' : GuardedTracker} {place : Nat} {g : Guard}

theorem of_empty
    (limit : Nat) (layout : Layout) :
    Refines { tracker := Tracker.empty limit layout } where
  ids_eq := rfl
  drawn_eq := rfl
  slots := rfl
  listed := List.nil_subset _
  published_eq := rfl
  gauge_eq := rfl
  entries _ := .refl _

/-- As long as numbers do not wrap, no two guards have the same. -/
theorem nodup_held
    (h : s.Refines)
    (hbound : s.guards.length < 2 ^ 64) :
    (s.held.map Guard.id).Nodup := by
  have hnodup := Tracker.nodup_firstIds (Nat.le_of_lt hbound)
  rw [← h.ids_eq] at hnodup
  exact hnodup.sublist (List.filter_sublist.map Guard.id)

/-- The entry of a held guard is told from those of the others by its number. -/
theorem notMem_others
    {others : List Guard}
    (h : s.Refines)
    (hbound : s.guards.length < 2 ^ 64)
    (hsplit : s.held.Perm (g :: others)) :
    g.id ∉ SessionEntry.ids (others.map Guard.entry) := by
  have hdistinct := (hsplit.map Guard.id).nodup (h.nodup_held hbound)
  rw [Guard.ids_entry]
  exact (List.nodup_cons.mp hdistinct).1

theorem fresh
    (h : s.Refines)
    (hbound : s.guards.length < 2 ^ 64) :
    s.tracker.Fresh := by
  intro hmem
  have hheld := (List.filter_sublist.map Guard.id).subset (h.listed hmem)
  rw [h.ids_eq, Tracker.nextId, h.drawn_eq] at hheld
  exact Tracker.idAt_notMem_firstIds hbound hheld

/-- A session that is admitted has a guard of its own. -/
theorem accept
    (h : s.Refines)
    {peer : SocketAddress} {target : Target} {id : SessionId} {t : Tracker}
    (haccept : s.tracker.accept peer target = (some id, t)) :
    Refines
      { tracker := t
        guards := s.guards ++ [{ id := id, peer := peer, target := target }] } := by
  have ha := Tracker.accepted_of_accept haccept
  have hid : id = Tracker.idAt s.guards.length := by
    rw [ha.id_eq, Tracker.nextId, h.drawn_eq]
  have hheld :
      held
          { tracker := t
            guards := s.guards ++ [{ id := id, peer := peer, target := target }] } =
        s.held ++ [{ id := id, peer := peer, target := target }] := by
    simp [held]
  refine ⟨?_, ?_, ?_, ?_, ha.published_eq, ?_, fun hbound => ?_⟩
  · simp [h.ids_eq, hid]
  · simp [ha.drawn_eq, h.drawn_eq]
  · have hslots := h.slots
    have hfree := ha.free_succ
    rw [hheld, List.length_append, List.length_singleton, ha.limit_eq]
    show t.free + (s.held.length + 1) = s.tracker.limit
    omega
  · intro other hmem
    rw [ha.entries_eq] at hmem
    rw [hheld, List.map_append, List.mem_append]
    rcases List.mem_cons.mp (Tracker.ids_insert_subset hmem) with rfl | hold
    · exact .inr List.mem_cons_self
    · exact .inl (h.listed hold)
  · simp [ha.metrics_eq, Metrics.setSessionsActive]
  · have hbefore : s.guards.length < 2 ^ 64 := by
      rw [List.length_append] at hbound
      omega
    rw [hheld, List.map_append]
    exact
      ((ha.entries_perm (h.fresh hbefore)).trans ((h.entries hbefore).cons _)).trans
        (List.perm_append_singleton _ _).symm

/-- A guard takes its own entry along, and its slot. -/
theorem drop
    (h : s.Refines)
    (hheld : s.heldAt? place = some g) :
    Refines
      { tracker := s.tracker.release g.id
        guards := s.guards.set place g.drop } := by
  obtain ⟨others, hsplit, hafter⟩ := held_split hheld
  have hothers : ((s.guards.set place g.drop).filter Guard.isHeld).Perm others :=
    hafter g.drop
  refine ⟨?_, ?_, ?_, ?_, rfl, ?_, fun hbound => ?_⟩
  · rw [ids_set hheld g.drop rfl, List.length_set, h.ids_eq]
  · rw [List.length_set]
    exact h.drawn_eq
  · have hslots := h.slots
    rw [hsplit.length_eq, List.length_cons] at hslots
    have hleft : s.tracker.free + 1 + others.length = s.tracker.limit := by
      omega
    rw [held, hothers.length_eq]
    exact hleft
  · intro id hmem
    obtain ⟨entry, hentry, rfl⟩ := List.mem_map.mp hmem
    obtain ⟨hentry, hne⟩ := List.mem_filter.mp hentry
    have hlisted := (hsplit.map Guard.id).subset (h.listed (List.mem_map_of_mem hentry))
    rcases List.mem_cons.mp hlisted with heq | hmem
    · exact absurd heq (bne_iff_ne.mp hne)
    · exact (hothers.map Guard.id).mem_iff.mpr hmem
  · have hne : s.guards.set place g.drop ≠ [] := by
      simpa using guards_ne_nil hheld
    rw [if_neg hne]
    rfl
  · rw [List.length_set] at hbound
    have habsent := h.notMem_others hbound hsplit
    have hentries := (h.entries hbound).trans (hsplit.map Guard.entry)
    have hfilter := hentries.filter fun entry => entry.id != g.id
    rw [List.map_cons, List.filter_cons_of_neg (by simp [Guard.entry]),
      Tracker.filter_of_notMem habsent] at hfilter
    exact hfilter.trans (hothers.map Guard.entry).symm

/-- What is written through a guard is seen in its own entry. -/
theorem write
    (h : s.Refines)
    (hheld : s.heldAt? place = some g) (change : Stats.Change) :
    Refines
      { tracker := s.tracker.changeStats g.id change
        guards := s.guards.set place (g.write change) } := by
  obtain ⟨others, hsplit, hafter⟩ := held_split hheld
  have hwritten :
      ((s.guards.set place (g.write change)).filter Guard.isHeld).Perm
        (g.write change :: others) := by
    have hstays : (g.write change).isHeld = true := (heldAt?_eq_some_iff.mp hheld).2
    have hwritten := hafter (g.write change)
    rwa [if_pos hstays] at hwritten
  refine ⟨?_, ?_, ?_, ?_, ?_, ?_, fun hbound => ?_⟩
  · rw [ids_set hheld (g.write change) rfl, List.length_set, h.ids_eq]
  · rw [List.length_set]
    exact h.drawn_eq
  · rw [held, hwritten.length_eq]
    have hslots := h.slots
    rw [hsplit.length_eq] at hslots
    exact hslots
  · rw [Tracker.changeStats_ids]
    intro id hmem
    have hlisted := (hsplit.map Guard.id).subset (h.listed hmem)
    exact (hwritten.map Guard.id).mem_iff.mpr hlisted
  · rw [Tracker.changeStats_published, Tracker.changeStats_size, h.published_eq]
  · rw [Tracker.changeStats_sessionsActive?, Tracker.changeStats_size, h.gauge_eq]
    simp
  · rw [List.length_set] at hbound
    have habsent := h.notMem_others hbound hsplit
    have hentries := (h.entries hbound).trans (hsplit.map Guard.entry)
    have hchanged := hentries.map (Registry.changed g.id change)
    rw [List.map_cons, List.map_cons, Guard.changed_entry,
      Tracker.changed_of_notMem _ _ habsent] at hchanged
    exact hchanged.trans (hwritten.map Guard.entry).symm

/-- Every use keeps the set of held guards, and the limit. -/
theorem act
    (h : s.Refines) {use : Use}
    (hact : s.act use = some s') :
    s'.Refines ∧ s'.tracker.limit = s.tracker.limit := by
  cases use with
  | accept peer target =>
      rcases s.tracker.accept_cases peer target with
        ⟨-, haccept⟩ | ⟨-, t, haccept, haccepted⟩
      · simp only [GuardedTracker.act, haccept] at hact
        cases hact
        exact ⟨h, rfl⟩
      · simp only [GuardedTracker.act, haccept] at hact
        cases hact
        exact ⟨h.accept haccept, haccepted.limit_eq⟩
  | drop place =>
      obtain ⟨g, hheld, hact⟩ := Option.bind_eq_some_iff.mp hact
      cases hact
      exact ⟨h.drop hheld, rfl⟩
  | write place change =>
      obtain ⟨g, hheld, hact⟩ := Option.bind_eq_some_iff.mp hact
      cases hact
      exact ⟨h.write hheld change, rfl⟩

/-- Any uses in a row keep the set of guards. -/
theorem run
    (h : s.Refines) {uses : List Use}
    (hrun : s.run? uses = some s') :
    s'.Refines ∧ s'.tracker.limit = s.tracker.limit := by
  induction uses generalizing s with
  | nil =>
      cases hrun
      exact ⟨h, rfl⟩
  | cons use uses ih =>
      obtain ⟨t, hact, hrest⟩ := Option.bind_eq_some_iff.mp hrun
      obtain ⟨ht, hlimit⟩ := h.act hact
      obtain ⟨hs', hlimit'⟩ := ih ht hrest
      exact ⟨hs', hlimit'.trans hlimit⟩

end Refines

section Refinement

/-- What a tracker shows of its slots, and what it makes known, whatever the
numbers of its sessions are. -/
structure Bounded (limit : Nat) (s : GuardedTracker) : Prop where
  ids_eq : s.guards.map Guard.id = Tracker.firstIds s.guards.length
  increasing_iff : (s.guards.map Guard.id).Pairwise (· < ·) ↔ s.guards.length < 2 ^ 64
  activeCount_le : s.tracker.activeCount ≤ s.held.length
  held_le : s.held.length ≤ limit
  refused_iff :
    ∀ peer target, (s.tracker.accept peer target).1 = none ↔ s.held.length = limit
  refused :
    ∀ peer target,
      (s.tracker.accept peer target).1 = none → s.act (.accept peer target) = some s
  published_eq : s.tracker.published = s.tracker.activeCount
  untouched_iff : s.tracker.metrics.sessionsActive? = none ↔ s.guards = []
  gauge_eq :
    ∀ gauge, s.tracker.metrics.sessionsActive? = some gauge →
      gauge = Binary64.ofNat s.tracker.activeCount ∧
        (s.tracker.activeCount < 2 ^ 53 → gauge.wholePart = s.tracker.activeCount)

/-- What a tracker shows of its sessions is about the guards that are held, in
whatever order the entries are listed. -/
structure Mirrored (s : GuardedTracker) : Prop where
  activeCount_eq : s.tracker.activeCount = s.held.length
  entries_perm : s.tracker.entries.Perm (s.held.map Guard.entry)
  listing_eq :
    ∀ listing, listing.Perm s.tracker.entries →
      Tracker.oldestFirst listing = s.held.map Guard.entry
  snapshot_eq : s.tracker.snapshot = s.held.map Guard.entry
  isIdle_iff : s.tracker.isIdle = true ↔ s.held = []

variable {s : GuardedTracker}

/-- Sorting finds the order of admission in every listing, since the numbers
increase in this order and no two are the same. -/
theorem oldestFirst_of_perm
    {listing entries : List SessionEntry}
    (hperm : listing.Perm entries)
    (hincreasing : (SessionEntry.ids entries).Pairwise (· < ·)) :
    Tracker.oldestFirst listing = entries := by
  have hsorted := Tracker.pairwise_oldestFirst listing
  have hstrict : entries.Pairwise fun a b => a.id < b.id :=
    List.pairwise_map.mp hincreasing
  have hfound : (Tracker.oldestFirst listing).Perm entries :=
    (Tracker.oldestFirst_perm listing).trans hperm
  refine List.Perm.eq_of_pairwise ?_ hsorted (hstrict.imp UInt64.le_of_lt) hfound
  intro a b ha hb hab hba
  have hid : a.id = b.id := UInt64.le_antisymm hab hba
  have hdistinct : (SessionEntry.ids entries).Nodup :=
    hincreasing.imp UInt64.ne_of_lt
  exact List.inj_on_of_nodup_map hdistinct (hfound.subset ha) hb hid

/-- What does not depend on the numbers holds after any number of admissions. -/
theorem Refines.bounded
    {limit : Nat}
    (h : s.Refines)
    (hlimit : s.tracker.limit = limit) :
    s.Bounded limit := by
  have hslots := h.slots
  rw [hlimit] at hslots
  have hgauge := h.gauge_eq
  refine ⟨h.ids_eq, ?_, ?_, by omega, ?_, ?_, h.published_eq, ?_, ?_⟩
  · rw [h.ids_eq]
    exact Tracker.pairwise_firstIds_iff
  · have hlength := (s.tracker.distinct_entries.subperm h.listed).length_le
    rwa [List.length_map, List.length_map] at hlength
  · intro peer target
    rw [Tracker.accept_eq_none_iff]
    omega
  · intro peer target hnone
    simp only [GuardedTracker.act, Tracker.accept_of_full (Tracker.accept_eq_none_iff.mp hnone)]
  · rw [hgauge]
    split <;> simp_all
  · intro gauge hsome
    rw [hgauge] at hsome
    split at hsome
    · cases hsome
    · cases hsome
      exact ⟨rfl, Binary64.wholePart_ofNat⟩

/-- What depends on the numbers holds as long as none was given out twice. -/
theorem Refines.mirrored
    (h : s.Refines)
    (hbound : s.guards.length < 2 ^ 64) :
    s.Mirrored := by
  have hentries := h.entries hbound
  have hcount : s.tracker.activeCount = s.held.length :=
    hentries.length_eq.trans (List.length_map _)
  have hincreasing : (SessionEntry.ids (s.held.map Guard.entry)).Pairwise (· < ·) := by
    have hall := Tracker.pairwise_firstIds_iff.mpr hbound
    rw [← h.ids_eq] at hall
    rw [Guard.ids_entry]
    exact hall.sublist (List.filter_sublist.map Guard.id)
  refine ⟨hcount, hentries, ?_, oldestFirst_of_perm hentries hincreasing, ?_⟩
  · intro listing hlisting
    exact oldestFirst_of_perm (hlisting.trans hentries) hincreasing
  · have hpublished : s.tracker.published = s.held.length :=
      h.published_eq.trans hcount
    rw [Tracker.isIdle, beq_iff_eq, hpublished, List.length_eq_zero_iff]

/-- After any uses, all that a tracker shows is about the guards that are held:
their number, whether another one can be had, the snapshot, what was published
and the gauge. -/
theorem tracker_refines_guards
    {limit : Nat} (layout : Layout)
    (hlimit : limit ≤ Tracker.slotLimit) :
    ∃ t, Tracker.ofLimit? limit layout = some t ∧
      ∀ uses s,
        run? { tracker := t } uses = some s →
        s.Bounded limit ∧ (s.guards.length < 2 ^ 64 → s.Mirrored) := by
  refine ⟨_, if_pos hlimit, ?_⟩
  intro uses s hrun
  obtain ⟨h, hkept⟩ := (Refines.of_empty limit layout).run hrun
  exact ⟨h.bounded hkept, h.mirrored⟩

/-- Entries stand the other way round after each insertion. -/
def reversing : Layout where
  arrange := List.reverse
  perm := List.reverse_perm

/-- Two sessions fill the tracker; one of them writes, the other one leaves, and
only then a third session is admitted. -/
def crowded : List Use :=
  [.accept (.v4 ⟨127, 0, 0, 1⟩ 40000) ⟨"echo.internal", 7⟩,
   .accept (.v4 ⟨127, 0, 0, 1⟩ 40001) ⟨"echo.internal", 9⟩,
   .accept (.v4 ⟨127, 0, 0, 1⟩ 40002) ⟨"echo.internal", 13⟩,
   .write 1 (.record .inbound 42),
   .drop 0,
   .accept (.v4 ⟨127, 0, 0, 1⟩ 40002) ⟨"echo.internal", 13⟩]

/-- The two sessions that are left are listed in their order, in whichever order
the registry has them. -/
theorem tracker_refines_guards_crowded :
    2 ≤ Tracker.slotLimit ∧
      ∀ layout, layout = Layout.newestFirst ∨ layout = reversing →
      ∃ t s, Tracker.ofLimit? 2 layout = some t ∧
        run? { tracker := t } crowded = some s ∧
        s.guards.map Guard.id = [1, 2, 3] ∧
        s.tracker.snapshot =
          [{ id := 2
             peer := .v4 ⟨127, 0, 0, 1⟩ 40001
             target := ⟨"echo.internal", 9⟩
             stats := { bytesUp := 42 } },
           { id := 3
             peer := .v4 ⟨127, 0, 0, 1⟩ 40002
             target := ⟨"echo.internal", 13⟩ }] ∧
        ∀ peer target, s.act (.accept peer target) = some s := by
  have hlimit : 2 ≤ Tracker.slotLimit := by decide
  refine ⟨hlimit, fun layout hlayout => ?_⟩
  obtain ⟨t, ht, hall⟩ := tracker_refines_guards layout hlimit
  obtain ⟨s, hrun⟩ : ∃ s, run? { tracker := t } crowded = some s := by
    rcases hlayout with rfl | rfl <;> cases ht <;> exact ⟨_, rfl⟩
  obtain ⟨hbounded, hmirrored⟩ := hall crowded s hrun
  obtain ⟨hids, hheld⟩ :
      s.guards.map Guard.id = [1, 2, 3] ∧
        s.held =
          [{ id := 2
             peer := .v4 ⟨127, 0, 0, 1⟩ 40001
             target := ⟨"echo.internal", 9⟩
             stats := { bytesUp := 42 } },
           { id := 3
             peer := .v4 ⟨127, 0, 0, 1⟩ 40002
             target := ⟨"echo.internal", 13⟩ }] := by
    rcases hlayout with rfl | rfl <;> cases ht <;> cases hrun <;> exact ⟨rfl, rfl⟩
  have hthree : s.guards.length = 3 := by
    rw [← List.length_map Guard.id, hids]
    rfl
  have hsnapshot := (hmirrored (by omega)).snapshot_eq
  rw [hheld] at hsnapshot
  refine ⟨t, s, ht, hrun, hids, hsnapshot, fun peer target => hbounded.refused peer target ?_⟩
  rw [hbounded.refused_iff, hheld]
  rfl

end Refinement

end GuardedTracker
end FrameBridge
