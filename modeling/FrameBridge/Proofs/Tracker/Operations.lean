import FrameBridge.Proofs.Counting
import FrameBridge.Server.Tracker

/-!
# Operations on a tracker

What accepting a session, releasing one and changing its statistics do to each
part of a tracker, when all steps of the operation are made in a row.

The numbers of sessions are words.  As long as not all of them were drawn, the
number that is drawn next is that of no live session (`Numbered.fresh`).  Then
accepting a session adds one entry, and releasing the session that was accepted
last gives back all that accepting it took, but for its number.
-/

namespace FrameBridge
namespace Tracker

section Numbers

variable {n a b : Nat}

/-- The numbers of the first sessions, in the order in which they are drawn. -/
def firstIds (n : Nat) : List SessionId :=
  (List.range n).map idAt

@[simp] theorem firstIds_succ
    (n : Nat) :
    firstIds (n + 1) = firstIds n ++ [idAt n] := by
  rw [firstIds, List.range_succ, List.map_append]
  rfl

theorem firstIds_sublist
    (hle : a ≤ b) :
    (firstIds a).Sublist (firstIds b) :=
  (List.range_sublist.mpr hle).map idAt

/-- Numbers are counted from one, modulo the size of a word. -/
theorem toNat_idAt
    (n : Nat) :
    (idAt n).toNat = (n + 1) % 2 ^ 64 :=
  UInt64.toNat_ofNat'

/-- The counter of the numbers is a word: after the last number comes zero. -/
theorem idAt_succ
    (n : Nat) :
    idAt (n + 1) = idAt n + 1 :=
  UInt64.ofNat_add (n + 1) 1

/-- Numbers differ as long as they do not wrap. -/
theorem idAt_ne
    (hlt : a < b)
    (hbound : b < 2 ^ 64) :
    idAt a ≠ idAt b := by
  intro heq
  have hsame := congrArg UInt64.toNat heq
  rw [toNat_idAt, toNat_idAt] at hsame
  omega

theorem idAt_notMem_firstIds
    (hbound : n < 2 ^ 64) :
    idAt n ∉ firstIds n := by
  intro hmem
  obtain ⟨a, ha, heq⟩ := List.mem_map.mp hmem
  exact idAt_ne (List.mem_range.mp ha) hbound heq

theorem nodup_firstIds
    (hbound : n ≤ 2 ^ 64) :
    (firstIds n).Nodup := by
  refine List.pairwise_map.mpr (List.pairwise_lt_range.imp_of_mem fun _ hb hlt => ?_)
  exact idAt_ne hlt (Nat.lt_of_lt_of_le (List.mem_range.mp hb) hbound)

/-- The numbers increase until they wrap. -/
theorem pairwise_firstIds_iff :
    (firstIds n).Pairwise (· < ·) ↔ n < 2 ^ 64 := by
  constructor
  · intro hincreasing
    refine Nat.lt_of_not_le fun hlarge => ?_
    -- the number at this place is zero, and the one before it is not
    have hpair := List.pairwise_iff_getElem.mp hincreasing (2 ^ 64 - 2) (2 ^ 64 - 1)
      (by simp [firstIds]; omega) (by simp [firstIds]; omega) (by omega)
    simp only [firstIds, List.getElem_map, List.getElem_range, UInt64.lt_iff_toNat_lt,
      toNat_idAt] at hpair
    omega
  · intro hbound
    refine List.pairwise_map.mpr (List.pairwise_lt_range.imp_of_mem fun _ hb hlt => ?_)
    have hb := List.mem_range.mp hb
    rw [UInt64.lt_iff_toNat_lt, toNat_idAt, toNat_idAt]
    omega

/-- The number that is drawn next is that of no live session. -/
def Fresh (t : Tracker) : Prop :=
  t.nextId ∉ SessionEntry.ids t.entries

/-- The live sessions have numbers that were drawn. -/
def Numbered (t : Tracker) : Prop :=
  SessionEntry.ids t.entries ⊆ firstIds t.drawn

/-- The number of live sessions was published. -/
def Published (t : Tracker) : Prop :=
  t.published = t.size

theorem Numbered.fresh
    {t : Tracker}
    (hnumbered : t.Numbered)
    (hbound : t.drawn < 2 ^ 64) :
    t.Fresh :=
  fun hmem => idAt_notMem_firstIds hbound (hnumbered hmem)

end Numbers

section Entering

variable {t : Tracker} {entry : SessionEntry} {id : SessionId}

theorem distinct_entries
    (t : Tracker) :
    (SessionEntry.ids t.entries).Nodup :=
  t.registry.distinct

/-- Wherever the map puts an entry, it takes the place of the one with its number. -/
theorem insert_perm
    (t : Tracker) (entry : SessionEntry) :
    (t.insert entry).entries.Perm
      (entry :: t.entries.filter fun other => other.id != entry.id) :=
  t.registry.layout.perm _

theorem filter_of_notMem
    {entries : List SessionEntry}
    (habsent : id ∉ SessionEntry.ids entries) :
    entries.filter (fun other => other.id != id) = entries := by
  refine List.filter_eq_self.mpr fun other hmem => bne_iff_ne.mpr ?_
  rintro rfl
  exact habsent (List.mem_map_of_mem hmem)

/-- An entry with a number that no other entry has comes to the others, wherever
it stands among them. -/
theorem insert_perm_of_fresh
    (hfresh : entry.id ∉ SessionEntry.ids t.entries) :
    (t.insert entry).entries.Perm (entry :: t.entries) := by
  have hperm := t.insert_perm entry
  rwa [filter_of_notMem hfresh] at hperm

theorem insert_subset
    (t : Tracker) (entry : SessionEntry) :
    (t.insert entry).entries ⊆ entry :: t.entries := by
  intro other hmem
  exact List.cons_subset_cons _ List.filter_sublist.subset ((t.insert_perm entry).subset hmem)

theorem ids_insert_subset :
    SessionEntry.ids (t.insert entry).entries ⊆ entry.id :: SessionEntry.ids t.entries :=
  List.map_subset SessionEntry.id (t.insert_subset entry)

theorem ids_remove_subset :
    SessionEntry.ids (t.remove id).entries ⊆ SessionEntry.ids t.entries :=
  (List.filter_sublist.map _).subset

/-- Exactly one entry goes with a session that is live. -/
theorem size_remove
    (hheld : id ∈ SessionEntry.ids t.entries) :
    (t.remove id).size + 1 = t.size := by
  have hone : t.entries.countP (fun entry => entry.id == id) = 1 := by
    have hcount := t.distinct_entries.count (a := id)
    rw [if_pos hheld, List.count, List.countP_map] at hcount
    exact hcount
  have hsplit :=
    List.length_eq_countP_add_countP (p := fun entry => entry.id == id) (l := t.entries)
  have hrest :
      t.entries.countP (fun entry => decide ¬(entry.id == id) = true) =
        t.entries.countP fun entry => entry.id != id :=
    List.countP_congr fun entry _ => by simp
  have hremoved : (t.remove id).entries = t.entries.filter fun entry => entry.id != id := rfl
  rw [size, size, hremoved, ← List.countP_eq_length_filter, hsplit, hone, hrest, Nat.add_comm]

end Entering

/-- What comes of accepting a session. -/
structure Accepted
    (t : Tracker) (peer : SocketAddress) (target : Target)
    (id : SessionId) (t' : Tracker) : Prop where
  id_eq : id = t.nextId
  drawn_eq : t'.drawn = t.drawn + 1
  limit_eq : t'.limit = t.limit
  free_succ : t'.free + 1 = t.free
  entries_eq :
    t'.entries = (t.insert { id := id, peer := peer, target := target }).entries
  published_eq : t'.published = t'.size
  metrics_eq : t'.metrics = t.metrics.setSessionsActive t'.size

section Accepting

variable {t t' : Tracker} {peer : SocketAddress} {target : Target} {id : SessionId}

/-- Who is refused leaves no trace. -/
theorem accept_of_full
    (hfree : t.free = 0) :
    t.accept peer target = (none, t) := by
  simp [accept, takeSlot, hfree]

/-- A session is accepted whenever a slot is free. -/
theorem accept_of_free_pos
    (hfree : 0 < t.free) :
    ∃ t', t.accept peer target = (some t.nextId, t') ∧
      Accepted t peer target t.nextId t' := by
  have htake : t.takeSlot = (true, { t with free := t.free - 1 }) :=
    if_neg (Nat.ne_of_gt hfree)
  refine ⟨_, by rw [accept, htake]; rfl, ?_⟩
  exact
    { id_eq := rfl
      drawn_eq := rfl
      limit_eq := rfl
      free_succ := Nat.succ_pred_eq_of_pos hfree
      entries_eq := rfl
      published_eq := rfl
      metrics_eq := rfl }

/-- Either all slots are taken and nothing changes, or there is a new session. -/
theorem accept_cases
    (t : Tracker) (peer : SocketAddress) (target : Target) :
    (t.free = 0 ∧ t.accept peer target = (none, t)) ∨
    (0 < t.free ∧
      ∃ t', t.accept peer target = (some t.nextId, t') ∧
        Accepted t peer target t.nextId t') := by
  rcases Nat.eq_zero_or_pos t.free with hfree | hfree
  · exact .inl ⟨hfree, accept_of_full hfree⟩
  · exact .inr ⟨hfree, accept_of_free_pos hfree⟩

theorem accept_eq_none_iff :
    (t.accept peer target).1 = none ↔ t.free = 0 := by
  rcases t.accept_cases peer target with ⟨hfree, haccept⟩ | ⟨hfree, t', haccept, -⟩
  · simp [haccept, hfree]
  · simp [haccept, Nat.ne_of_gt hfree]

theorem accepted_of_accept
    (haccept : t.accept peer target = (some id, t')) :
    Accepted t peer target id t' := by
  rcases t.accept_cases peer target with ⟨-, hfull⟩ | ⟨-, u, hsome, hu⟩
  · rw [hfull] at haccept
    cases haccept
  · rw [hsome] at haccept
    cases haccept
    exact hu

theorem Accepted.entries_perm
    (haccepted : Accepted t peer target id t')
    (hfresh : t.Fresh) :
    t'.entries.Perm ({ id := id, peer := peer, target := target } :: t.entries) := by
  rw [haccepted.entries_eq]
  refine insert_perm_of_fresh ?_
  rw [haccepted.id_eq]
  exact hfresh

/-- A session that is accepted has the number that was drawn for it. -/
theorem Accepted.numbered
    (haccepted : Accepted t peer target id t')
    (hnumbered : t.Numbered) :
    t'.Numbered := by
  intro other hmem
  rw [haccepted.entries_eq] at hmem
  rw [haccepted.drawn_eq, firstIds_succ, List.mem_append, List.mem_singleton]
  rcases List.mem_cons.mp (ids_insert_subset hmem) with hnew | hold
  · exact .inr (hnew.trans haccepted.id_eq)
  · exact .inl (hnumbered hold)

end Accepting

section Releasing

variable {t t' : Tracker} {peer : SocketAddress} {target : Target} (id : SessionId)

@[simp] theorem release_limit : (t.release id).limit = t.limit := rfl

@[simp] theorem release_entries :
    (t.release id).entries = t.entries.filter fun entry => entry.id != id := rfl

@[simp] theorem release_published : (t.release id).published = (t.release id).size := rfl

@[simp] theorem release_metrics :
    (t.release id).metrics = t.metrics.setSessionsActive (t.release id).size := rfl

theorem Numbered.release
    (hnumbered : t.Numbered) :
    (t.release id).Numbered :=
  fun _ hmem => hnumbered (ids_remove_subset hmem)

variable {id} in
/-- The session that was accepted last takes its entry and its slot with it. -/
theorem release_accept
    (haccepted : Accepted t peer target id t') :
    (t.Fresh → (t'.release id).entries.Perm t.entries) ∧
      (t'.release id).free = t.free ∧
      (t'.release id).limit = t.limit := by
  refine ⟨fun hfresh => ?_, haccepted.free_succ, haccepted.limit_eq⟩
  have hkept := (haccepted.entries_perm hfresh).filter fun entry => entry.id != id
  rw [List.filter_cons_of_neg (by simp), haccepted.id_eq, filter_of_notMem hfresh] at hkept
  rw [release_entries, haccepted.id_eq]
  exact hkept

end Releasing

section Changing

variable (t : Tracker) (id : SessionId) (change : Stats.Change)

@[simp] theorem changeStats_limit : (t.changeStats id change).limit = t.limit := rfl

@[simp] theorem changeStats_published :
    (t.changeStats id change).published = t.published := rfl

@[simp] theorem changeStats_ids :
    SessionEntry.ids (t.changeStats id change).entries = SessionEntry.ids t.entries :=
  Registry.ids_changed id change t.entries

@[simp] theorem changeStats_size : (t.changeStats id change).size = t.size :=
  List.length_map _

@[simp] theorem changeStats_sessionsActive? :
    (t.changeStats id change).metrics.sessionsActive? = t.metrics.sessionsActive? := by
  cases change <;> rfl

/-- Statistics of sessions touch no counter but the relayed bytes. -/
theorem changeStats_value
    {metric : Metric}
    (hbytes : ∀ direction, metric ≠ .bytes direction) :
    (t.changeStats id change).metrics.value metric = t.metrics.value metric := by
  cases change with
  | record direction n =>
      exact Metrics.value_add_of_ne _ _ (hbytes direction).symm
  | state state =>
      rfl
  | latency d =>
      rfl

variable {t} in
theorem Numbered.changeStats
    (hnumbered : t.Numbered) :
    (t.changeStats id change).Numbered := by
  unfold Numbered
  rw [changeStats_ids]
  exact hnumbered

/-- Nothing can be written about a session that is not live. -/
theorem changed_of_notMem
    {entries : List SessionEntry}
    (habsent : id ∉ SessionEntry.ids entries) :
    entries.map (Registry.changed id change) = entries := by
  refine (List.map_congr_left fun entry hmem => if_neg ?_).trans (List.map_id _)
  rintro rfl
  exact habsent (List.mem_map_of_mem hmem)

end Changing

section Listing

/-- Nothing is lost or added by sorting. -/
theorem oldestFirst_perm
    (listing : List SessionEntry) :
    (oldestFirst listing).Perm listing :=
  List.mergeSort_perm _ _

/-- In whatever order entries are listed, sorting puts their numbers in order. -/
theorem pairwise_oldestFirst
    (listing : List SessionEntry) :
    (oldestFirst listing).Pairwise fun a b => a.id ≤ b.id := by
  have htrans :
      ∀ a b c : SessionEntry,
        decide (a.id ≤ b.id) = true → decide (b.id ≤ c.id) = true →
          decide (a.id ≤ c.id) = true := by
    intro a b c hab hbc
    exact decide_eq_true (UInt64.le_trans (of_decide_eq_true hab) (of_decide_eq_true hbc))
  have htotal :
      ∀ a b : SessionEntry, (decide (a.id ≤ b.id) || decide (b.id ≤ a.id)) = true := by
    intro a b
    rw [Bool.or_eq_true, decide_eq_true_eq, decide_eq_true_eq]
    exact UInt64.le_total a.id b.id
  exact (List.pairwise_mergeSort htrans htotal listing).imp of_decide_eq_true

end Listing

section Start

variable {limit : Nat} {layout : Layout} {t : Tracker}

theorem ofLimit?_eq_some_iff :
    ofLimit? limit layout = some t ↔ limit ≤ slotLimit ∧ t = empty limit layout := by
  rw [ofLimit?, Option.ite_none_right_eq_some, Option.some_inj, eq_comm]

theorem numbered_empty
    (limit : Nat) (layout : Layout) :
    (empty limit layout).Numbered :=
  List.nil_subset _

end Start

end Tracker
end FrameBridge
