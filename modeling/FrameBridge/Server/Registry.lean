import FrameBridge.Address.Socket
import FrameBridge.Relay.Stats
import FrameBridge.Target

/-!
# The registry of live sessions

A registry maps the numbers of the live sessions to what is known of them.  It
is a hash map, and hash maps list their entries in no order that one can rely
on.  So a registry comes with a `Layout`, which says in what order the entries
stand after one of them was inserted.  What is true of every layout does not
depend on this order.
-/

namespace FrameBridge

/-- The number of a session.  Numbers are words, and zero follows the last one. -/
abbrev SessionId := UInt64

structure SessionEntry where
  id : SessionId
  peer : SocketAddress
  target : Target
  stats : Stats := {}

namespace SessionEntry

def name (entry : SessionEntry) : String :=
  "sess-" ++ String.ofList (Nat.toDigits 10 entry.id.toNat)

abbrev ids (entries : List SessionEntry) : List SessionId :=
  entries.map SessionEntry.id

end SessionEntry

/-- The order in which a map puts its entries. -/
structure Layout where
  arrange : List SessionEntry → List SessionEntry
  perm : ∀ entries, (arrange entries).Perm entries

/-- Entries stay where they are, and a new one stands in front of them. -/
def Layout.newestFirst : Layout where
  arrange entries := entries
  perm entries := .refl entries

/-- The entries of the live sessions, with no number twice. -/
structure Registry where
  layout : Layout
  entries : List SessionEntry := []
  distinct : (SessionEntry.ids entries).Nodup := by exact List.nodup_nil

namespace Registry

/-- Makes an entry.  It takes the place of an entry with the same number. -/
def insert (registry : Registry) (entry : SessionEntry) : Registry where
  layout := registry.layout
  entries :=
    registry.layout.arrange
      (entry :: registry.entries.filter fun other => other.id != entry.id)
  distinct := by
    refine ((registry.layout.perm _).map SessionEntry.id).symm.nodup ?_
    refine List.nodup_cons.mpr ⟨fun hmem => ?_, ?_⟩
    · obtain ⟨other, hother, hid⟩ := List.mem_map.mp hmem
      exact bne_iff_ne.mp (List.mem_filter.mp hother).2 hid
    · exact registry.distinct.sublist (List.filter_sublist.map _)

def remove (registry : Registry) (id : SessionId) : Registry where
  layout := registry.layout
  entries := registry.entries.filter fun entry => entry.id != id
  distinct := registry.distinct.sublist (List.filter_sublist.map _)

/-- An entry with a change of its statistics, if it is the one with a number. -/
def changed (id : SessionId) (change : Stats.Change) (entry : SessionEntry) : SessionEntry :=
  if entry.id = id then { entry with stats := entry.stats.apply change } else entry

@[simp] theorem changed_id
    (id : SessionId) (change : Stats.Change) (entry : SessionEntry) :
    (changed id change entry).id = entry.id := by
  unfold changed
  split <;> rfl

theorem ids_changed
    (id : SessionId) (change : Stats.Change) (entries : List SessionEntry) :
    SessionEntry.ids (entries.map (changed id change)) = SessionEntry.ids entries := by
  rw [SessionEntry.ids, List.map_map]
  exact List.map_congr_left fun entry _ => changed_id id change entry

def changeStats (registry : Registry) (id : SessionId) (change : Stats.Change) : Registry where
  layout := registry.layout
  entries := registry.entries.map (changed id change)
  distinct := by
    rw [ids_changed]
    exact registry.distinct

end Registry
end FrameBridge
