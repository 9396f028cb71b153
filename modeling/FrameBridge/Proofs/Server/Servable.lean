import FrameBridge.Lifecycle.Startup
import FrameBridge.Proofs.Config.Validation
import FrameBridge.Proofs.Http.Route
import FrameBridge.Proofs.Tracker.Operations

/-!
# Which configurations have a server

Validation looks at the path of the relay sign by sign: it must come from the
root, may not be taken by another route, and has no braces and no stars.  One
thing that no route can be read from is left: a segment that begins with a
colon.  Every other valid configuration has a server, and its relay has the
written path as its only path.
-/

namespace FrameBridge
namespace Server

/-- The server of a configuration whose relay has one path. -/
def atLiteral (config : Config) (layout : Layout := .newestFirst) : Server where
  startup := config
  live := { current := config }
  route := Route.ofLiteral config.relay.path
  tracker := Tracker.empty config.listener.maxSessions layout

section Paths

variable {path : String} {hasAdmin : Bool}

/-- A path that is taken is the index, or begins as those of the admin. -/
theorem eq_index_or_below_admin
    (htaken : path ∈ takenPaths hasAdmin) :
    path = indexPath ∨ "/admin".toList <+: path.toList := by
  rcases List.mem_cons.mp htaken with rfl | hadmin
  · exact .inl rfl
  · cases hasAdmin with
    | false =>
        cases hadmin
    | true =>
        rcases List.mem_pair.mp hadmin with rfl | rfl
        · exact .inr (by decide)
        · exact .inr (by decide)

/-- Validation leaves no path that another route has. -/
theorem notMem_takenPaths
    {config : Config}
    (hvalid : config.Valid) :
    config.relay.path ∉ takenPaths hasAdmin := by
  obtain ⟨-, hindex, hadmin, -⟩ := Config.relayPath_of_valid hvalid
  intro htaken
  rcases eq_index_or_below_admin htaken with heq | hbelow
  · rw [heq] at hindex
    exact hindex (by decide)
  · exact hadmin hbelow

end Paths

section Validated

variable {config : Config} {layout : Layout}

theorem ofLimit?_of_valid
    (hvalid : config.Valid) :
    Tracker.ofLimit? config.listener.maxSessions layout =
      some (Tracker.empty config.listener.maxSessions layout) :=
  Tracker.ofLimit?_eq_some_iff.mpr ⟨(Config.valid_iff_sound.mp hvalid).maxSessions.2, rfl⟩

theorem ofPath?_of_valid
    (hvalid : config.Valid) :
    (['/', ':'] <:+: config.relay.path.toList → Route.ofPath? config.relay.path = none) ∧
    (¬ ['/', ':'] <:+: config.relay.path.toList →
      Route.ofPath? config.relay.path = some (Route.ofLiteral config.relay.path)) := by
  obtain ⟨hroot, -, -, hopen, hclose, hstar⟩ := Config.relayPath_of_valid hvalid
  have hnone := Route.ofPath?_eq_none_iff hroot hopen hclose hstar
  refine ⟨hnone.mpr, fun hcolon => ?_⟩
  obtain ⟨route, hroute⟩ := Option.ne_none_iff_exists'.mp (mt hnone.mp hcolon)
  rw [hroute, Route.eq_ofLiteral_of_ofPath? hopen hclose hroute]

/-- No server can be built if a segment begins with a colon. -/
theorem ofConfig?_of_colon
    (hvalid : config.Valid)
    (hcolon : ['/', ':'] <:+: config.relay.path.toList) :
    ofConfig? config layout = none := by
  rw [ofConfig?, ofLimit?_of_valid hvalid, (ofPath?_of_valid hvalid).1 hcolon]
  rfl

/-- Every other valid configuration has a server whose relay has one path. -/
theorem ofConfig?_of_plain
    (hvalid : config.Valid)
    (hplain : ¬ ['/', ':'] <:+: config.relay.path.toList) :
    ofConfig? config layout = some (atLiteral config layout) := by
  have hfree :
      ((takenPaths config.admin.enabled).any fun path =>
        Route.ofLiteral path == Route.ofLiteral config.relay.path) = false := by
    rw [List.any_eq_false]
    intro path htaken
    rw [beq_iff_eq, Route.ofLiteral_inj]
    rintro rfl
    exact notMem_takenPaths hvalid htaken
  rw [ofConfig?, ofLimit?_of_valid hvalid, (ofPath?_of_valid hvalid).2 hplain]
  exact if_neg (by rw [hfree]; exact Bool.false_ne_true)

theorem ofConfig?_eq_some_iff
    {server : Server}
    (hvalid : config.Valid) :
    ofConfig? config layout = some server ↔
      ¬ ['/', ':'] <:+: config.relay.path.toList ∧ server = atLiteral config layout := by
  by_cases hcolon : ['/', ':'] <:+: config.relay.path.toList
  · simp [ofConfig?_of_colon hvalid hcolon, hcolon]
  · simp [ofConfig?_of_plain hvalid hcolon, hcolon, eq_comm]

/-- Without a server there is nothing to start, whatever the files are. -/
theorem start_of_none
    {files : String → FileContent} {server : Server}
    (hnone : ofConfig? config = none) :
    start config files ≠ .ok server := by
  intro hstart
  unfold start at hstart
  rw [hnone] at hstart
  cases hlog : setUpLog config with
  | error cause =>
      rw [hlog] at hstart
      cases hstart
  | ok filter =>
      rw [hlog] at hstart
      cases hbind :
          (Listener.bind config.listener.bindAddress).mapError StartupError.listener with
      | error cause =>
          rw [hbind] at hstart
          cases hstart
      | ok address =>
          rw [hbind] at hstart
          cases hstart

/-- A valid configuration has a server exactly if no segment of its relay path
begins with a colon.  This server listens, limits and routes as the
configuration says. -/
theorem valid_served_unless_colon
    (layout : Layout)
    (hvalid : config.Valid) :
    (¬ ['/', ':'] <:+: config.relay.path.toList →
      ofConfig? config layout = some (atLiteral config layout)) ∧
    (['/', ':'] <:+: config.relay.path.toList →
      ofConfig? config layout = none ∧
        ∀ (files : String → FileContent) (server : Server),
          start config files ≠ .ok server) := by
  refine ⟨ofConfig?_of_plain hvalid, fun hcolon => ?_⟩
  exact
    ⟨ofConfig?_of_colon hvalid hcolon,
      fun files server => start_of_none (ofConfig?_of_colon hvalid hcolon)⟩

/-- A relay whose path has a segment that begins with a colon. -/
def roomPath : Config where
  relay := { path := "/:room" }

theorem valid_served_unless_colon_room :
    roomPath.Valid ∧
      ['/', ':'] <:+: roomPath.relay.path.toList ∧
      ofConfig? roomPath = none := by
  have hvalid : roomPath.Valid := rfl
  have hcolon : ['/', ':'] <:+: roomPath.relay.path.toList := by
    decide
  exact ⟨hvalid, hcolon, ((valid_served_unless_colon .newestFirst hvalid).2 hcolon).1⟩

/-- It does not hold that every valid configuration has a server. -/
theorem valid_unserved :
    ¬ ∀ config : Config, config.Valid → ∃ server, ofConfig? config = some server := by
  intro hserved
  obtain ⟨server, hbuilt⟩ := hserved roomPath rfl
  have hnone : ofConfig? roomPath = none := by
    decide
  rw [hnone] at hbuilt
  cases hbuilt

end Validated

end Server
end FrameBridge
