import FrameBridge.Proofs.Server.AdminAccess
import FrameBridge.Proofs.Server.Servable

/-!
# What the status tells

A status is put together from what several owners know.  The number of sessions
and their limit come from the tracker, which enforces the limit.  The remote and
whether requests may name a target come from the configuration in force, by
which targets are resolved.

The path of the relay comes from there as well, but requests find the relay by
the route that was fixed when the server was built.  So the path is right until
a configuration with another path is applied, and then nothing answers at the
path that is shown.
-/

namespace FrameBridge

namespace Server

/-- The relay answers requests for a path, and for no other path. -/
def RoutesAt (server : Server) (path : String) : Prop :=
  ∀ bytes, server.endpoint? bytes = some .relay ↔ bytes = Utf8.encodeString path

/-- Requests to the relay get the targets and the rejections of a policy. -/
structure ResolvesUnder (server : Server) (policy : RelayPolicy) : Prop where
  refused :
    ∀ request verdict dial rejection,
      policy.resolve request.headers request.uri = .error rejection →
      (server.relayChecked request verdict dial).reply = .refused rejection ∧
        (server.relayChecked request verdict dial).dialed = []
  dialed :
    ∀ request verdict dial target,
      target ∈ (server.relayChecked request verdict dial).dialed →
      policy.resolve request.headers request.uri = .ok target
  connected :
    ∀ request dial target,
      policy.resolve request.headers request.uri = .ok target →
      0 < server.tracker.free →
      (server.relayChecked request (.ok ()) dial).dialed = [target]

/-- A request for the status that shows the key in force. -/
structure AsksStatus (server : Server) (request : Request) : Prop where
  method_eq : request.method = "GET"
  path_eq : AdminRoute.ofPath? request.uri.path = some .status
  key_eq : Bearer.authorizes server.config.admin.apiKey request.headers = true

section Paths

variable {server : Server} {config : Config} {path path' : String} {bytes : List UInt8}

theorem matchesPath_of_endpoint
    (hendpoint : server.endpoint? bytes = some .relay) :
    server.route.matchesPath bytes = true := by
  unfold endpoint? at hendpoint
  split at hendpoint
  · cases hendpoint
  · split at hendpoint
    · cases hendpoint
    · exact (Option.ite_none_right_eq_some.mp hendpoint).1

/-- At the path of a valid configuration there is the relay or nothing. -/
theorem endpoint_of_valid
    (server : Server)
    (hvalid : config.Valid) :
    server.endpoint? (Utf8.encodeString config.relay.path) =
      if server.route.matchesPath (Utf8.encodeString config.relay.path) then
        some .relay
      else
        none := by
  have hfree : config.relay.path ∉ takenPaths true := notMem_takenPaths hvalid
  have hindex : Utf8.encodeString config.relay.path ≠ Utf8.encodeString indexPath := by
    rw [Ne, Utf8.encodeString_inj]
    intro heq
    exact hfree (heq ▸ List.mem_cons_self)
  have hadmin : server.adminRoute? (Utf8.encodeString config.relay.path) = none := by
    cases hroute : AdminRoute.ofPath? (Utf8.encodeString config.relay.path) with
    | none =>
        simp [adminRoute?, hroute]
    | some route =>
        refine absurd ?_ hfree
        rcases path_of_adminRoute hroute with hpath | hpath <;>
          rw [Utf8.encodeString_inj.mp hpath] <;> decide
  rw [endpoint?, if_neg hindex, hadmin]

/-- The relay has one path. -/
theorem RoutesAt.unique
    (h : server.RoutesAt path) (h' : server.RoutesAt path') :
    path = path' :=
  Utf8.encodeString_inj.mp ((h' _).mp ((h _).mpr rfl))

/-- The relay of a server that was built keeps its path. -/
theorem routesAt_of_literal
    (hvalid : config.Valid)
    (hroute : server.route = Route.ofLiteral config.relay.path) :
    server.RoutesAt config.relay.path := by
  intro bytes
  constructor
  · intro hendpoint
    have hmatches := matchesPath_of_endpoint hendpoint
    rw [hroute] at hmatches
    exact Route.matchesPath_ofLiteral.mp hmatches
  · rintro rfl
    rw [endpoint_of_valid server hvalid, hroute, if_pos (Route.matchesPath_ofLiteral.mpr rfl)]

end Paths

section Answers

variable {server : Server} {request : Request}

/-- A request goes by the policy in force, however it is decided. -/
theorem resolvesUnder_config
    (server : Server) :
    server.ResolvesUnder server.config.relay where
  refused request verdict dial rejection hresolve :=
    (server.inOrder_relayChecked request verdict dial).unresolved rejection hresolve
  dialed request verdict dial target hdialed := by
    have horder := server.inOrder_relayChecked request verdict dial
    cases hresolve : server.config.relay.resolve request.headers request.uri with
    | error rejection =>
        rw [(horder.unresolved rejection hresolve).2] at hdialed
        cases hdialed
    | ok other =>
        cases verdict with
        | error e =>
            rw [(horder.badHandshake other e hresolve rfl).2] at hdialed
            cases hdialed
        | ok =>
            rcases Nat.eq_zero_or_pos server.tracker.free with hfull | hroom
            · rw [(horder.full other hresolve rfl hfull).2] at hdialed
              cases hdialed
            · rw [(horder.connect other hresolve rfl hroom).2, List.mem_singleton] at hdialed
              rw [hdialed]
  connected request dial target hresolve hroom :=
    ((server.inOrder_relayChecked request (.ok ()) dial).connect target hresolve rfl hroom).2

theorem serve_status
    (dial : Target → Nat → DialOutcome)
    (hmounted : server.startup.admin.enabled = true)
    (hasks : server.AsksStatus request) :
    (server.serve request dial).response =
      Response.ofJson (.status (Admin.status server.config server.tracker)) := by
  have hread : request.isRead = true := by
    simp [Request.isRead, hasks.method_eq]
  have hhead : request.isHead = false := by
    simp [Request.isHead, hasks.method_eq]
  rw [serve_of_mounted dial hmounted hasks.path_eq,
    Admin.respond_of_authorized _ _ hasks.key_eq hread, Response.forRequest_forRequest]
  simp [Response.forRequest, hhead, Admin.view]

end Answers

end Server

/-- What a status says of the sessions and of the targets is so, the number of
sessions as long as no number of a session was drawn twice. -/
structure SystemStatus.Accurate (status : SystemStatus) (h : Host) : Prop where
  activeSessions :
    h.server.tracker.drawn < 2 ^ 64 →
    status.activeSessions = h.running.length
  maxSessions :
    ∀ peer target,
      (h.server.tracker.accept peer target).1.isSome = true ↔
        h.running.length < status.maxSessions
  policy :
    ∃ policy : RelayPolicy,
      policy.remote = status.remote ∧
      policy.allowClientTarget = status.allowClientTarget ∧
      h.server.ResolvesUnder policy

section Results

variable {config : Config} {layout : Layout} {server : Server} {events : List Host.Event}
  {h : Host} {request : Request}

/-- The status is read from the tracker and from the configuration in force. -/
theorem accurate_status
    {limit : Nat}
    (hbalanced : h.Balanced limit) :
    (Admin.status h.server.config h.server.tracker).Accurate h where
  activeSessions hbound := by
    rw [← (hbalanced.live hbound).length_eq, List.length_map]
    rfl
  maxSessions peer target := by
    have hslots := hbalanced.slots
    have hlimit : (Admin.status h.server.config h.server.tracker).maxSessions = limit :=
      hbalanced.limit_eq
    rw [Option.isSome_iff_ne_none, Ne, Tracker.accept_eq_none_iff, hlimit]
    omega
  policy := ⟨h.server.config.relay, rfl, rfl, h.server.resolvesUnder_config⟩

/-- The route that was fixed at the start is that of the path at the start, and
of no other. -/
theorem routesAt_of_run
    (hvalid : config.Valid)
    (hbuilt : Server.ofConfig? config layout = some server)
    (hrun : Host.run? { server := server } events = some h) :
    h.server.RoutesAt config.relay.path := by
  obtain ⟨-, rfl⟩ := (Server.ofConfig?_eq_some_iff hvalid).mp hbuilt
  obtain ⟨-, hroute, -⟩ := Host.settings_run hrun
  exact Server.routesAt_of_literal hvalid hroute

theorem startup_of_run
    (hbuilt : Server.ofConfig? config layout = some server)
    (hrun : Host.run? { server := server } events = some h) :
    h.server.startup = config := by
  obtain ⟨tracker, route, -, -, rfl⟩ := Host.ofConfig?_eq_some hbuilt
  exact (Host.settings_run hrun).1

/-- Whatever was applied to a server with admin routes, and whatever sessions
live, the status is right about the sessions, their limit, the remote and
whether requests may name a target.  The path it shows is that of the
configuration applied last.  The relay answers at this path if it is the one at
the start, and otherwise nothing does. -/
theorem status_right_but_path
    (dial : Target → Nat → DialOutcome)
    (hvalid : config.Valid)
    (hupdates : ∀ next ∈ Host.updates events, next.Valid)
    (henabled : config.admin.enabled = true)
    (hbuilt : Server.ofConfig? config layout = some server)
    (hrun : Host.run? { server := server } events = some h)
    (hasks : h.server.AsksStatus request) :
    ∃ status : SystemStatus,
      (h.server.serve request dial).response = Response.ofJson (.status status) ∧
      status.Accurate h ∧
      status.relayPath = ((Host.updates events).getLastD config).relay.path ∧
      h.server.RoutesAt config.relay.path ∧
      (h.server.RoutesAt status.relayPath ↔ status.relayPath = config.relay.path) ∧
      (status.relayPath ≠ config.relay.path →
        h.server.endpoint? (Utf8.encodeString status.relayPath) = none) := by
  have hstartup := startup_of_run hbuilt hrun
  have hmounted : h.server.startup.admin.enabled = true := by
    rw [hstartup]
    exact henabled
  have hstart : server.config = config := by
    obtain ⟨tracker, route, -, -, rfl⟩ := Host.ofConfig?_eq_some hbuilt
    rfl
  have hcurrent := valid_of_run hvalid hupdates hrun hstart
  have hroutes := routesAt_of_run hvalid hbuilt hrun
  refine
    ⟨Admin.status h.server.config h.server.tracker, Server.serve_status dial hmounted hasks,
      accurate_status ((Host.balanced_of_built hbuilt).run hrun), ?_, hroutes, ?_, ?_⟩
  · obtain ⟨-, -, hconfig⟩ := Host.settings_run hrun
    rw [← hstart, ← hconfig]
    rfl
  · constructor
    · intro hshown
      exact hshown.unique hroutes
    · intro hsame
      rw [hsame]
      exact hroutes
  · intro hmoved
    have hshown := Server.endpoint_of_valid h.server hcurrent
    refine hshown.trans (if_neg fun hmatches => hmoved ?_)
    rw [if_pos hmatches] at hshown
    exact Utf8.encodeString_inj.mp ((hroutes _).mp hshown)

/-- The relay of the guarded configuration has another path. -/
def moved : Config :=
  { guarded with relay := { path := "/moved" } }

/-- Somebody asks for the status, with the key. -/
def inquiry : Request where
  uri := ⟨Utf8.encodeString "/admin/status", none⟩
  headers := [⟨"authorization", Utf8.encodeString "Bearer s3cret"⟩]
  peer := .v4 ⟨127, 0, 0, 1⟩ 40000

/-- A session begins after the relay was moved. -/
def moving : List Host.Event :=
  [.applied moved, .request Host.visit (.ok ()) fun _ _ => .connected ⟨0, 0⟩]

theorem valid_moving :
    guarded.Valid ∧ ∀ next ∈ Host.updates moving, next.Valid := by
  refine ⟨rfl, fun next hnext => ?_⟩
  obtain rfl : next = moved := List.mem_singleton.mp hnext
  rfl

/-- The server still has the admin routes, and the other path is in force. -/
theorem run_moving :
    ∃ server h,
      Server.ofConfig? guarded = some server ∧
      Host.run? { server := server } moving = some h ∧
      h.server.AsksStatus inquiry ∧
      h.running = [1] ∧
      h.server.tracker.drawn = 1 ∧
      h.server.startup.admin.enabled = true ∧
      h.server.config.relay.path = "/moved" := by
  obtain ⟨server, hbuilt⟩ : ∃ server, Server.ofConfig? guarded = some server :=
    ⟨_, rfl⟩
  obtain ⟨h, hrun⟩ : ∃ h, Host.run? { server := server } moving = some h := by
    cases hbuilt
    exact ⟨_, rfl⟩
  refine ⟨server, h, hbuilt, hrun, ?_⟩
  cases hbuilt
  cases hrun
  exact ⟨⟨rfl, by decide, by decide⟩, rfl, rfl, rfl, rfl⟩

theorem status_right_but_path_moved :
    ∃ server h status,
      Server.ofConfig? guarded = some server ∧
      Host.run? { server := server } moving = some h ∧
      h.server.AsksStatus inquiry ∧
      (h.server.serve inquiry fun _ _ => .timedOut).response =
        Response.ofJson (.status status) ∧
      status.activeSessions = 1 ∧
      status.relayPath = "/moved" ∧
      h.server.endpoint? (Utf8.encodeString "/moved") = none := by
  obtain ⟨server, h, hbuilt, hrun, hasks, hrunning, hdrawn, -⟩ := run_moving
  obtain ⟨status, hresponse, haccurate, hpath, -, -, hnothing⟩ :=
    status_right_but_path (fun _ _ => .timedOut) valid_moving.1 valid_moving.2 rfl hbuilt hrun hasks
  have hmoved : status.relayPath = "/moved" :=
    hpath
  refine ⟨server, h, status, hbuilt, hrun, hasks, hresponse, ?_, hmoved, ?_⟩
  · rw [haccurate.activeSessions (by omega), hrunning]
    rfl
  · rw [hmoved] at hnothing
    exact hnothing (by decide)

/-- It does not hold that the status is right after every run. -/
theorem status_path_goes_wrong :
    ¬ ∀ (config : Config) (server : Server) (events : List Host.Event) (h : Host)
        (request : Request) (dial : Target → Nat → DialOutcome),
      config.Valid →
      (∀ next ∈ Host.updates events, next.Valid) →
      config.admin.enabled = true →
      Server.ofConfig? config = some server →
      Host.run? { server := server } events = some h →
      h.server.AsksStatus request →
      ∃ status : SystemStatus,
        (h.server.serve request dial).response = Response.ofJson (.status status) ∧
        status.Accurate h ∧
        h.server.RoutesAt status.relayPath := by
  intro hright
  obtain ⟨server, h, hbuilt, hrun, hasks, -, -, hmounted, hshown⟩ := run_moving
  obtain ⟨status, hresponse, -, hroutes⟩ :=
    hright guarded server moving h inquiry (fun _ _ => .timedOut) valid_moving.1 valid_moving.2
      rfl hbuilt hrun hasks
  rw [Server.serve_status _ hmounted hasks] at hresponse
  cases hresponse
  have hsame := hroutes.unique (routesAt_of_run valid_moving.1 hbuilt hrun)
  rw [show (Admin.status h.server.config h.server.tracker).relayPath = "/moved" from hshown] at hsame
  exact absurd hsame (by decide)

end Results
end FrameBridge
