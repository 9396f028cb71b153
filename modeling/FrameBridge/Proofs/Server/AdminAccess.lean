import FrameBridge.Proofs.Config.Validation
import FrameBridge.Proofs.Http.Route
import FrameBridge.Proofs.Server.Bearer
import FrameBridge.Proofs.Server.Run
import FrameBridge.Server.Router

/-!
# Who gets to the admin routes

Whether there are admin routes is fixed when a server is built, and the key is
read anew for each request.  A valid configuration that enables the routes has
a key of its own, but one that does not enable them may have the placeholder,
and when it is applied to a server with admin routes, the placeholder opens
them.
-/

namespace FrameBridge

namespace Response

variable (response : Response Body) (request : Request)

@[simp] theorem withAllowed_status :
    (response.withAllowed request).status = response.status := by
  unfold withAllowed
  split <;> rfl

@[simp] theorem forRequest_status :
    (response.forRequest request).status = response.status := by
  unfold forRequest
  split <;> rfl

theorem withAllowed_of_isRead
    (hread : request.isRead = true) :
    response.withAllowed request = response :=
  if_pos hread

@[simp] theorem forRequest_forRequest :
    (response.forRequest request).forRequest request = response.forRequest request := by
  unfold forRequest
  split <;> rfl

end Response

namespace Admin

variable {config : Config} {request : Request} (tracker : Tracker) (route : AdminRoute)

/-- Without the key in force, a request is not authorized. -/
theorem respond_of_unauthorized
    (hkey : Bearer.authorizes config.admin.apiKey request.headers = false) :
    (respond config tracker request route).status = 401 := by
  simp [respond, hkey, Response.ofStatus]

theorem respond_of_authorized
    (hkey : Bearer.authorizes config.admin.apiKey request.headers = true)
    (hread : request.isRead = true) :
    respond config tracker request route =
      (Response.ofJson (view config tracker route)).forRequest request := by
  simp [respond, hkey, dispatch, hread, Response.withAllowed_of_isRead]

end Admin

namespace Server

section Endpoints

variable {server : Server} {path : List UInt8} {route : AdminRoute}

/-- There are two admin routes, each at one path. -/
theorem path_of_adminRoute
    (hpath : AdminRoute.ofPath? path = some route) :
    path = Utf8.encodeString statusPath ∨ path = Utf8.encodeString sessionsPath := by
  unfold AdminRoute.ofPath? at hpath
  split at hpath
  · exact .inl ‹_›
  · split at hpath
    · exact .inr ‹_›
    · cases hpath

theorem adminPath_ne_index
    (hpath : AdminRoute.ofPath? path = some route) :
    path ≠ Utf8.encodeString indexPath := by
  rcases path_of_adminRoute hpath with rfl | rfl
  · exact mt Utf8.encodeString_inj.mp (by decide)
  · exact mt Utf8.encodeString_inj.mp (by decide)

/-- The route of a valid relay has none of the admin paths. -/
theorem relay_ne_adminPath
    {config : Config} {relay : Route}
    (hvalid : config.Valid)
    (hrelay : Route.ofPath? config.relay.path = some relay)
    (hpath : AdminRoute.ofPath? path = some route) :
    relay.matchesPath path = false := by
  obtain ⟨-, -, hadmin, hopen, hclose, -⟩ := Config.relayPath_of_valid hvalid
  rw [Route.eq_ofLiteral_of_ofPath? hopen hclose hrelay, Bool.eq_false_iff]
  intro hmatches
  have hsame := Route.matchesPath_ofLiteral.mp hmatches
  rcases path_of_adminRoute hpath with rfl | rfl
  · rw [← Utf8.encodeString_inj.mp hsame] at hadmin
    exact hadmin (by decide)
  · rw [← Utf8.encodeString_inj.mp hsame] at hadmin
    exact hadmin (by decide)

/-- The configuration of the start decides whether there are admin routes. -/
theorem endpoint_of_mounted
    (hmounted : server.startup.admin.enabled = true)
    (hpath : AdminRoute.ofPath? path = some route) :
    server.endpoint? path = some (.admin route) := by
  simp [endpoint?, adminRoute?, adminPath_ne_index hpath, hmounted, hpath]

/-- Without admin routes, nothing is found at a path of neither the index nor the
relay. -/
theorem endpoint_of_unmounted
    (hmounted : server.startup.admin.enabled = false)
    (hrelay : server.route.matchesPath path = false)
    (hindex : path ≠ Utf8.encodeString indexPath) :
    server.endpoint? path = none := by
  simp [endpoint?, adminRoute?, hindex, hmounted, hrelay]

end Endpoints

section Answers

variable {server : Server} {request : Request} {route : AdminRoute}
  (dial : Target → Nat → DialOutcome)

/-- An admin route answers by the configuration in force, not by that of the start. -/
theorem serve_of_mounted
    (hmounted : server.startup.admin.enabled = true)
    (hpath : AdminRoute.ofPath? request.uri.path = some route) :
    (server.serve request dial).response =
      (Admin.respond server.config server.tracker request route).forRequest request := by
  rw [serve, endpoint_of_mounted hmounted hpath]
  rfl

theorem serve_of_unmounted
    (hmounted : server.startup.admin.enabled = false)
    (hrelay : server.route.matchesPath request.uri.path = false)
    (hindex : request.uri.path ≠ Utf8.encodeString indexPath) :
    (server.serve request dial).response.status = 404 := by
  rw [serve, endpoint_of_unmounted hmounted hrelay hindex]
  simp [dispatch, missing, hmounted, Response.ofStatus]

end Answers

end Server

section Placeholder

/-- A request to an admin route that shows the placeholder as its key. -/
structure ShowsPlaceholder (request : Request) (route : AdminRoute) : Prop where
  path_eq : AdminRoute.ofPath? request.uri.path = some route
  first_eq :
    request.headers.get? "authorization" =
      some (Utf8.encodeString ("Bearer " ++ placeholderAdminKey))

variable {request : Request} {route : AdminRoute}

/-- The placeholder is accepted exactly where it is the key. -/
theorem ShowsPlaceholder.authorizes_iff
    (h : ShowsPlaceholder request route) (key : String) :
    Bearer.authorizes key request.headers = true ↔ key = placeholderAdminKey := by
  have htext :
      Header.textOf (Utf8.encodeString ("Bearer " ++ placeholderAdminKey)) =
        some (Bearer.scheme ++ placeholderAdminKey.toList) := by
    decide
  rw [Bearer.authorizes_iff, Bearer.providedKey?_of_first h.first_eq htext,
    Option.some_inj, String.toList_inj, eq_comm]

variable {config : Config} {layout : Layout} {server : Server} {events : List Host.Event}
  {h : Host}

/-- The configuration in force is the one that the server was built from or one
that was applied. -/
theorem valid_of_run
    (hvalid : config.Valid)
    (hupdates : ∀ next ∈ Host.updates events, next.Valid)
    (hrun : Host.run? { server := server } events = some h)
    (hstart : server.config = config) :
    h.server.config.Valid := by
  obtain ⟨-, -, hconfig⟩ := Host.settings_run hrun
  rw [hconfig, hstart]
  have hmem : (Host.updates events).getLastD config ∈ config :: Host.updates events :=
    List.getLastD_mem_cons
  rcases List.mem_cons.mp hmem with heq | hmem
  · rw [heq]
    exact hvalid
  · exact hupdates _ hmem

/-- The placeholder gets nobody to the admin routes of a server that has none,
nor past a key of its own; it is the key only while a configuration is in force
that does not enable the routes, and then it opens those that are there. -/
theorem placeholder_opens_when_disabled
    (dial : Target → Nat → DialOutcome)
    (hvalid : config.Valid)
    (hupdates : ∀ next ∈ Host.updates events, next.Valid)
    (hbuilt : Server.ofConfig? config layout = some server)
    (hrun : Host.run? { server := server } events = some h)
    (hshows : ShowsPlaceholder request route) :
    let response := (h.server.serve request dial).response
    let current := h.server.config
    (config.admin.enabled = false → response.status = 404) ∧
    (config.admin.enabled = true → current.admin.apiKey ≠ placeholderAdminKey →
      response.status = 401) ∧
    (config.admin.enabled = true → current.admin.apiKey = placeholderAdminKey →
      current.admin.enabled = false ∧
      (request.isRead = true →
        response =
          (Response.ofJson (Admin.view current h.server.tracker route)).forRequest request)) := by
  dsimp only
  obtain ⟨tracker, relay, -, hrelay, rfl⟩ := Host.ofConfig?_eq_some hbuilt
  obtain ⟨hstartup, hroute, -⟩ := Host.settings_run hrun
  have hcurrent := valid_of_run hvalid hupdates hrun rfl
  have hkey := hshows.authorizes_iff h.server.config.admin.apiKey
  refine ⟨?_, ?_, ?_⟩
  · intro hdisabled
    refine Server.serve_of_unmounted dial ?_ ?_ (Server.adminPath_ne_index hshows.path_eq)
    · rw [hstartup]
      exact hdisabled
    · rw [hroute]
      exact Server.relay_ne_adminPath hvalid hrelay hshows.path_eq
  · intro henabled hne
    have hmounted : h.server.startup.admin.enabled = true := by
      rw [hstartup]
      exact henabled
    rw [Server.serve_of_mounted dial hmounted hshows.path_eq, Response.forRequest_status]
    exact Admin.respond_of_unauthorized _ _ (Bool.eq_false_iff.mpr (mt hkey.mp hne))
  · intro henabled heq
    have hmounted : h.server.startup.admin.enabled = true := by
      rw [hstartup]
      exact henabled
    refine ⟨?_, ?_⟩
    · -- validation looks at the toggle of the same configuration, not at the routes
      rw [Bool.eq_false_iff]
      intro hcurrentEnabled
      exact (Config.valid_iff_sound.mp hcurrent).adminKey hcurrentEnabled heq
    · intro hread
      rw [Server.serve_of_mounted dial hmounted hshows.path_eq,
        Admin.respond_of_authorized _ _ (hkey.mpr heq) hread, Response.forRequest_forRequest]

/-- The admin routes are enabled, with a key of their own. -/
def guarded : Config where
  admin := { enabled := true, apiKey := "s3cret" }

/-- Somebody asks for the status, with the placeholder as the key. -/
def guess : Request where
  uri := ⟨Utf8.encodeString "/admin/status", none⟩
  headers := [⟨"authorization", Utf8.encodeString "Bearer CHANGE_ME_IN_PRODUCTION"⟩]
  peer := .v4 ⟨127, 0, 0, 1⟩ 40000

theorem shows_guess :
    ShowsPlaceholder guess .status :=
  ⟨by decide, by decide⟩

/-- The default configuration enables no admin routes, and has the placeholder
as its key. -/
theorem valid_defaults :
    ∀ next ∈ Host.updates [.applied {}], next.Valid := by
  intro next hnext
  obtain rfl : next = {} := List.mem_singleton.mp hnext
  rfl

theorem placeholder_opens_when_disabled_guess :
    ∃ server h,
      Server.ofConfig? guarded = some server ∧
      Host.run? { server := server } [.applied {}] = some h ∧
      (guarded.Valid ∧ ∀ next ∈ Host.updates [.applied {}], next.Valid) ∧
      ShowsPlaceholder guess .status ∧
      ∀ dial,
        (h.server.serve guess dial).response =
          Response.ofJson (.status (Admin.status {} h.server.tracker)) := by
  obtain ⟨server, hbuilt⟩ : ∃ server, Server.ofConfig? guarded = some server :=
    ⟨_, rfl⟩
  have hvalid : guarded.Valid := rfl
  refine ⟨server, _, hbuilt, rfl, ⟨hvalid, valid_defaults⟩, shows_guess, fun dial => ?_⟩
  obtain ⟨-, -, hopen⟩ :=
    placeholder_opens_when_disabled dial hvalid valid_defaults hbuilt rfl shows_guess
  exact (hopen rfl rfl).2 rfl

/-- It does not hold that the placeholder never opens the admin routes: a valid
configuration that is applied later opens them. -/
theorem placeholder_gets_status :
    ¬ ∀ (config : Config) (server : Server) (events : List Host.Event) (h : Host)
        (request : Request) (route : AdminRoute) (dial : Target → Nat → DialOutcome),
      config.Valid →
      (∀ next ∈ Host.updates events, next.Valid) →
      Server.ofConfig? config = some server →
      Host.run? { server := server } events = some h →
      ShowsPlaceholder request route →
      (h.server.serve request dial).response.status = 404 ∨
        (h.server.serve request dial).response.status = 401 := by
  intro hnever
  obtain ⟨server, hbuilt⟩ : ∃ server, Server.ofConfig? guarded = some server :=
    ⟨_, rfl⟩
  have hanswer :=
    hnever guarded server [.applied {}] _ guess .status (fun _ _ => .timedOut) rfl
      valid_defaults hbuilt rfl shows_guess
  cases hbuilt
  revert hanswer
  decide

end Placeholder
end FrameBridge
