import FrameBridge.Proofs.Http.Header
import FrameBridge.Proofs.Server.Status

/-!
# What a caller without the key gets to know

A visit is a `GET` request to an admin route of a server that has them, after
whatever happened to the server before.  The route is shown exactly if the first
`Authorization` line is printable and has the key in force behind the scheme,
with nothing missing and nothing added.  All other visitors get one and the same
answer, so that they cannot tell two servers from one another.
-/

namespace FrameBridge

namespace Bearer

/-- The first `Authorization` line is printable, and shows a key. -/
def Shows (headers : Headers) (key : String) : Prop :=
  ∃ front value back,
    headers = front ++ ⟨"authorization", value⟩ :: back ∧
    (∀ h ∈ front, h.name ≠ "authorization") ∧
    Header.Printable value ∧
    value = Utf8.encodeString ("Bearer " ++ key)

variable {headers : Headers} {key key' : String}

/-- The bytes of a text that was read are those of the line, and no two texts
have the same bytes. -/
theorem authorizes_iff_shows :
    authorizes key headers = true ↔ Shows headers key := by
  rw [authorizes_iff, providedKey?_eq_some_iff, Headers.text?, Option.bind_eq_bind,
    Option.bind_eq_some_iff]
  have hkey : Utf8.encode (scheme ++ key.toList) = Utf8.encodeString ("Bearer " ++ key) := by
    rw [Utf8.encodeString, String.toList_append]
    rfl
  constructor
  · rintro ⟨value, hfirst, htext⟩
    obtain ⟨front, back, hheaders, hfront⟩ := Headers.get?_eq_some_iff.mp hfirst
    obtain ⟨hprintable, hvalue⟩ := Header.textOf_eq_some_iff.mp htext
    exact ⟨front, value, back, hheaders, hfront, hprintable, hvalue.trans hkey⟩
  · rintro ⟨front, value, back, hheaders, hfront, hprintable, hvalue⟩
    exact
      ⟨value, Headers.get?_eq_some_iff.mpr ⟨front, back, hheaders, hfront⟩,
        Header.textOf_eq_some_iff.mpr ⟨hprintable, hvalue.trans hkey.symm⟩⟩

/-- A request shows one key at most. -/
theorem Shows.unique
    (h : Shows headers key) (h' : Shows headers key') :
    key = key' := by
  have hkey := authorizes_iff.mp (authorizes_iff_shows.mpr h)
  have hkey' := authorizes_iff.mp (authorizes_iff_shows.mpr h')
  rw [hkey, Option.some_inj, String.toList_inj] at hkey'
  exact hkey'

end Bearer

/-- A `GET` request to an admin route of a server that has them, after some events.
At first the server has whatever sessions; `host` is what has become of it when
the request comes. -/
structure AdminVisit where
  server : Server
  events : List Host.Event
  host : Host
  request : Request
  route : AdminRoute
  dial : Target → Nat → DialOutcome
  mounted : server.startup.admin.enabled = true
  run_eq : Host.run? { server := server } events = some host
  method_eq : request.method = "GET"
  path_eq : AdminRoute.ofPath? request.uri.path = some route

namespace AdminVisit

/-- The configuration in force when the request comes: the one applied last. -/
def config (v : AdminVisit) : Config :=
  (Host.updates v.events).getLastD v.server.config

def response (v : AdminVisit) : Response Body :=
  (v.host.server.serve v.request v.dial).response

/-- What the route shows to those with the key. -/
def shown (v : AdminVisit) : Response Body :=
  Response.ofJson (Admin.view v.config v.host.server.tracker v.route)

/-- The request shows the key in force. -/
def HasKey (v : AdminVisit) : Prop :=
  Bearer.Shows v.request.headers v.config.admin.apiKey

variable {v : AdminVisit}

/-- The key is looked up in the configuration in force, whatever was in force
before. -/
theorem response_eq :
    v.response =
      (Admin.respond v.config v.host.server.tracker v.request v.route).forRequest v.request := by
  obtain ⟨hstartup, -, hconfig⟩ := Host.settings_run v.run_eq
  have hmounted : v.host.server.startup.admin.enabled = true := by
    rw [hstartup]
    exact v.mounted
  rw [response, Server.serve_of_mounted v.dial hmounted v.path_eq, hconfig]
  rfl

theorem isRead :
    v.request.isRead = true := by
  simp [Request.isRead, v.method_eq]

theorem forRequest_eq
    (response : Response Body) :
    response.forRequest v.request = response := by
  simp [Response.forRequest, Request.isHead, v.method_eq]

theorem response_of_hasKey
    (hkey : v.HasKey) :
    v.response = v.shown := by
  rw [response_eq, forRequest_eq,
    Admin.respond_of_authorized _ _ (Bearer.authorizes_iff_shows.mpr hkey) isRead, forRequest_eq,
    shown]

/-- The answer to those without the key says nothing but its status. -/
theorem response_of_refused
    (hkey : ¬ v.HasKey) :
    v.response = Response.ofStatus 401 := by
  have hrefused : ¬ Bearer.authorizes v.config.admin.apiKey v.request.headers = true :=
    mt Bearer.authorizes_iff_shows.mp hkey
  rw [response_eq, Admin.respond, if_neg hrefused, Response.withAllowed_of_isRead _ _ isRead,
    forRequest_eq, forRequest_eq]

/-- A refusal is no view of any route, so what is shown tells who had the key. -/
theorem shown_iff_hasKey :
    v.response = v.shown ↔ v.HasKey := by
  refine ⟨fun hshown => ?_, response_of_hasKey⟩
  by_contra hkey
  rw [response_of_refused hkey] at hshown
  have hstatus : 401 = 200 := congrArg Response.status hshown
  cases hstatus

end AdminVisit

section Results

/-- A visitor is shown the route exactly with the key in force, and is refused
otherwise.  No two visitors who are refused can be told apart, whatever happened
to their servers, whatever sessions these have, whichever routes they ask for
and whatever they show. -/
theorem admin_authentication_exact
    (v w : AdminVisit) :
    (v.response = v.shown ↔ Bearer.Shows v.request.headers v.config.admin.apiKey) ∧
    (¬ Bearer.Shows v.request.headers v.config.admin.apiKey → v.response.status = 401) ∧
    (¬ Bearer.Shows v.request.headers v.config.admin.apiKey →
      ¬ Bearer.Shows w.request.headers w.config.admin.apiKey →
      v.response.status = w.response.status ∧ v.response.body = w.response.body) := by
  refine ⟨AdminVisit.shown_iff_hasKey, ?_, ?_⟩
  · intro hkey
    rw [AdminVisit.response_of_refused hkey]
    rfl
  · intro hv hw
    rw [AdminVisit.response_of_refused hv, AdminVisit.response_of_refused hw]
    exact ⟨rfl, rfl⟩

/-- The guarded configuration with another key. -/
def rekeyed : Config :=
  { guarded with admin := { enabled := true, apiKey := "other" } }

/-- Somebody asks a new server for the status, with the key. -/
def firstVisit : AdminVisit where
  server := Server.atLiteral guarded
  events := []
  host := { server := Server.atLiteral guarded }
  request := inquiry
  route := .status
  dial := fun _ _ => .timedOut
  mounted := rfl
  run_eq := rfl
  method_eq := rfl
  path_eq := by decide

/-- The same request comes again after the key has changed. -/
def lateVisit : AdminVisit :=
  { firstVisit with
    events := [.applied rekeyed]
    host := { server := (Server.atLiteral guarded).applyUpdate rekeyed }
    run_eq := rfl }

/-- Somebody guesses the key while a session is running. -/
def guessingVisit : AdminVisit :=
  { firstVisit with
    events := moving
    host := (Host.run? { server := Server.atLiteral guarded } moving).get rfl
    request := guess
    run_eq := rfl
    method_eq := rfl
    path_eq := by decide }

theorem shows_inquiry :
    Bearer.Shows inquiry.headers "s3cret" :=
  ⟨[], _, [], rfl, nofun, by decide, rfl⟩

theorem hasKey_firstVisit :
    firstVisit.HasKey :=
  shows_inquiry

theorem not_hasKey_lateVisit :
    ¬ lateVisit.HasKey := by
  intro hkey
  exact absurd (shows_inquiry.unique hkey) (by decide)

theorem not_hasKey_guessingVisit :
    ¬ guessingVisit.HasKey := by
  intro hkey
  have hguess : Bearer.Shows guess.headers placeholderAdminKey :=
    ⟨[], _, [], rfl, nofun, by decide, rfl⟩
  exact absurd (hguess.unique hkey) (by decide)

theorem admin_authentication_exact_rekeyed :
    firstVisit.response = firstVisit.shown ∧
      lateVisit.request = firstVisit.request ∧
      lateVisit.response.status = 401 ∧
      guessingVisit.host.running = [1] ∧
      lateVisit.response.body = guessingVisit.response.body := by
  obtain ⟨hshown, -, -⟩ := admin_authentication_exact firstVisit firstVisit
  obtain ⟨-, hstatus, hsame⟩ := admin_authentication_exact lateVisit guessingVisit
  exact
    ⟨hshown.mpr hasKey_firstVisit, rfl, hstatus not_hasKey_lateVisit, rfl,
      (hsame not_hasKey_lateVisit not_hasKey_guessingVisit).2⟩

end Results
end FrameBridge
