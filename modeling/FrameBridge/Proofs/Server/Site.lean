import FrameBridge.Proofs.Server.Stages
import Mathlib.Data.List.Induction

/-!
# Watched servers

Events of the watched directory, versions that are applied, and requests to the
relay come in any order.  A request makes its steps one at a time, so versions
can be applied while it is on its way.

What every event preserves is that the versions that were put in force, followed
by those that wait, are the accepted ones in the order in which they were read
(`act_versions`).
-/

namespace FrameBridge

/-- A request on its way, with the configuration that it loaded when it came.  Once it
is admitted, it has a session that connects to a target. -/
structure Visit where
  request : Request
  verdict : Except HandshakeError Unit
  dial : Target → Nat → DialOutcome
  version : Config
  connecting? : Option (SessionId × Target) := none

/-- What was seen of a request that was on its way. -/
structure Answer where
  visit : Visit
  seen : RelayReply × List Target

/-- A server that is watched: the requests on their way, what was seen of the
others, the sessions that run, and the versions that were put in force. -/
structure Site where
  server : Server
  visits : List Visit := []
  answers : List Answer := []
  running : List SessionId := []
  applied : List Config := []

namespace Site

/-- Something that happens at a site.  Applied is the oldest version that waits, and a
request that arrives loads the configuration in force. -/
inductive Event where
  | file (event : FileEvent) (content : FileContent)
  | apply
  | arrive (request : Request) (verdict : Except HandshakeError Unit)
      (dial : Target → Nat → DialOutcome)
  | proceed (index : Nat)
  | ended (session : SessionId)

/-- The version that an event brings. -/
def Event.accepted? (watched : Option String) : Event → Option Config
  | file event content => Config.reloaded? watched event content
  | _ => none

/-- The versions that events bring, in the order in which they are read. -/
def accepted (watched : Option String) (events : List Event) : List Config :=
  events.filterMap (Event.accepted? watched)

/-- The state after a request on its way was answered. -/
def answer (site : Site) (index : Nat) (visit : Visit) (outcome : RelayOutcome) : Site :=
  { site with
    server := outcome.server
    visits := site.visits.eraseIdx index
    answers := site.answers ++ [⟨visit, outcome.seen⟩]
    running := site.running ++ outcome.reply.session?.toList }

def proceed (site : Site) (index : Nat) (visit : Visit) : Site :=
  match visit.connecting? with
  | none =>
      match site.server.enter visit.version visit.request visit.verdict with
      | .answered outcome => site.answer index visit outcome
      | .admitted session target admitted =>
          { site with
            server := admitted
            visits := site.visits.set index { visit with connecting? := some (session, target) } }
  | some (session, target) =>
      site.answer index visit
        (site.server.settle visit.version session target
          (visit.dial target visit.version.timeouts.connectSecs))

/-- The state after an event.  There is none if the event cannot happen. -/
def act (watched : Option String) (site : Site) : Event → Option Site
  | .file event content =>
      some { site with server := site.server.observe watched event content }
  | .apply =>
      some { site with
        server := site.server.applyNext
        applied := site.applied ++ site.server.live.pending.head?.toList }
  | .arrive request verdict dial =>
      some { site with
        visits := site.visits ++ [⟨request, verdict, dial, site.server.config, none⟩] }
  | .proceed index => (site.proceed index ·) <$> site.visits[index]?
  | .ended session =>
      if session ∈ site.running then
        some { site with
          server := site.server.endSession session
          running := site.running.erase session }
      else
        none

def run? (watched : Option String) (site : Site) (events : List Event) : Option Site :=
  events.foldlM (act watched) site

variable {watched : Option String} {site next start : Site} {event : Event}
  {events before after : List Event}

section Versions

/-- Requests do not touch what was set or applied. -/
theorem proceed_frame
    (site : Site) (index : Nat) (visit : Visit) :
    site.server.SameSettings (site.proceed index visit).server ∧
      (site.proceed index visit).applied = site.applied := by
  unfold proceed
  cases visit.connecting? with
  | none =>
      rcases site.server.enter_cases visit.version visit.request visit.verdict with
        ⟨reply, henter⟩ | ⟨session, target, tracker, haccept, henter⟩
      · simp only [henter]
        exact ⟨Server.sameSettings_refuse reply [], rfl⟩
      · simp only [henter, and_true]
        exact Server.sameSettings_accept haccept
  | some connecting =>
      exact ⟨Server.sameSettings_settle _, rfl⟩

/-- No event changes the limit of sessions, the route or what the server was
built from. -/
theorem act_frame
    (hact : site.act watched event = some next) :
    next.server.startup = site.server.startup ∧
      next.server.route = site.server.route ∧
      next.server.tracker.limit = site.server.tracker.limit := by
  cases event with
  | file event content =>
      cases hact
      exact ⟨rfl, rfl, rfl⟩
  | apply =>
      cases hact
      exact ⟨rfl, rfl, rfl⟩
  | arrive request verdict dial =>
      cases hact
      exact ⟨rfl, rfl, rfl⟩
  | proceed index =>
      obtain ⟨visit, -, rfl⟩ := Option.map_eq_some_iff.mp hact
      have hsame := (site.proceed_frame index visit).1
      exact ⟨hsame.startup_eq, hsame.route_eq, hsame.limit_eq⟩
  | ended session =>
      obtain ⟨-, hact⟩ := Option.ite_none_right_eq_some.mp hact
      cases hact
      exact ⟨rfl, rfl, (Server.sameSettings_endSession session).limit_eq⟩

/-- Versions in the order in which they take effect: those that were in force,
and those that wait. -/
def versions (site : Site) : List Config :=
  site.applied ++ site.server.live.pending

/-- An event brings a version to the end of the queue, or none; and the version
that was put in force last is in force. -/
theorem act_versions
    {startup : Config}
    (hact : site.act watched event = some next)
    (hcurrent : site.server.config = site.applied.getLastD startup) :
    next.versions = site.versions ++ (event.accepted? watched).toList ∧
      next.server.config = next.applied.getLastD startup := by
  cases event with
  | file event content =>
      cases hact
      refine ⟨?_, hcurrent⟩
      exact (List.append_assoc _ _ _).symm
  | apply =>
      cases hact
      simp only [versions, Event.accepted?, Server.applyNext, LiveConfig.applyNext]
      cases hpending : site.server.live.pending with
      | nil =>
          simp only [List.head?_nil, Option.toList_none, List.append_nil, hpending, true_and]
          exact hcurrent
      | cons version rest =>
          -- the oldest version goes from those that wait to those in force
          simp [Server.config]
  | arrive request verdict dial =>
      cases hact
      exact ⟨(List.append_nil _).symm, hcurrent⟩
  | proceed index =>
      obtain ⟨visit, -, rfl⟩ := Option.map_eq_some_iff.mp hact
      obtain ⟨hsame, happlied⟩ := site.proceed_frame index visit
      simp only [versions, Server.config, happlied, hsame.live_eq, Event.accepted?]
      exact ⟨(List.append_nil _).symm, hcurrent⟩
  | ended session =>
      obtain ⟨-, hact⟩ := Option.ite_none_right_eq_some.mp hact
      cases hact
      exact ⟨(List.append_nil _).symm, hcurrent⟩

end Versions

section Runs

theorem run?_concat :
    start.run? watched (before ++ [event]) = some next ↔
      ∃ site, start.run? watched before = some site ∧ site.act watched event = some next := by
  rw [run?, List.foldlM_append, Option.bind_eq_bind, Option.bind_eq_some_iff]
  simp [run?]

theorem accepted_concat :
    accepted watched (before ++ [event]) =
      accepted watched before ++ (event.accepted? watched).toList := by
  rw [accepted, List.filterMap_append]
  cases haccepted : event.accepted? watched <;> simp [accepted, haccepted]

/-- Versions are only ever added at the end. -/
theorem accepted_mono
    (watched : Option String)
    (hpast : before <+: after) :
    accepted watched before <+: accepted watched after :=
  hpast.filterMap _

/-- No event touches the route or the limit. -/
theorem frame_of_run
    (hrun : start.run? watched events = some site) :
    site.server.startup = start.server.startup ∧
      site.server.route = start.server.route ∧
      site.server.tracker.limit = start.server.tracker.limit := by
  induction events using List.reverseRecOn generalizing site with
  | nil =>
      cases hrun
      exact ⟨rfl, rfl, rfl⟩
  | append_singleton events event ih =>
      obtain ⟨last, hbefore, hact⟩ := run?_concat.mp hrun
      obtain ⟨hstartup, hroute, hlimit⟩ := act_frame hact
      obtain ⟨hstartup', hroute', hlimit'⟩ := ih hbefore
      exact ⟨hstartup.trans hstartup', hroute.trans hroute', hlimit.trans hlimit'⟩

/-- The versions that were applied and those that wait are all that were accepted, in
order, and the last one that was applied is in force. -/
theorem versions_of_run
    {server : Server} {startup : Config}
    (hlive : server.live = { current := startup })
    (hrun : run? watched { server := server } events = some site) :
    site.versions = accepted watched events ∧
      site.server.config = site.applied.getLastD startup := by
  induction events using List.reverseRecOn generalizing site with
  | nil =>
      cases hrun
      simp [versions, accepted, Server.config, hlive]
  | append_singleton events event ih =>
      obtain ⟨last, hbefore, hact⟩ := run?_concat.mp hrun
      obtain ⟨hversions, hcurrent⟩ := ih hbefore
      obtain ⟨hversions', hcurrent'⟩ := act_versions hact hcurrent
      rw [accepted_concat, ← hversions]
      exact ⟨hversions', hcurrent'⟩

end Runs

end Site
end FrameBridge
