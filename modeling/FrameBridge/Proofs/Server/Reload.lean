import FrameBridge.Proofs.Config.Reload
import FrameBridge.Proofs.Server.Run
import FrameBridge.Proofs.Server.Site

/-!
# Reloading while requests are decided

A request goes by the configuration that was in force when it came (`Loaded`),
whatever is applied while it is on its way: the answer is the one that
`relayChecked` gives under this configuration (`DecidedUnder`).  With the order
in which versions come into force, this is all that reloading does to a server.
-/

namespace FrameBridge
namespace Site

variable {watched : Option String} {site next start : Site} {event : Event}
  {events before after : List Event}

section Requests

/-- When the request came, the version that it loaded was in force. -/
inductive Loaded
    (watched : Option String) (start : Site) (events : List Event) (visit : Visit) : Prop
  | intro
      {before : List Event} {came : Site}
      (hpast : before ++ [.arrive visit.request visit.verdict visit.dial] <+: events)
      (hrun : start.run? watched before = some came)
      (hversion : visit.version = came.server.config) :
      Loaded watched start events visit

/-- The request was admitted, and goes on with the session and the target that
it got. -/
inductive Connects
    (watched : Option String) (start : Site) (events : List Event) (visit : Visit)
    (session : SessionId) (target : Target) : Prop
  | intro
      {before : List Event} {index : Nat} {site : Site} {admitted : Server}
      (hpast : before ++ [.proceed index] <+: events)
      (hrun : start.run? watched before = some site)
      (hloaded : Loaded watched start before visit)
      (henter :
        site.server.enter visit.version visit.request visit.verdict =
          .admitted session target admitted) :
      Connects watched start events visit session target

/-- What was seen of a request is what is seen of it if the version that was in
force when it came is in force throughout. -/
inductive DecidedUnder
    (watched : Option String) (start : Site) (events : List Event) (answer : Answer) : Prop
  | intro
      {before : List Event} {index : Nat} {site : Site}
      (hpast : before ++ [.proceed index] <+: events)
      (hrun : start.run? watched before = some site)
      (hloaded : Loaded watched start before answer.visit)
      (hseen :
        answer.seen =
          ((site.server.applyUpdate answer.visit.version).relayChecked answer.visit.request
            answer.visit.verdict answer.visit.dial).seen) :
      DecidedUnder watched start events answer

/-- What was loaded stays loaded as the run goes on. -/
theorem Loaded.mono
    {visit : Visit}
    (hloaded : Loaded watched start before visit)
    (hpast : before <+: after) :
    Loaded watched start after visit := by
  obtain ⟨hbefore, hrun, hversion⟩ := hloaded
  exact ⟨hbefore.trans hpast, hrun, hversion⟩

theorem Connects.mono
    {visit : Visit} {session : SessionId} {target : Target}
    (hconnects : Connects watched start before visit session target)
    (hpast : before <+: after) :
    Connects watched start after visit session target := by
  obtain ⟨hbefore, hrun, hloaded, henter⟩ := hconnects
  exact ⟨hbefore.trans hpast, hrun, hloaded, henter⟩

theorem DecidedUnder.mono
    {answer : Answer}
    (hdecided : DecidedUnder watched start before answer)
    (hpast : before <+: after) :
    DecidedUnder watched start after answer := by
  obtain ⟨hbefore, hrun, hloaded, hseen⟩ := hdecided
  exact ⟨hbefore.trans hpast, hrun, hloaded, hseen⟩

/-- A request that connects is answered as it would have been when it was
admitted. -/
theorem Connects.decided
    {visit : Visit} {session : SessionId} {target : Target}
    (hconnects : Connects watched start events visit session target)
    (server : Server) :
    DecidedUnder watched start events
      ⟨visit,
        (server.settle visit.version session target
          (visit.dial target visit.version.timeouts.connectSecs)).seen⟩ := by
  obtain ⟨hpast, hrun, hloaded, henter⟩ := hconnects
  refine ⟨hpast, hrun, hloaded, ?_⟩
  rw [Server.seen_relayChecked, henter]
  exact Server.settle_seen _ _ _

/-- Requests go by the versions that they loaded. -/
structure Faithful
    (watched : Option String) (start : Site) (events : List Event) (site : Site) : Prop where
  loaded : ∀ visit ∈ site.visits, Loaded watched start events visit
  connects :
    ∀ visit ∈ site.visits, ∀ session target,
      visit.connecting? = some (session, target) →
      Connects watched start events visit session target
  decided : ∀ answer ∈ site.answers, DecidedUnder watched start events answer

theorem Faithful.mono
    (hfaithful : Faithful watched start before site)
    (hpast : before <+: after) :
    Faithful watched start after site where
  loaded visit hmem := (hfaithful.loaded visit hmem).mono hpast
  connects visit hmem session target hconnecting :=
    (hfaithful.connects visit hmem session target hconnecting).mono hpast
  decided answer hmem := (hfaithful.decided answer hmem).mono hpast

/-- An answer that is decided under its version keeps all requests faithful. -/
theorem Faithful.answer
    {index : Nat} {visit : Visit} {outcome : RelayOutcome}
    (hfaithful : Faithful watched start events site)
    (hdecided : DecidedUnder watched start events ⟨visit, outcome.seen⟩) :
    Faithful watched start events (site.answer index visit outcome) where
  loaded visit hmem := hfaithful.loaded visit (List.mem_of_mem_eraseIdx hmem)
  connects visit hmem := hfaithful.connects visit (List.mem_of_mem_eraseIdx hmem)
  decided answer hmem := by
    rcases List.mem_append.mp hmem with hmem | hmem
    · exact hfaithful.decided answer hmem
    · rw [List.mem_singleton.mp hmem]
      exact hdecided

/-- A request loads the version in force when it comes. -/
theorem Faithful.arrive
    {request : Request} {verdict : Except HandshakeError Unit}
    {dial : Target → Nat → DialOutcome}
    (hrun : start.run? watched before = some site)
    (hfaithful : Faithful watched start before site) :
    Faithful watched start (before ++ [.arrive request verdict dial])
      { site with
        visits := site.visits ++ [⟨request, verdict, dial, site.server.config, none⟩] } := by
  have hkept := hfaithful.mono (List.prefix_append before [.arrive request verdict dial])
  refine ⟨?_, ?_, hkept.decided⟩
  · intro visit hmem
    rcases List.mem_append.mp hmem with hmem | hmem
    · exact hkept.loaded visit hmem
    · rw [List.mem_singleton.mp hmem]
      exact ⟨List.prefix_rfl, hrun, rfl⟩
  · intro visit hmem session target hconnecting
    rcases List.mem_append.mp hmem with hmem | hmem
    · exact hkept.connects visit hmem session target hconnecting
    · rw [List.mem_singleton.mp hmem] at hconnecting
      cases hconnecting

/-- A request that goes on still goes by the version that it loaded. -/
theorem Faithful.proceed
    {index : Nat} {visit : Visit}
    (hrun : start.run? watched before = some site)
    (hfaithful : Faithful watched start before site)
    (hget : site.visits[index]? = some visit) :
    Faithful watched start (before ++ [.proceed index]) (site.proceed index visit) := by
  have hmem := List.mem_of_getElem? hget
  have hkept := hfaithful.mono (List.prefix_append before [.proceed index])
  have hloaded := hfaithful.loaded visit hmem
  have hstages :=
    Server.seen_relayChecked site.server visit.version visit.request visit.verdict visit.dial
  -- the configuration in force is not looked at any more, only the version loaded
  cases hconnecting : visit.connecting? with
  | some connecting =>
      obtain ⟨session, target⟩ := connecting
      have hconnects := hkept.connects visit hmem session target hconnecting
      simp only [Site.proceed, hconnecting]
      exact hkept.answer (hconnects.decided site.server)
  | none =>
      simp only [Site.proceed, hconnecting]
      cases henter : site.server.enter visit.version visit.request visit.verdict with
      | answered outcome =>
          rw [henter] at hstages
          exact hkept.answer ⟨List.prefix_rfl, hrun, hloaded, hstages.symm⟩
      | admitted session target admitted =>
          have hnow :
              Connects watched start (before ++ [.proceed index])
                { visit with connecting? := some (session, target) } session target := by
            obtain ⟨hpast, hbefore, hversion⟩ := hloaded
            exact ⟨List.prefix_rfl, hrun, ⟨hpast, hbefore, hversion⟩, henter⟩
          refine ⟨?_, ?_, hkept.decided⟩
          · intro other hother
            rcases List.mem_or_eq_of_mem_set hother with hother | rfl
            · exact hkept.loaded other hother
            · obtain ⟨hpast, hbefore, hversion⟩ := hkept.loaded visit hmem
              exact ⟨hpast, hbefore, hversion⟩
          · intro other hother session' target' hconnecting'
            rcases List.mem_or_eq_of_mem_set hother with hother | rfl
            · exact hkept.connects other hother session' target' hconnecting'
            · cases hconnecting'
              exact hnow

/-- No event makes a request go by another version. -/
theorem Faithful.act
    (hrun : start.run? watched before = some site)
    (hfaithful : Faithful watched start before site)
    (hact : site.act watched event = some next) :
    Faithful watched start (before ++ [event]) next := by
  have hkept := hfaithful.mono (List.prefix_append before [event])
  cases event with
  | file event content =>
      cases hact
      exact ⟨hkept.loaded, hkept.connects, hkept.decided⟩
  | apply =>
      cases hact
      exact ⟨hkept.loaded, hkept.connects, hkept.decided⟩
  | arrive request verdict dial =>
      cases hact
      exact hfaithful.arrive hrun
  | proceed index =>
      obtain ⟨visit, hget, rfl⟩ := Option.map_eq_some_iff.mp hact
      exact hfaithful.proceed hrun hget
  | ended session =>
      obtain ⟨-, hact⟩ := Option.ite_none_right_eq_some.mp hact
      cases hact
      exact ⟨hkept.loaded, hkept.connects, hkept.decided⟩

theorem faithful_of_run
    {server : Server}
    (hrun : run? watched { server := server } events = some site) :
    Faithful watched { server := server } events site := by
  induction events using List.reverseRecOn generalizing site with
  | nil =>
      cases hrun
      exact
        ⟨fun _ hmem => absurd hmem List.not_mem_nil, fun _ hmem => absurd hmem List.not_mem_nil,
          fun _ hmem => absurd hmem List.not_mem_nil⟩
  | append_singleton events event ih =>
      obtain ⟨last, hbefore, hact⟩ := run?_concat.mp hrun
      exact (ih hbefore).act hbefore hact

end Requests

section Results

/-- What an event of the watched directory does to a site.  Sessions and routes
never notice, and only a version that can be loaded leaves anything. -/
structure Noted
    (watched : Option String) (event : FileEvent) (content : FileContent)
    (site next : Site) : Prop where
  tracker_eq : next.server.tracker = site.server.tracker
  route_eq : next.server.route = site.server.route
  config_eq : next.server.config = site.server.config
  accepted :
    ∀ name version,
      event.kind = .create ∨ event.kind = .modify →
      name ∈ event.names →
      watched = some name →
      Config.load content = .ok version →
      next.server.live.pending = site.server.live.pending ++ [version]
  unconcerned :
    event.kind = .other ∨ (∀ name ∈ event.names, watched ≠ some name) →
    next = site
  unloaded :
    ∀ cause, Config.load content = .error cause → next = site

/-- What applying a version does to a site. -/
structure Swapped (site next : Site) : Prop where
  tracker_eq : next.server.tracker = site.server.tracker
  route_eq : next.server.route = site.server.route
  oldest :
    ∀ version rest,
      site.server.live.pending = version :: rest →
      next.server.config = version ∧ next.server.live.pending = rest
  none : site.server.live.pending = [] → next = site

/-- What is so wherever a run of a server stands. -/
structure Reloads
    (watched : Option String) (startup : Config) (start : Site) (events : List Event)
    (site : Site) : Prop where
  valid : ∀ version ∈ startup :: accepted watched events, version.Valid
  inForce : site.server.config ∈ startup :: accepted watched events
  order : site.applied ++ site.server.live.pending = accepted watched events
  current : site.server.config = site.applied.getLastD startup
  settled :
    site.server.live.pending = [] →
    site.server.config = (accepted watched events).getLastD startup
  limit_eq : site.server.tracker.limit = startup.listener.maxSessions
  route_eq : site.server.route = start.server.route
  decided : ∀ answer ∈ site.answers, DecidedUnder watched start events answer
  known : ∀ answer ∈ site.answers, answer.visit.version ∈ startup :: accepted watched events

variable {source : Config.Source} {startup : Config} {layout : Layout} {server : Server}

theorem noted_act
    (site : Site) (event : FileEvent) (content : FileContent) :
    ∃ next, site.act watched (.file event content) = some next ∧
      Noted watched event content site next := by
  have hkept :
      Config.reloaded? watched event content = none →
      { site with server := site.server.observe watched event content } = site := by
    intro hnone
    simp only [Server.observe, LiveConfig.observe, hnone, Option.toList_none, List.append_nil]
  refine ⟨_, rfl, rfl, rfl, rfl, ?_, ?_, ?_⟩
  · intro name version hkind hname hwatched hload
    have hconcerns : event.concerns watched = true :=
      FileEvent.concerns_iff.mpr ⟨hkind, name, hname, hwatched⟩
    have hreloaded := Config.reloaded?_eq_some_iff.mpr ⟨hconcerns, hload⟩
    simp only [Server.observe, LiveConfig.observe, hreloaded, Option.toList_some]
  · intro hother
    refine hkept (Config.reloaded?_eq_none (.inl ?_))
    rw [Bool.eq_false_iff]
    intro hconcerns
    obtain ⟨hkind, name, hname, hwatched⟩ := FileEvent.concerns_iff.mp hconcerns
    rcases hother with hother | hother
    · rw [hother] at hkind
      rcases hkind with hkind | hkind <;> cases hkind
    · exact hother name hname hwatched
  · intro cause hload
    exact hkept (Config.reloaded?_eq_none (.inr ⟨cause, hload⟩))

theorem swapped_act
    (site : Site) :
    ∃ next, site.act watched .apply = some next ∧ Swapped site next := by
  refine ⟨_, rfl, rfl, rfl, ?_, ?_⟩
  · intro version rest hpending
    simp [Server.applyNext, Server.config, LiveConfig.applyNext, hpending]
  · intro hpending
    simp [Server.applyNext, LiveConfig.applyNext, hpending]

/-- Versions come from files that were loaded, so they are valid. -/
theorem valid_of_accepted
    (hinitial : Config.initial source = .ok startup) :
    ∀ version ∈ startup :: accepted watched events, version.Valid := by
  intro version hmem
  rcases List.mem_cons.mp hmem with rfl | hmem
  · exact Config.valid_of_initial hinitial
  · obtain ⟨event, -, haccepted⟩ := List.mem_filterMap.mp hmem
    cases event with
    | file event content =>
        exact Config.valid_of_reloaded haccepted
    | apply | arrive | proceed | ended =>
        cases haccepted

/-- Nothing is ever in force but the first configuration and versions. -/
theorem config_mem_accepted
    (hlive : server.live = { current := startup })
    (hrun : run? watched { server := server } events = some site) :
    site.server.config ∈ startup :: accepted watched events := by
  obtain ⟨hversions, hcurrent⟩ := versions_of_run hlive hrun
  have happlied : site.applied ⊆ accepted watched events := by
    rw [← hversions]
    exact List.subset_append_left _ _
  rw [hcurrent]
  exact List.cons_subset_cons startup happlied List.getLastD_mem_cons

theorem Loaded.known
    {visit : Visit}
    (hlive : server.live = { current := startup })
    (hloaded : Loaded watched { server := server } events visit) :
    visit.version ∈ startup :: accepted watched events := by
  obtain ⟨hpast, hrun, hversion⟩ := hloaded
  rw [hversion]
  have hbefore := accepted_mono watched ((List.prefix_append _ _).trans hpast)
  exact List.cons_subset_cons startup hbefore.subset (config_mem_accepted hlive hrun)

/-- While a server runs, valid configurations and no others come into force, all
of them, and in the order in which they were read.  Sessions and routes do not
notice, and each request goes by the version that was in force when it came. -/
theorem reload_in_order
    (hinitial : Config.initial source = .ok startup)
    (hbuilt : Server.ofConfig? startup layout = some server)
    (hrun : run? watched { server := server } events = some site) :
    Reloads watched startup { server := server } events site ∧
      (∀ (event : FileEvent) (content : FileContent),
        ∃ next, site.act watched (.file event content) = some next ∧
          Noted watched event content site next) ∧
      ∃ next, site.act watched .apply = some next ∧ Swapped site next := by
  refine ⟨?_, site.noted_act, site.swapped_act⟩
  obtain ⟨tracker, route, htracker, -, hserver⟩ := Host.ofConfig?_eq_some hbuilt
  obtain ⟨-, rfl⟩ := Tracker.ofLimit?_eq_some_iff.mp htracker
  have hlive : server.live = { current := startup } := by
    rw [hserver]
  have hlimit : server.tracker.limit = startup.listener.maxSessions := by
    rw [hserver]
    rfl
  obtain ⟨hversions, hcurrent⟩ := versions_of_run hlive hrun
  obtain ⟨-, hroute, hkept⟩ := frame_of_run hrun
  have hfaithful := faithful_of_run hrun
  exact
    { valid := valid_of_accepted hinitial
      inForce := config_mem_accepted hlive hrun
      order := hversions
      current := hcurrent
      settled := by
        intro hpending
        rw [hcurrent, ← hversions, versions, hpending, List.append_nil]
      limit_eq := hkept.trans hlimit
      route_eq := hroute
      decided := hfaithful.decided
      known := by
        intro answer hmem
        obtain ⟨hpast, -, hloaded, -⟩ := hfaithful.decided answer hmem
        exact (hloaded.mono ((List.prefix_append _ _).trans hpast)).known hlive }

/-- Clients can name targets. -/
def opened : Config where
  relay := { allowClientTarget := true }

/-- A request to the relay that names a target. -/
def naming : Request where
  uri :=
    ⟨Utf8.encodeString "/handshake", some (Utf8.encodeString "remote_addr=echo.internal:7")⟩
  headers := [⟨"upgrade", Utf8.encodeString "websocket"⟩]
  peer := .v4 ⟨127, 0, 0, 1⟩ 40000

/-- The configuration file is changed and is spoiled, and the change is applied
while a request is on its way.  Another one comes afterwards. -/
def editing : List Event :=
  [.file ⟨.modify, ["relay.toml"]⟩
    (some (Utf8.encodeString "[relay]\nallow_client_target = true\n")),
   .file ⟨.modify, ["relay.toml"]⟩ (some (Utf8.encodeString "[relay")),
   .arrive naming (.ok ()) fun _ _ => .connected ⟨0, 0⟩,
   .apply,
   .arrive naming (.ok ()) fun _ _ => .connected ⟨0, 0⟩,
   .proceed 0,
   .proceed 0,
   .proceed 0]

/-- Both requests are decided after the change, the first one as if nothing had
been changed. -/
theorem reload_in_order_edited :
    Config.initial .defaults = .ok {} ∧
    ∃ server site,
      Server.ofConfig? {} = some server ∧
      run? (some "relay.toml") { server := server } editing = some site ∧
      accepted (some "relay.toml") editing = [opened] ∧
      site.server.config = opened ∧
      site.answers.map (fun answer => answer.visit.version) = [{}, opened] ∧
      site.answers.map (fun answer => answer.seen.1.label?) =
        [some "client_target_disabled", none] ∧
      ∀ answer ∈ site.answers,
        DecidedUnder (some "relay.toml") { server := server } editing answer := by
  have hinitial : Config.initial .defaults = .ok {} :=
    rfl
  obtain ⟨server, hbuilt⟩ : ∃ server, Server.ofConfig? {} = some server :=
    ⟨_, rfl⟩
  have haccepted : accepted (some "relay.toml") editing = [opened] := by
    decide +kernel
  obtain ⟨site, hrun, hsite⟩ :
      ∃ site, run? (some "relay.toml") { server := server } editing = some site ∧
        decide (site.server.live.pending = [] ∧
          site.answers.map (fun answer => answer.visit.version) = [{}, opened] ∧
          site.answers.map (fun answer => answer.seen.1.label?) =
            [some "client_target_disabled", none]) = true := by
    refine (Option.any_eq_true _ _).mp ?_
    cases hbuilt
    decide +kernel
  obtain ⟨hpending, hversions, hlabels⟩ := of_decide_eq_true hsite
  obtain ⟨hreloads, -⟩ := reload_in_order hinitial hbuilt hrun
  refine
    ⟨hinitial, server, site, hbuilt, hrun, haccepted, ?_, hversions, hlabels, hreloads.decided⟩
  rw [hreloads.settled hpending, haccepted]
  rfl

end Results

end Site
end FrameBridge
