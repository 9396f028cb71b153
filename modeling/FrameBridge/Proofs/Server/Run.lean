import FrameBridge.Proofs.Server.Decision

/-!
# Runs of a server

A run is a list of events: requests to the relay, each with the verdict on its
handshake and with how connecting goes, what sessions write about themselves,
their ends, and configurations that are applied.

Beside the server, `Host` keeps the sessions that began and are not over, and
all answers.  A session that began is over once: its run returns, or it never
runs since the connection of its client was not handed over.

`Balanced` is what every event preserves.  What a run has done to each session
is counted along the run, by `count_run`.

Slots and rejections are accounted for whatever the numbers of the sessions are.
The entries of the registry go by the numbers, so they are those of the sessions
that are not over as long as no number was drawn twice.
-/

namespace FrameBridge

/-- A server, with the sessions that are not over and the answers it gave. -/
structure Host where
  server : Server
  running : List SessionId := []
  replies : List RelayReply := []

namespace Host

/-- How a session is over: its run returns, or it gets no connection to its client
and never runs. -/
inductive Ending where
  | returned
  | abandoned

/-- Something that happens to a server. -/
inductive Event where
  | request (request : Request) (verdict : Except HandshakeError Unit)
      (dial : Target → Nat → DialOutcome)
  | write (session : SessionId) (change : Stats.Change)
  | ended (session : SessionId) (ending : Ending)
  | applied (config : Config)

/-- The session that is over with an event. -/
def Event.ended? : Event → Option SessionId
  | ended session _ => some session
  | _ => none

/-- The configuration that is applied with an event. -/
def Event.applied? : Event → Option Config
  | applied config => some config
  | _ => none

/-- The state after a request is decided with some outcome. -/
def answer (h : Host) (outcome : RelayOutcome) : Host where
  server := outcome.server
  running := h.running ++ outcome.reply.session?.toList
  replies := h.replies ++ [outcome.reply]

/-- The state after a session is over. -/
def finish (h : Host) (session : SessionId) : Host :=
  { h with server := h.server.endSession session, running := h.running.erase session }

/-- The state after an event; none if it is about a session that is not
running.  A session has its slot from its answer on, and gives it back when it
is over, so it cannot be over again. -/
def act (h : Host) : Event → Option Host
  | .request request verdict dial => some (h.answer (h.server.relayChecked request verdict dial))
  | .write session change =>
      if session ∈ h.running then
        some { h with server.tracker := h.server.tracker.changeStats session change }
      else
        none
  | .ended session _ => if session ∈ h.running then some (h.finish session) else none
  | .applied config => some { h with server := h.server.applyUpdate config }

def run? (h : Host) (events : List Event) : Option Host :=
  events.foldlM act h

/-- The sessions that began, in order. -/
def begun (h : Host) : List SessionId :=
  h.replies.filterMap RelayReply.session?

/-- How many answers were counted as rejections under a label. -/
def refusals (h : Host) (label : String) : Nat :=
  h.replies.countP fun reply => reply.label? == some label

/-- The sessions that are over after some events, in order. -/
def endings (events : List Event) : List SessionId :=
  events.filterMap Event.ended?

/-- The configurations that are applied with some events, in order. -/
def updates (events : List Event) : List Config :=
  events.filterMap Event.applied?

/-- Every slot, every session and every rejection is accounted for. -/
structure Balanced (limit : Nat) (h : Host) : Prop where
  slots : h.server.tracker.free + h.running.length = limit
  limit_eq : h.server.tracker.limit = limit
  published : h.server.tracker.Published
  numbered : h.server.tracker.Numbered
  begun_drawn : h.begun.Sublist (Tracker.firstIds h.server.tracker.drawn)
  live :
    h.server.tracker.drawn < 2 ^ 64 →
    (SessionEntry.ids h.server.tracker.entries).Perm h.running
  counted : ∀ label, h.server.rejections label = UInt64.ofNat (h.refusals label)

section Start

variable {config : Config} {layout : Layout} {server : Server}

/-- A server that is built has no session yet, and goes by the configuration
that it was built from. -/
theorem ofConfig?_eq_some
    (hbuilt : Server.ofConfig? config layout = some server) :
    ∃ tracker route,
      Tracker.ofLimit? config.listener.maxSessions layout = some tracker ∧
      Route.ofPath? config.relay.path = some route ∧
      server =
        { startup := config
          live := { current := config }
          route := route
          tracker := tracker } := by
  obtain ⟨tracker, htracker, hbuilt⟩ := Option.bind_eq_some_iff.mp hbuilt
  obtain ⟨route, hroute, hbuilt⟩ := Option.bind_eq_some_iff.mp hbuilt
  split at hbuilt
  · cases hbuilt
  · cases hbuilt
    exact ⟨tracker, route, htracker, hroute, rfl⟩

/-- At the start all slots are free, and nothing was counted. -/
theorem balanced_of_built
    (hbuilt : Server.ofConfig? config layout = some server) :
    Balanced config.listener.maxSessions { server := server } := by
  obtain ⟨tracker, route, htracker, -, rfl⟩ := ofConfig?_eq_some hbuilt
  obtain ⟨-, rfl⟩ := Tracker.ofLimit?_eq_some_iff.mp htracker
  exact
    { slots := rfl
      limit_eq := rfl
      published := rfl
      numbered := Tracker.numbered_empty _ _
      begun_drawn := .slnil
      live := fun _ => .refl _
      counted := fun _ => rfl }

end Start

section Requests

variable {h : Host} {limit : Nat} {outcome : RelayOutcome}

@[simp] theorem answer_server :
    (h.answer outcome).server = outcome.server := rfl

@[simp] theorem answer_running :
    (h.answer outcome).running = h.running ++ outcome.reply.session?.toList := rfl

@[simp] theorem answer_begun :
    (h.answer outcome).begun = h.begun ++ outcome.reply.session?.toList := by
  cases hsession : outcome.reply.session? <;> simp [begun, answer, hsession]

@[simp] theorem answer_refusals
    (label : String) :
    (h.answer outcome).refusals label =
      h.refusals label + if outcome.reply.label? = some label then 1 else 0 := by
  simp [refusals, answer, List.countP_append, List.countP_singleton]

/-- A rejection leaves the sessions, and is counted. -/
theorem Balanced.rejects
    {label : String}
    (hbalanced : h.Balanced limit)
    (hpublished : outcome.server.tracker.Published)
    (hnumbered : outcome.server.tracker.Numbered)
    (hlabel : outcome.reply.label? = some label)
    (hsession : outcome.reply.session? = none)
    (hrejects : h.server.Rejects label outcome.server) :
    (h.answer outcome).Balanced limit where
  slots := by
    simp [hsession, hrejects.free_eq, hbalanced.slots]
  limit_eq := hrejects.limit_eq.trans hbalanced.limit_eq
  published := hpublished
  numbered := hnumbered
  begun_drawn := by
    rw [answer_begun, hsession, Option.toList_none, List.append_nil]
    exact hbalanced.begun_drawn.trans (Tracker.firstIds_sublist hrejects.drawn_le)
  live hbound := by
    have hbefore := Nat.lt_of_le_of_lt hrejects.drawn_le hbound
    have hfresh := hbalanced.numbered.fresh hbefore
    rw [answer_running, hsession, Option.toList_none, List.append_nil]
    exact ((hrejects.entries_perm hfresh).map _).trans (hbalanced.live hbefore)
  counted other := by
    have hcounted := hrejects.counted other
    rw [hbalanced.counted] at hcounted
    by_cases heq : other = label
    · subst heq
      simpa [hlabel] using hcounted
    · simpa [hlabel, heq, Ne.symm heq] using hcounted

/-- A session that begins takes a slot, a number and an entry. -/
theorem Balanced.switches
    {request : Request} {target : Target} {session : SessionId} {bufferSize : Nat}
    (hbalanced : h.Balanced limit)
    (hpublished : outcome.server.tracker.Published)
    (hnumbered : outcome.server.tracker.Numbered)
    (hreply : outcome.reply = .switched session target bufferSize)
    (hswitches : h.server.Switches request target session outcome.server) :
    (h.answer outcome).Balanced limit := by
  have hsession : outcome.reply.session? = some session := by
    rw [hreply]
    rfl
  have hlabel : outcome.reply.label? = none := by
    rw [hreply]
    rfl
  refine
    ⟨?_, hswitches.limit_eq.trans hbalanced.limit_eq, hpublished, hnumbered, ?_, ?_, ?_⟩
  · have hslots := hbalanced.slots
    have hfree := hswitches.free_succ
    rw [answer_running, hsession, Option.toList_some, List.length_append, List.length_singleton,
      answer_server]
    omega
  · rw [answer_begun, answer_server, hsession, hswitches.drawn_eq, Tracker.firstIds_succ,
      hswitches.session_eq]
    exact hbalanced.begun_drawn.append (.refl _)
  · intro hbound
    rw [answer_server, hswitches.drawn_eq] at hbound
    have hbefore := Nat.lt_of_succ_lt hbound
    obtain ⟨stats, hentries⟩ := hswitches.entries_perm (hbalanced.numbered.fresh hbefore)
    rw [answer_running, hsession, Option.toList_some]
    exact
      ((hentries.map SessionEntry.id).trans ((hbalanced.live hbefore).cons session)).trans
        (List.perm_append_singleton _ _).symm
  · intro label
    rw [answer_server, hswitches.counted label, hbalanced.counted label]
    simp [hlabel]

/-- Whatever the answer to a request is, every slot and every rejection is
accounted for afterwards. -/
theorem Balanced.request
    (hbalanced : h.Balanced limit)
    (request : Request) (verdict : Except HandshakeError Unit)
    (dial : Target → Nat → DialOutcome) :
    (h.answer (h.server.relayChecked request verdict dial)).Balanced limit := by
  have hdecided := h.server.decided_relayChecked request verdict dial
  have hpublished := hdecided.published hbalanced.published
  have hnumbered := hdecided.numbered hbalanced.numbered
  have haccounts := hdecided.accounts
  cases hreply : (h.server.relayChecked request verdict dial).reply with
  | refused rejection =>
      refine
        hbalanced.rejects hpublished hnumbered ?_ ?_ (haccounts.refused rejection hreply) <;>
        rw [hreply] <;> rfl
  | badHandshake e =>
      refine
        hbalanced.rejects hpublished hnumbered ?_ ?_ (haccounts.badHandshake e hreply) <;>
        rw [hreply] <;> rfl
  | switched session target bufferSize =>
      exact hbalanced.switches hpublished hnumbered hreply
        (haccounts.switched session target bufferSize hreply)

end Requests

section Sessions

variable {h : Host} {limit : Nat} {session : SessionId}

theorem Balanced.write
    (hbalanced : h.Balanced limit) (change : Stats.Change) :
    Balanced limit
      { h with server.tracker := h.server.tracker.changeStats session change } where
  slots := hbalanced.slots
  limit_eq := hbalanced.limit_eq
  published :=
    Eq.trans hbalanced.published (Tracker.changeStats_size h.server.tracker session change).symm
  numbered := hbalanced.numbered.changeStats session change
  begun_drawn := hbalanced.begun_drawn
  live hbound := by
    rw [Tracker.changeStats_ids]
    exact hbalanced.live hbound
  counted label := by
    have hkept :
        (h.server.tracker.changeStats session change).metrics.value (.rejections label) =
          h.server.tracker.metrics.value (.rejections label) :=
      Tracker.changeStats_value _ _ _ (by simp)
    exact hkept.trans (hbalanced.counted label)

/-- The entry of a session that is over is removed from the live ones. -/
theorem Balanced.live_finish
    (hbalanced : h.Balanced limit)
    (hbound : h.server.tracker.drawn < 2 ^ 64) :
    (SessionEntry.ids (h.finish session).server.tracker.entries).Perm
      (h.running.erase session) := by
  have hlive := hbalanced.live hbound
  have hnodup : h.running.Nodup :=
    hlive.nodup h.server.tracker.distinct_entries
  have hfilter := hlive.filter fun id => id != session
  rw [List.filter_map, ← hnodup.erase_eq_filter] at hfilter
  exact hfilter

/-- A session that is over gives back its slot and its entry. -/
theorem Balanced.finish
    (hbalanced : h.Balanced limit)
    (hrunning : session ∈ h.running) :
    (h.finish session).Balanced limit where
  slots := by
    have hslots := hbalanced.slots
    have hpos := List.length_pos_of_mem hrunning
    have herased : (h.finish session).running.length = h.running.length - 1 :=
      List.length_erase_of_mem hrunning
    have hfree : (h.finish session).server.tracker.free = h.server.tracker.free + 1 := rfl
    omega
  limit_eq := hbalanced.limit_eq
  published := Tracker.release_published session
  numbered := hbalanced.numbered.release session
  begun_drawn := hbalanced.begun_drawn
  live := hbalanced.live_finish
  counted label :=
    (Server.rejections_of_metrics label (Tracker.release_metrics session)).trans
      (hbalanced.counted label)

end Sessions

section Runs

variable {h h' : Host} {limit : Nat} {event : Event} {events : List Event}

theorem Balanced.act
    (hbalanced : h.Balanced limit)
    (hact : h.act event = some h') :
    h'.Balanced limit := by
  cases event with
  | request request verdict dial =>
      cases hact
      exact hbalanced.request request verdict dial
  | write session change =>
      obtain ⟨-, hact⟩ := Option.ite_none_right_eq_some.mp hact
      cases hact
      exact hbalanced.write change
  | ended session ending =>
      obtain ⟨hrunning, hact⟩ := Option.ite_none_right_eq_some.mp hact
      cases hact
      exact hbalanced.finish hrunning
  | applied config =>
      cases hact
      exact
        ⟨hbalanced.slots, hbalanced.limit_eq, hbalanced.published, hbalanced.numbered,
          hbalanced.begun_drawn, hbalanced.live, hbalanced.counted⟩

/-- What every event preserves holds after every run. -/
theorem Balanced.run
    (hbalanced : h.Balanced limit)
    (hrun : h.run? events = some h') :
    h'.Balanced limit := by
  induction events generalizing h with
  | nil =>
      cases hrun
      exact hbalanced
  | cons event events ih =>
      obtain ⟨next, hact, hrest⟩ := Option.bind_eq_some_iff.mp hrun
      exact ih (hbalanced.act hact) hrest

/-- A session runs from its answer on until it is over, and is over once. -/
theorem count_act
    (hact : h.act event = some h') (session : SessionId) :
    event.ended?.toList.count session + h'.running.count session + h.begun.count session =
      h.running.count session + h'.begun.count session := by
  cases event with
  | request request verdict dial =>
      cases hact
      have hnone : (Event.request request verdict dial).ended?.toList = [] := rfl
      rw [hnone, answer_running, answer_begun, List.count_append, List.count_append,
        List.count_nil]
      omega
  | write other change =>
      obtain ⟨-, hact⟩ := Option.ite_none_right_eq_some.mp hact
      cases hact
      simp [Event.ended?, begun]
  | ended last ending =>
      obtain ⟨hrunning, hact⟩ := Option.ite_none_right_eq_some.mp hact
      cases hact
      have hpos : 0 < h.running.count last := List.count_pos_iff.mpr hrunning
      have hbegun : (h.finish last).begun = h.begun := rfl
      have herase :
          (h.finish last).running.count session =
            h.running.count session - if last == session then 1 else 0 :=
        List.count_erase
      have hended : (Event.ended last ending).ended?.toList = [last] := rfl
      rw [hbegun, herase, hended, List.count_singleton]
      by_cases heq : last = session
      · subst heq
        rw [if_pos (beq_self_eq_true last)]
        omega
      · simp [heq]
  | applied config =>
      cases hact
      simp [Event.ended?, begun]

/-- Along a run, each session that began is still running or was over once. -/
theorem count_run
    (hrun : h.run? events = some h') (session : SessionId) :
    (endings events).count session + h'.running.count session + h.begun.count session =
      h.running.count session + h'.begun.count session := by
  induction events generalizing h with
  | nil =>
      cases hrun
      simp [endings]
  | cons event events ih =>
      obtain ⟨next, hact, hrest⟩ := Option.bind_eq_some_iff.mp hrun
      have hfirst := count_act hact session
      have hsplit : endings (event :: events) = event.ended?.toList ++ endings events := by
        cases hended : event.ended? <;> simp [endings, hended]
      have := ih hrest
      rw [hsplit, List.count_append]
      omega

end Runs

section Settings

variable {h h' : Host} {event : Event} {events : List Event}

theorem settings_act
    (hact : h.act event = some h') :
    h'.server.startup = h.server.startup ∧
      h'.server.route = h.server.route ∧
      h'.server.config = event.applied?.getD h.server.config := by
  cases event with
  | request request verdict dial =>
      cases hact
      obtain ⟨hstartup, hroute, hlive⟩ :=
        (h.server.decided_relayChecked request verdict dial).frame
      exact ⟨hstartup, hroute, congrArg LiveConfig.current hlive⟩
  | write session change =>
      obtain ⟨-, hact⟩ := Option.ite_none_right_eq_some.mp hact
      cases hact
      exact ⟨rfl, rfl, rfl⟩
  | ended session ending =>
      obtain ⟨-, hact⟩ := Option.ite_none_right_eq_some.mp hact
      cases hact
      exact ⟨rfl, rfl, rfl⟩
  | applied config =>
      cases hact
      exact ⟨rfl, rfl, rfl⟩

/-- What is fixed when a server is built stays, and requests are decided by the
configuration that was applied last. -/
theorem settings_run
    (hrun : h.run? events = some h') :
    h'.server.startup = h.server.startup ∧
      h'.server.route = h.server.route ∧
      h'.server.config = (updates events).getLastD h.server.config := by
  induction events generalizing h with
  | nil =>
      cases hrun
      exact ⟨rfl, rfl, rfl⟩
  | cons event events ih =>
      obtain ⟨next, hact, hrest⟩ := Option.bind_eq_some_iff.mp hrun
      obtain ⟨hstartup, hroute, hconfig⟩ := settings_act hact
      obtain ⟨hstartup', hroute', hconfig'⟩ := ih hrest
      refine ⟨hstartup'.trans hstartup, hroute'.trans hroute, ?_⟩
      rw [hconfig', hconfig, updates, updates]
      cases happlied : event.applied? with
      | none =>
          rw [List.filterMap_cons_none happlied]
          rfl
      | some config =>
          -- what was in force before is not seen any more
          rw [List.filterMap_cons_some happlied, List.getLastD_cons]
          rfl

end Settings

section Results

/-- What a run of a server that was built leaves. -/
structure Conserved (config : Config) (events : List Event) (h : Host) : Prop where
  slots : h.server.tracker.free + h.running.length = config.listener.maxSessions
  givenBack :
    ∀ session ∈ h.running, ∀ ending,
      ∃ next, h.act (.ended session ending) = some next ∧
        next.server.tracker.free = h.server.tracker.free + 1
  published_eq : h.server.tracker.published = h.server.tracker.activeCount
  once :
    ∀ session,
      (endings events).count session + h.running.count session = h.begun.count session
  counted : ∀ label, h.server.rejections label = UInt64.ofNat (h.refusals label)

/-- What a run leaves in the registry. -/
structure Listed (h : Host) : Prop where
  fresh : h.server.tracker.Fresh
  live : (SessionEntry.ids h.server.tracker.entries).Perm h.running
  givenBack :
    ∀ session ∈ h.running, ∀ ending,
      ∃ next, h.act (.ended session ending) = some next ∧
        (SessionEntry.ids next.server.tracker.entries).Perm (h.running.erase session)
  distinct : h.begun.Nodup
  ordered : h.begun.Pairwise (· < ·)
  full_iff :
    h.server.tracker.free = 0 ↔ h.server.tracker.activeCount = h.server.tracker.limit

variable {config : Config} {layout : Layout} {server : Server} {events : List Event} {h : Host}

theorem conserved_of_run
    (hbuilt : Server.ofConfig? config layout = some server)
    (hrun : run? { server := server } events = some h) :
    Conserved config events h := by
  have hbalanced := (balanced_of_built hbuilt).run hrun
  refine ⟨hbalanced.slots, ?_, hbalanced.published, ?_, hbalanced.counted⟩
  · intro session hrunning ending
    exact ⟨h.finish session, if_pos hrunning, rfl⟩
  · intro session
    simpa [begun] using count_run hrun session

theorem listed_of_run
    (hbuilt : Server.ofConfig? config layout = some server)
    (hrun : run? { server := server } events = some h)
    (hbound : h.server.tracker.drawn < 2 ^ 64) :
    Listed h := by
  have hbalanced := (balanced_of_built hbuilt).run hrun
  have hlive := hbalanced.live hbound
  have hordered : h.begun.Pairwise (· < ·) :=
    (Tracker.pairwise_firstIds_iff.mpr hbound).sublist hbalanced.begun_drawn
  refine ⟨hbalanced.numbered.fresh hbound, hlive, ?_, hordered.imp UInt64.ne_of_lt, hordered, ?_⟩
  · intro session hrunning ending
    exact ⟨h.finish session, if_pos hrunning, hbalanced.live_finish hbound⟩
  · have hslots := hbalanced.slots
    have hcount : h.server.tracker.activeCount = h.running.length := by
      rw [← hlive.length_eq, List.length_map]
      rfl
    rw [hcount, hbalanced.limit_eq]
    omega

/-- A request is decided step by step, and what it leaves is a session with its
slot or one counted rejection.  Over any run, every slot is free or held by
one session that began and is not over, and each session is over once.  The
registry lists these sessions and no others, as long as no number was drawn
twice. -/
theorem relay_conserves_slots :
    (∀ (server : Server) (request : Request) (verdict : Except HandshakeError Unit)
        (dial : Target → Nat → DialOutcome),
      server.InOrder request verdict dial (server.relayChecked request verdict dial) ∧
        server.Accounts request (server.relayChecked request verdict dial)) ∧
      ∀ (config : Config) (layout : Layout) (server : Server) (events : List Event) (h : Host),
        Server.ofConfig? config layout = some server →
        run? { server := server } events = some h →
        Conserved config events h ∧ (h.server.tracker.drawn < 2 ^ 64 → Listed h) := by
  constructor
  · intro server request verdict dial
    exact
      ⟨server.inOrder_relayChecked request verdict dial,
        (server.decided_relayChecked request verdict dial).accounts⟩
  · intro config layout server events h hbuilt hrun
    exact ⟨conserved_of_run hbuilt hrun, listed_of_run hbuilt hrun⟩

/-- One session at a time. -/
def narrow : Config where
  listener := { maxSessions := 1 }
  relay := { remote := some "echo.internal:7" }

def visit : Request where
  uri := ⟨Utf8.encodeString "/ws", none⟩
  headers := [⟨"upgrade", Utf8.encodeString "websocket"⟩]
  peer := .v4 ⟨127, 0, 0, 1⟩ 40000

/-- A session begins, and there is no slot for a second one; then it is over,
and no connection can be made for the next one. -/
def visits : List Event :=
  [.request visit (.ok ()) fun _ _ => .connected ⟨0, 0⟩,
   .request visit (.ok ()) fun _ _ => .connected ⟨0, 0⟩,
   .ended 1 .returned,
   .request visit (.ok ()) fun _ _ => .refused "no route"]

theorem relay_conserves_slots_narrow :
    ∃ server h,
      Server.ofConfig? narrow = some server ∧
      run? { server := server } visits = some h ∧
      h.server.tracker.free = 1 ∧
      h.begun = [1] ∧
      h.server.rejections "at_capacity" = 1 ∧
      h.server.rejections "upstream_unreachable" = 1 ∧
      h.server.tracker.entries = [] ∧
      ∀ dial,
        (h.server.relayChecked visit (.ok ()) dial).dialed = [⟨"echo.internal", 7⟩] := by
  obtain ⟨server, hbuilt⟩ : ∃ server, Server.ofConfig? narrow = some server :=
    ⟨_, rfl⟩
  obtain ⟨h, hrun⟩ : ∃ h, run? { server := server } visits = some h := by
    cases hbuilt
    exact ⟨_, rfl⟩
  obtain ⟨hconserved, hlisted⟩ :=
    relay_conserves_slots.2 narrow .newestFirst server visits h hbuilt hrun
  obtain ⟨hrunning, hbegun, hdrawn, hfull, hunreachable⟩ :
      h.running = [] ∧ h.begun = [1] ∧ h.server.tracker.drawn = 2 ∧
        h.refusals "at_capacity" = 1 ∧ h.refusals "upstream_unreachable" = 1 := by
    cases hbuilt
    cases hrun
    exact ⟨rfl, rfl, rfl, rfl, rfl⟩
  have hslots := hconserved.slots
  rw [hrunning] at hslots
  have hlive := (hlisted (by omega)).live
  rw [hrunning, List.perm_nil, List.map_eq_nil_iff] at hlive
  have hresolve :
      h.server.config.relay.resolve visit.headers visit.uri = .ok ⟨"echo.internal", 7⟩ := by
    cases hbuilt
    cases hrun
    rfl
  have hfree : h.server.tracker.free = 1 := hslots
  refine ⟨server, h, hbuilt, hrun, hfree, hbegun, ?_, ?_, hlive, ?_⟩
  · rw [hconserved.counted, hfull]
    rfl
  · rw [hconserved.counted, hunreachable]
    rfl
  · intro dial
    have hnext := (relay_conserves_slots.1 h.server visit (.ok ()) dial).1
    exact (hnext.connect _ hresolve rfl (by omega)).2

end Results

end Host
end FrameBridge
