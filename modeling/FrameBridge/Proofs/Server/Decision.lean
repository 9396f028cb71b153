import FrameBridge.Proofs.Tracker.Operations
import FrameBridge.Server.Relay

/-!
# How a request to the relay is decided

A decision has two sides: the order in which it is made and what is tried on
the way (`InOrder`), and what is left of it in the server (`Accounts`).

For the second side it does not matter which check failed.  `Decided` has one
constructor for each stage at which a request can end: before it gets a slot,
with a slot but without a connection, and with both.
-/

namespace FrameBridge

/-- The session that an answer begins. -/
def RelayReply.session? : RelayReply → Option SessionId
  | switched session _ _ => some session
  | _ => none

namespace Server

/-- How often requests were refused under a label. -/
def rejections (server : Server) (label : String) : UInt64 :=
  server.tracker.metrics.value (.rejections label)

/-- The stages at which a request to the relay can end. -/
inductive Decided
    (server : Server) (request : Request) : RelayOutcome → Prop
  | refused
      {reply : RelayReply} {label : String}
      (hlabel : reply.label? = some label) :
      Decided server request (server.refuse reply [])
  | failed
      {reply : RelayReply} {label : String}
      {target : Target} {session : SessionId} {tracker : Tracker}
      (hlabel : reply.label? = some label)
      (haccept : server.tracker.accept request.peer target = (some session, tracker)) :
      Decided server request
        ((({ server with tracker := tracker } : Server).endSession session).refuse
          reply [target])
  | switched
      {target : Target} {session : SessionId} {tracker : Tracker}
      (latency : Duration)
      (haccept : server.tracker.accept request.peer target = (some session, tracker)) :
      Decided server request
        (({ server with tracker := tracker } : Server).connect session target
          (.connected latency))

section Deciding

variable {server : Server} {request : Request} {verdict : Except HandshakeError Unit}
  {target : Target}

/-- A request whose target cannot be resolved is refused before anything else. -/
theorem relayChecked_of_unresolved
    (dial : Target → Nat → DialOutcome) {rejection : Rejection}
    (hresolve : server.config.relay.resolve request.headers request.uri = .error rejection) :
    server.relayChecked request verdict dial = server.refuse (.refused rejection) [] := by
  simp only [relayChecked, hresolve]

/-- The handshake is looked at once there is a target. -/
theorem relayChecked_of_badHandshake
    (dial : Target → Nat → DialOutcome) {e : HandshakeError}
    (hresolve : server.config.relay.resolve request.headers request.uri = .ok target)
    (hverdict : verdict = .error e) :
    server.relayChecked request verdict dial = server.refuse (.badHandshake e) [] := by
  simp only [relayChecked, hresolve, hverdict]

/-- A slot is looked for once the handshake is in order. -/
theorem relayChecked_of_full
    (dial : Target → Nat → DialOutcome)
    (hresolve : server.config.relay.resolve request.headers request.uri = .ok target)
    (hverdict : verdict = .ok ())
    (hfull : server.tracker.free = 0) :
    server.relayChecked request verdict dial = server.refuse (.refused .atCapacity) [] := by
  simp only [relayChecked, hresolve, hverdict, Tracker.accept_of_full hfull]

/-- Who got a slot goes on to connect. -/
theorem relayChecked_of_accept
    (dial : Target → Nat → DialOutcome) {session : SessionId} {tracker : Tracker}
    (hresolve : server.config.relay.resolve request.headers request.uri = .ok target)
    (hverdict : verdict = .ok ())
    (haccept : server.tracker.accept request.peer target = (some session, tracker)) :
    server.relayChecked request verdict dial =
      ({ server with tracker := tracker } : Server).connect session target
        (dial target server.config.timeouts.connectSecs) := by
  simp only [relayChecked, hresolve, hverdict, haccept]

/-- However connecting goes, a session begins or its slot is given back. -/
theorem decided_connect
    {session : SessionId} {tracker : Tracker} (dial : DialOutcome)
    (haccept : server.tracker.accept request.peer target = (some session, tracker)) :
    server.Decided request
      (({ server with tracker := tracker } : Server).connect session target dial) := by
  cases dial with
  | connected latency =>
      exact .switched latency haccept
  | refused cause =>
      exact .failed rfl haccept
  | timedOut =>
      exact .failed rfl haccept

/-- There are no other ways in which a request can end. -/
theorem decided_relayChecked
    (server : Server) (request : Request) (verdict : Except HandshakeError Unit)
    (dial : Target → Nat → DialOutcome) :
    server.Decided request (server.relayChecked request verdict dial) := by
  cases hresolve : server.config.relay.resolve request.headers request.uri with
  | error rejection =>
      rw [relayChecked_of_unresolved dial hresolve]
      exact .refused rfl
  | ok target =>
      cases hverdict : verdict with
      | error e =>
          rw [relayChecked_of_badHandshake dial hresolve rfl]
          exact .refused rfl
      | ok =>
          rcases server.tracker.accept_cases request.peer target with
            ⟨hfull, -⟩ | ⟨-, tracker, haccept, -⟩
          · rw [relayChecked_of_full dial hresolve rfl hfull]
            exact .refused rfl
          · rw [relayChecked_of_accept dial hresolve rfl haccept]
            exact decided_connect _ haccept

end Deciding

section Refusing

variable (server : Server) (label other : String)

@[simp] theorem count_rejections_self :
    (server.count (.rejections label)).rejections label = server.rejections label + 1 :=
  Metrics.value_add_self _ _

theorem count_rejections_of_ne
    (hne : label ≠ other) :
    (server.count (.rejections label)).rejections other = server.rejections other :=
  Metrics.value_add_of_ne _ _ (by simpa using hne)

/-- A rejection counts under its own label only. -/
theorem count_rejections :
    (server.count (.rejections label)).rejections other =
      server.rejections other + if other = label then 1 else 0 := by
  by_cases heq : other = label
  · subst heq
    simp
  · rw [count_rejections_of_ne _ _ _ (Ne.symm heq), if_neg heq, UInt64.add_zero]

/-- Whatever is refused, the label of the answer is counted, and no more. -/
theorem refuse_server
    {reply : RelayReply} (dialed : List Target)
    (hlabel : reply.label? = some label) :
    (server.refuse reply dialed).server = server.count (.rejections label) := by
  simp [refuse, hlabel]

theorem rejections_of_metrics
    {server server' : Server} {count : Nat}
    (hmetrics : server'.tracker.metrics = server.tracker.metrics.setSessionsActive count) :
    server'.rejections other = server.rejections other := by
  rw [rejections, hmetrics, Metrics.value_setSessionsActive, rejections]

/-- Releasing the session that was accepted last restores the server, as far as
sessions and rejections are concerned. -/
theorem endSession_accept
    {peer : SocketAddress} {target : Target} {session : SessionId} {tracker : Tracker}
    (haccept : server.tracker.accept peer target = (some session, tracker)) :
    let released := { server with tracker := tracker }.endSession session
    (server.tracker.Fresh → released.tracker.entries.Perm server.tracker.entries) ∧
      released.tracker.free = server.tracker.free ∧
      released.tracker.limit = server.tracker.limit ∧
      released.rejections other = server.rejections other := by
  have haccepted := Tracker.accepted_of_accept haccept
  obtain ⟨hentries, hfree, hlimit⟩ := Tracker.release_accept haccepted
  refine ⟨hentries, hfree, hlimit, ?_⟩
  have hcounted : { server with tracker := tracker }.rejections other = server.rejections other :=
    rejections_of_metrics other haccepted.metrics_eq
  rw [← hcounted]
  exact rejections_of_metrics other (Tracker.release_metrics _)

end Refusing

/-- The server keeps its live sessions, and counts one rejection. -/
structure Rejects (server : Server) (label : String) (after : Server) : Prop where
  entries_perm :
    server.tracker.Fresh → after.tracker.entries.Perm server.tracker.entries
  free_eq : after.tracker.free = server.tracker.free
  limit_eq : after.tracker.limit = server.tracker.limit
  drawn_le : server.tracker.drawn ≤ after.tracker.drawn
  counted :
    ∀ other,
      after.rejections other = server.rejections other + if other = label then 1 else 0

/-- The server has one live session more, and counts no rejection. -/
structure Switches
    (server : Server) (request : Request) (target : Target) (session : SessionId)
    (after : Server) : Prop where
  entries_perm :
    server.tracker.Fresh →
    ∃ stats,
      after.tracker.entries.Perm
        ({ id := session, peer := request.peer, target := target, stats := stats } ::
          server.tracker.entries)
  free_succ : after.tracker.free + 1 = server.tracker.free
  limit_eq : after.tracker.limit = server.tracker.limit
  session_eq : session = server.tracker.nextId
  drawn_eq : after.tracker.drawn = server.tracker.drawn + 1
  nextId_eq : after.tracker.nextId = session + 1
  counted : ∀ other, after.rejections other = server.rejections other

section Accounting

variable {server : Server} {request : Request}

theorem rejects_refuse
    {reply : RelayReply} {label : String} (dialed : List Target)
    (hlabel : reply.label? = some label) :
    server.Rejects label (server.refuse reply dialed).server := by
  rw [refuse_server server label dialed hlabel]
  exact
    { entries_perm := fun _ => .refl _
      free_eq := rfl
      limit_eq := rfl
      drawn_le := Nat.le_refl _
      counted := count_rejections server label }

/-- A session whose connection fails leaves nothing behind but its number. -/
theorem rejects_endSession
    {reply : RelayReply} {label : String} {target : Target} {session : SessionId}
    {tracker : Tracker} (dialed : List Target)
    (haccept : server.tracker.accept request.peer target = (some session, tracker))
    (hlabel : reply.label? = some label) :
    server.Rejects label
      ((({ server with tracker := tracker } : Server).endSession session).refuse
        reply dialed).server := by
  have hcount :
      (({ server with tracker := tracker } : Server).endSession session).Rejects label
        ((({ server with tracker := tracker } : Server).endSession session).refuse
          reply dialed).server :=
    rejects_refuse dialed hlabel
  rw [refuse_server _ label dialed hlabel] at hcount ⊢
  have hrestored := fun other => server.endSession_accept other haccept
  obtain ⟨hentries, hfree, hlimit, -⟩ := hrestored label
  have hdrawn : server.tracker.drawn ≤ tracker.drawn := by
    rw [(Tracker.accepted_of_accept haccept).drawn_eq]
    exact Nat.le_succ _
  refine
    ⟨hentries, hcount.free_eq.trans hfree, hcount.limit_eq.trans hlimit,
      Nat.le_trans hdrawn hcount.drawn_le, fun other => ?_⟩
  rw [hcount.counted other, (hrestored other).2.2.2]

/-- A connected session keeps what it got, and shows how long that took. -/
theorem switches_connected
    {target : Target} {session : SessionId} {tracker : Tracker} (latency : Duration)
    (haccept : server.tracker.accept request.peer target = (some session, tracker)) :
    server.Switches request target session
      (({ server with tracker := tracker } : Server).connect session target
        (.connected latency)).server := by
  have haccepted := Tracker.accepted_of_accept haccept
  refine
    ⟨fun hfresh => ⟨Stats.apply {} (.latency latency), ?_⟩, haccepted.free_succ,
      haccepted.limit_eq, haccepted.id_eq, haccepted.drawn_eq, ?_, ?_⟩
  · have hother :
        server.tracker.entries.map (Registry.changed session (.latency latency)) =
          server.tracker.entries := by
      refine Tracker.changed_of_notMem _ _ ?_
      rw [haccepted.id_eq]
      exact hfresh
    have hchanged :=
      (haccepted.entries_perm hfresh).map (Registry.changed session (.latency latency))
    rw [List.map_cons, hother, Registry.changed, if_pos rfl] at hchanged
    exact hchanged
  · have hnext : tracker.nextId = session + 1 := by
      rw [Tracker.nextId, haccepted.drawn_eq, Tracker.idAt_succ, haccepted.id_eq]
      rfl
    exact hnext
  · intro other
    have hmetrics :
        ({ server with tracker := tracker } : Server).rejections other = server.rejections other :=
      rejections_of_metrics other haccepted.metrics_eq
    rw [← hmetrics]
    exact Metrics.value_add_of_ne _ _ (by simp)

end Accounting

section Order

/-- The answer to a request that got a slot, by how connecting goes. -/
def connectReply (server : Server) (target : Target) : DialOutcome → RelayReply
  | .connected _ => .switched server.tracker.nextId target server.config.relay.bufferSize
  | .refused cause => .refused (.upstreamUnreachable target cause)
  | .timedOut =>
      .refused (.upstreamTimeout target ⟨UInt64.ofNat server.config.timeouts.connectSecs, 0⟩)

/-- The order in which a request is decided, and what is tried on the way.
Nothing but a connection that is tried can be told from the way in which
connections go, and a request that has none touches the counter of its label
only. -/
structure InOrder
    (server : Server) (request : Request) (verdict : Except HandshakeError Unit)
    (dial : Target → Nat → DialOutcome) (outcome : RelayOutcome) : Prop where
  unresolved :
    ∀ rejection,
      server.config.relay.resolve request.headers request.uri = .error rejection →
      outcome.reply = .refused rejection ∧ outcome.dialed = []
  badHandshake :
    ∀ target e,
      server.config.relay.resolve request.headers request.uri = .ok target →
      verdict = .error e →
      outcome.reply = .badHandshake e ∧ outcome.dialed = []
  full :
    ∀ target,
      server.config.relay.resolve request.headers request.uri = .ok target →
      verdict = .ok () →
      server.tracker.free = 0 →
      outcome.reply = .refused .atCapacity ∧ outcome.dialed = []
  connect :
    ∀ target,
      server.config.relay.resolve request.headers request.uri = .ok target →
      verdict = .ok () →
      0 < server.tracker.free →
      outcome.reply =
          server.connectReply target (dial target server.config.timeouts.connectSecs) ∧
        outcome.dialed = [target]
  slotless :
    outcome.dialed = [] →
    ∃ label, outcome.reply.label? = some label ∧
      outcome.server = server.count (.rejections label)
  consulted :
    ∀ dial' : Target → Nat → DialOutcome,
      (∀ target ∈ outcome.dialed,
        dial' target server.config.timeouts.connectSecs =
          dial target server.config.timeouts.connectSecs) →
      server.relayChecked request verdict dial' = outcome

variable {server : Server} {request : Request} {verdict : Except HandshakeError Unit}
  {target : Target} {session : SessionId} {tracker : Tracker}

@[simp] theorem refuse_reply
    (reply : RelayReply) (dialed : List Target) :
    (server.refuse reply dialed).reply = reply := rfl

@[simp] theorem refuse_dialed
    (reply : RelayReply) (dialed : List Target) :
    (server.refuse reply dialed).dialed = dialed := rfl

@[simp] theorem connect_dialed
    (dial : DialOutcome) :
    (server.connect session target dial).dialed = [target] := by
  cases dial <;> rfl

theorem connect_reply
    (dial : DialOutcome)
    (haccept : server.tracker.accept request.peer target = (some session, tracker)) :
    (({ server with tracker := tracker } : Server).connect session target dial).reply =
      server.connectReply target dial := by
  rw [(Tracker.accepted_of_accept haccept).id_eq]
  cases dial <;> rfl

/-- A request for which no connection was tried leaves nothing but one more rejection. -/
theorem Decided.slotless
    {outcome : RelayOutcome}
    (h : server.Decided request outcome)
    (hdialed : outcome.dialed = []) :
    ∃ label, outcome.reply.label? = some label ∧
      outcome.server = server.count (.rejections label) := by
  cases h with
  | refused hlabel =>
      exact ⟨_, hlabel, refuse_server server _ [] hlabel⟩
  | failed _ _ =>
      simp at hdialed
  | switched _ _ =>
      simp at hdialed

/-- Only the connection that is tried has a say in what comes of a request. -/
theorem relayChecked_congr
    {dial dial' : Target → Nat → DialOutcome}
    (hsame :
      ∀ target ∈ (server.relayChecked request verdict dial).dialed,
        dial' target server.config.timeouts.connectSecs =
          dial target server.config.timeouts.connectSecs) :
    server.relayChecked request verdict dial' = server.relayChecked request verdict dial := by
  cases hresolve : server.config.relay.resolve request.headers request.uri with
  | error rejection =>
      rw [relayChecked_of_unresolved dial hresolve, relayChecked_of_unresolved dial' hresolve]
  | ok target =>
      cases hverdict : verdict with
      | error e =>
          rw [relayChecked_of_badHandshake dial hresolve rfl,
            relayChecked_of_badHandshake dial' hresolve rfl]
      | ok =>
          rcases server.tracker.accept_cases request.peer target with
            ⟨hfull, -⟩ | ⟨-, tracker, haccept, -⟩
          · rw [relayChecked_of_full dial hresolve rfl hfull,
              relayChecked_of_full dial' hresolve rfl hfull]
          · -- the only stage at which a connection is looked at
            rw [relayChecked_of_accept dial hresolve hverdict haccept, connect_dialed] at hsame
            rw [relayChecked_of_accept dial hresolve rfl haccept,
              relayChecked_of_accept dial' hresolve rfl haccept,
              hsame target (List.mem_singleton_self target)]

/-- Every request is decided in the same order, whatever the server holds. -/
theorem inOrder_relayChecked
    (server : Server) (request : Request) (verdict : Except HandshakeError Unit)
    (dial : Target → Nat → DialOutcome) :
    server.InOrder request verdict dial (server.relayChecked request verdict dial) where
  unresolved rejection hresolve := by
    rw [relayChecked_of_unresolved dial hresolve]
    exact ⟨rfl, rfl⟩
  badHandshake target e hresolve hverdict := by
    rw [relayChecked_of_badHandshake dial hresolve hverdict]
    exact ⟨rfl, rfl⟩
  full target hresolve hverdict hfull := by
    rw [relayChecked_of_full dial hresolve hverdict hfull]
    exact ⟨rfl, rfl⟩
  connect target hresolve hverdict hfree := by
    obtain ⟨tracker, haccept, -⟩ :
        ∃ tracker, server.tracker.accept request.peer target =
            (some server.tracker.nextId, tracker) ∧ _ :=
      Tracker.accept_of_free_pos hfree
    rw [relayChecked_of_accept dial hresolve hverdict haccept]
    exact ⟨connect_reply _ haccept, connect_dialed _⟩
  slotless := (server.decided_relayChecked request verdict dial).slotless
  consulted _ := relayChecked_congr

end Order

section Remains

/-- What is left of a request once it is decided. -/
structure Accounts
    (server : Server) (request : Request) (outcome : RelayOutcome) : Prop where
  refused :
    ∀ rejection,
      outcome.reply = .refused rejection → server.Rejects rejection.label outcome.server
  badHandshake :
    ∀ e, outcome.reply = .badHandshake e → server.Rejects "bad_handshake" outcome.server
  switched :
    ∀ session target bufferSize,
      outcome.reply = .switched session target bufferSize →
      server.Switches request target session outcome.server

variable {server : Server} {request : Request} {outcome : RelayOutcome}

theorem accounts_of_rejects
    {label : String}
    (hlabel : outcome.reply.label? = some label)
    (hrejects : server.Rejects label outcome.server) :
    server.Accounts request outcome where
  refused rejection hreply := by
    rw [hreply] at hlabel
    cases hlabel
    exact hrejects
  badHandshake e hreply := by
    rw [hreply] at hlabel
    cases hlabel
    exact hrejects
  switched session target bufferSize hreply := by
    rw [hreply] at hlabel
    cases hlabel

/-- Each way in which a request can end leaves its account in order. -/
theorem Decided.accounts
    (h : server.Decided request outcome) :
    server.Accounts request outcome := by
  cases h with
  | refused hlabel =>
      exact accounts_of_rejects hlabel (rejects_refuse [] hlabel)
  | failed hlabel haccept =>
      exact accounts_of_rejects hlabel (rejects_endSession _ haccept hlabel)
  | switched latency haccept =>
      have hswitches := switches_connected latency haccept
      refine ⟨?_, ?_, ?_⟩
      · intro rejection hreply
        cases hreply
      · intro e hreply
        cases hreply
      · intro session target bufferSize hreply
        cases hreply
        exact hswitches

theorem Decided.numbered
    (h : server.Decided request outcome)
    (hnumbered : server.tracker.Numbered) :
    outcome.server.tracker.Numbered := by
  cases h with
  | refused hlabel =>
      rw [refuse_server server _ [] hlabel]
      exact hnumbered
  | @failed _ _ target session _ hlabel haccept =>
      rw [refuse_server _ _ [target] hlabel]
      exact ((Tracker.accepted_of_accept haccept).numbered hnumbered).release session
  | switched latency haccept =>
      exact ((Tracker.accepted_of_accept haccept).numbered hnumbered).changeStats _ _

/-- A request publishes the number of live sessions whenever it changes it. -/
theorem Decided.published
    (h : server.Decided request outcome)
    (hpublished : server.tracker.Published) :
    outcome.server.tracker.Published := by
  cases h with
  | refused hlabel =>
      rw [refuse_server server _ [] hlabel]
      exact hpublished
  | @failed _ _ target session tracker hlabel haccept =>
      rw [refuse_server _ _ [target] hlabel]
      exact Tracker.release_published session
  | switched latency haccept =>
      exact (Tracker.accepted_of_accept haccept).published_eq.trans
        (Tracker.changeStats_size _ _ _).symm

/-- A request changes sessions and counters, and no setting. -/
theorem Decided.frame
    (h : server.Decided request outcome) :
    outcome.server.startup = server.startup ∧
      outcome.server.route = server.route ∧
      outcome.server.live = server.live := by
  cases h with
  | refused hlabel =>
      rw [refuse_server server _ [] hlabel]
      exact ⟨rfl, rfl, rfl⟩
  | @failed _ _ target _ _ hlabel _ =>
      rw [refuse_server _ _ [target] hlabel]
      exact ⟨rfl, rfl, rfl⟩
  | switched _ _ =>
      exact ⟨rfl, rfl, rfl⟩

end Remains

end Server
end FrameBridge
