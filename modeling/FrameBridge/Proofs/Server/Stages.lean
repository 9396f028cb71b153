import FrameBridge.Proofs.Server.Decision

/-!
# Requests to the relay, stage by stage

A request to the relay loads a configuration when it comes.  Later, it is
admitted or answered, and if it is admitted, it is answered when its connection
is made or has failed.  Between these stages the server can change, and so can
the configuration in force; the request keeps to the one that it loaded.

If the server does not change on the way, the stages come to what
`relayChecked` does at once.
-/

namespace FrameBridge

/-- What comes of a request before a connection is tried: its answer, or a session
that connects to a target next. -/
inductive Admission where
  | answered (outcome : RelayOutcome)
  | admitted (session : SessionId) (target : Target) (server : Server)

/-- What is seen of a request: the answer, and the targets that a connection was
tried to. -/
def RelayOutcome.seen (outcome : RelayOutcome) : RelayReply × List Target :=
  (outcome.reply, outcome.dialed)

namespace Server

variable {server : Server} {version : Config} {request : Request}
  {verdict : Except HandshakeError Unit} {session : SessionId} {target : Target}

/-- Lets a request in that loaded a version, or answers it. -/
def enter (server : Server) (version : Config) (request : Request)
    (verdict : Except HandshakeError Unit) : Admission :=
  match version.relay.resolve request.headers request.uri with
  | .error rejection => .answered (server.refuse (.refused rejection) [])
  | .ok target =>
      match verdict with
      | .error e => .answered (server.refuse (.badHandshake e) [])
      | .ok () =>
          match server.tracker.accept request.peer target with
          | (none, tracker) =>
              .answered ({ server with tracker := tracker }.refuse (.refused .atCapacity) [])
          | (some session, tracker) =>
              .admitted session target { server with tracker := tracker }

/-- Answers a request that loaded a version and was admitted, once its
connection is made or has failed. -/
def settle (server : Server) (version : Config) (session : SessionId) (target : Target)
    (dial : DialOutcome) : RelayOutcome :=
  let outcome := (server.applyUpdate version).connect session target dial
  { outcome with server := { outcome.server with live := server.live } }

/-- A request that loaded the configuration in force connects as if by it. -/
theorem settle_config
    (dial : DialOutcome) :
    server.settle server.config session target dial = server.connect session target dial := by
  cases dial <;> rfl

/-- A session that connects does not depend on the rest of the server. -/
theorem settle_seen
    (server other : Server) (dial : DialOutcome) :
    (server.settle version session target dial).seen =
      (other.settle version session target dial).seen := by
  cases dial <;> rfl

/-- The stages, one right after the other. -/
theorem relayChecked_eq_stages
    (server : Server) (request : Request) (verdict : Except HandshakeError Unit)
    (dial : Target → Nat → DialOutcome) :
    server.relayChecked request verdict dial =
      match server.enter server.config request verdict with
      | .answered outcome => outcome
      | .admitted session target admitted =>
          admitted.settle server.config session target
            (dial target server.config.timeouts.connectSecs) := by
  cases hresolve : server.config.relay.resolve request.headers request.uri with
  | error rejection =>
      simp only [relayChecked, enter, hresolve]
  | ok target =>
      cases hverdict : verdict with
      | error e =>
          simp only [relayChecked, enter, hresolve]
      | ok =>
          rcases server.tracker.accept_cases request.peer target with
            ⟨-, haccept⟩ | ⟨-, tracker, haccept, -⟩
          · simp only [relayChecked, enter, hresolve, haccept]
          · simp only [relayChecked, enter, hresolve, haccept]
            exact (settle_config _).symm

/-- Whatever the configuration in force is at each stage, what is seen of a
request is what is seen if the version that it loaded is in force at once. -/
theorem seen_relayChecked
    (server : Server) (version : Config) (request : Request)
    (verdict : Except HandshakeError Unit) (dial : Target → Nat → DialOutcome) :
    ((server.applyUpdate version).relayChecked request verdict dial).seen =
      match server.enter version request verdict with
      | .answered outcome => outcome.seen
      | .admitted session target admitted =>
          (admitted.settle version session target
            (dial target version.timeouts.connectSecs)).seen := by
  have hconfig : (server.applyUpdate version).config = version := rfl
  have htracker : (server.applyUpdate version).tracker = server.tracker := rfl
  cases hresolve : version.relay.resolve request.headers request.uri with
  | error rejection =>
      simp only [relayChecked, enter, hconfig, hresolve]
      rfl
  | ok target =>
      cases hverdict : verdict with
      | error e =>
          simp only [relayChecked, enter, hconfig, hresolve]
          rfl
      | ok =>
          rcases server.tracker.accept_cases request.peer target with
            ⟨-, haccept⟩ | ⟨-, tracker, haccept, -⟩
          · simp only [relayChecked, enter, hconfig, htracker, hresolve, haccept]
            rfl
          · simp only [relayChecked, enter, hconfig, htracker, hresolve, haccept]
            rfl

/-- Sessions and counters may have changed, but nothing that was set. -/
structure SameSettings (server after : Server) : Prop where
  startup_eq : after.startup = server.startup
  route_eq : after.route = server.route
  live_eq : after.live = server.live
  limit_eq : after.tracker.limit = server.tracker.limit

theorem sameSettings_refuse
    (reply : RelayReply) (dialed : List Target) :
    server.SameSettings (server.refuse reply dialed).server := by
  unfold refuse
  dsimp only
  split <;> exact ⟨rfl, rfl, rfl, rfl⟩

theorem sameSettings_endSession
    (session : SessionId) :
    server.SameSettings (server.endSession session) :=
  ⟨rfl, rfl, rfl, Tracker.release_limit _⟩

theorem sameSettings_accept
    {tracker : Tracker}
    (haccept : server.tracker.accept request.peer target = (some session, tracker)) :
    server.SameSettings { server with tracker := tracker } :=
  ⟨rfl, rfl, rfl, (Tracker.accepted_of_accept haccept).limit_eq⟩

theorem sameSettings_settle
    (dial : DialOutcome) :
    server.SameSettings (server.settle version session target dial).server := by
  cases dial with
  | connected latency =>
      refine ⟨rfl, rfl, rfl, ?_⟩
      exact Tracker.changeStats_limit server.tracker session (.latency latency)
  | refused cause | timedOut =>
      exact ⟨rfl, rfl, rfl, Tracker.release_limit session⟩

/-- A request is answered without a slot, or gets one. -/
theorem enter_cases
    (server : Server) (version : Config) (request : Request)
    (verdict : Except HandshakeError Unit) :
    (∃ reply,
      server.enter version request verdict = .answered (server.refuse reply [])) ∨
    ∃ session target tracker,
      server.tracker.accept request.peer target = (some session, tracker) ∧
        server.enter version request verdict =
          .admitted session target { server with tracker := tracker } := by
  cases hresolve : version.relay.resolve request.headers request.uri with
  | error rejection =>
      exact .inl ⟨.refused rejection, by simp only [enter, hresolve]⟩
  | ok target =>
      cases verdict with
      | error e =>
          exact .inl ⟨.badHandshake e, by simp only [enter, hresolve]⟩
      | ok =>
          rcases server.tracker.accept_cases request.peer target with
            ⟨-, haccept⟩ | ⟨-, tracker, haccept, -⟩
          · exact .inl ⟨.refused .atCapacity, by simp only [enter, hresolve, haccept]⟩
          · exact .inr ⟨_, target, tracker, haccept, by simp only [enter, hresolve, haccept]⟩

end Server
end FrameBridge
