import Mathlib.Data.List.Destutter
import FrameBridge.Proofs.Session.Attribution

/-!
# The life of a session and its accounts

A session shows its states in one order and enters each of them once.  When it
begins to close, the latch has fired and no pump runs any more: from then on
nothing is taken from either end, and the counters stay as they are up to the
summary.  The metrics are counted beside the statistics, in four places; at
every point of a run they agree with them.
-/

namespace FrameBridge

/-- The states from some state on, in the order in which a session shows
them. -/
def SessionState.onwards : SessionState → List SessionState
  | init => [init, opened, closing, closed]
  | opened => [opened, closing, closed]
  | closing => [closing, closed]
  | closed => [closed]

/-- How often a session in some state was opened. -/
def SessionState.openings : SessionState → UInt64
  | init => 0
  | _ => 1

/-- The bytes that were counted in a direction. -/
def Stats.moved (stats : Stats) : Direction → UInt64
  | .inbound => stats.bytesUp
  | .outbound => stats.bytesDown

/-- Since some metrics, what was counted in the metrics is what the statistics
say: whether the session was opened, and the bytes of each direction. -/
structure Bridge.Recorded (base : Metrics) (b : Bridge) : Prop where
  opened :
    b.metrics.value .sessionsTotal =
      base.value .sessionsTotal + b.stats.state.openings
  bytes :
    ∀ direction,
      b.metrics.value (.bytes direction) =
        base.value (.bytes direction) + b.stats.moved direction

namespace Session

/-- The states that are seen in the course of some events: the one at first, and
the one after each event. -/
def observed (s : Session) : List Event → List SessionState
  | [] => [s.bridge.stats.state]
  | event :: rest =>
      s.bridge.stats.state ::
        match s.act event with
        | some next => next.observed rest
        | none => []

section Order

variable {s s' : Session} {event : Event}

/-- Every event keeps the state or enters the one that comes next. -/
theorem Next.onwards
    (hnext : Next s event s') :
    s'.phase.state = s.phase.state ∨
      s.phase.state.onwards = s.phase.state :: s'.phase.state.onwards := by
  cases hnext with
  | move hchange =>
      cases hchange with
      | empty hphase hslot hhand =>
          exact Or.inl rfl
      | _ =>
          simp_all [Phase.state, SessionState.onwards]
  | stimulus x =>
      exact Or.inl rfl
  | advance ms =>
      exact Or.inl rfl

theorem observed_eq_cons
    (s : Session) (events : List Event) :
    ∃ rest, s.observed events = s.bridge.stats.state :: rest := by
  cases events with
  | nil => exact ⟨[], rfl⟩
  | cons event rest => exact ⟨_, rfl⟩

theorem mem_onwards_self
    (state : SessionState) :
    [state] <+: state.onwards := by
  cases state <;> simp [SessionState.onwards]

/-- From some state on, a session shows the states in order, each of them
once. -/
theorem observed_onwards
    {events : List Event}
    (hstate : s.bridge.stats.state = s.phase.state) :
    (s.observed events).destutter (· ≠ ·) <+: s.bridge.stats.state.onwards := by
  induction events generalizing s with
  | nil =>
      exact mem_onwards_self _
  | cons event rest ih =>
      unfold observed
      cases hact : s.act event with
      | none =>
          exact mem_onwards_self _
      | some t =>
          have hnext := next_of_act hact
          have hstate' := hnext.state hstate
          have hrest := ih hstate'
          obtain ⟨tail, htail⟩ := observed_eq_cons t rest
          simp only [htail, List.destutter_cons_cons] at hrest ⊢
          rw [List.destutter_cons'] at hrest
          rcases hnext.onwards with hsame | horder
          · -- the state stays, and the second copy of it is left out
            rw [← hstate, ← hstate'] at hsame
            simpa [hsame] using hrest
          · rw [← hstate, ← hstate'] at horder
            have hne : s.bridge.stats.state ≠ t.bridge.stats.state := by
              intro heq
              rw [heq] at horder
              simp at horder
            rw [if_pos hne, horder]
            exact (List.prefix_cons_inj _).mpr hrest

end Order

section Closing

variable {s s' t : Session} {event : Event} {events : List Event}

/-- A session begins to close only after the latch has fired, and when both
pumps have ended or were interrupted. -/
theorem Next.begins_closing
    (hnext : Next s event s')
    (hlatched : s.Latched)
    (hbefore : s.phase.state ≠ .closing)
    (hafter : s'.phase.state = .closing) :
    s.latch.fired = true ∧
      ∃ p q, s.phase = .relaying p q ∧ p.isRunning = false ∧ q.isRunning = false := by
  cases hnext with
  | move hchange =>
      cases hchange with
      | @beginClosing p q hphase hin hout =>
          refine ⟨?_, p, q, hphase, hin, hout⟩
          rw [hlatched.fired, Option.isSome_iff_ne_none]
          intro hnone
          have hrunning := (hlatched.pumps_running hphase hnone).1
          rw [hin] at hrunning
          cases hrunning
      | empty hphase hslot hhand =>
          exact absurd hafter hbefore
      | _ =>
          simp_all [Phase.state]
  | stimulus x =>
      exact absurd hafter hbefore
  | advance ms =>
      exact absurd hafter hbefore

/-- Once a session closes, an event takes nothing from the ends and counts
nothing. -/
theorem Next.closing_frame
    (hnext : Next s event s')
    (hstate : s.phase.state = .closing ∨ s.phase.state = .closed) :
    (s'.phase.state = .closing ∨ s'.phase.state = .closed) ∧
      s'.bridge.client.inbox = s.bridge.client.inbox ++ event.fromClient ∧
      s'.bridge.upstream.inbox = s.bridge.upstream.inbox ++ event.fromUpstream ∧
      s'.bridge.stats.bytesUp = s.bridge.stats.bytesUp ∧
      s'.bridge.stats.bytesDown = s.bridge.stats.bytesDown := by
  cases hnext with
  | move hchange =>
      cases hchange with
      | empty hphase hslot hhand =>
          simpa [Event.fromClient, Event.fromUpstream] using hstate
      | _ =>
          simp_all [Phase.state, Event.fromClient, Event.fromUpstream]
  | stimulus x =>
      simpa [Event.fromClient, Event.fromUpstream] using hstate
  | advance ms =>
      simpa [Event.fromClient, Event.fromUpstream] using hstate

/-- Once a session closes, nothing is taken from the ends and nothing is
counted. -/
theorem closing_final
    (hrun : t.run? events = some s)
    (hstate : t.phase.state = .closing ∨ t.phase.state = .closed) :
    s.bridge.client.inbox = t.bridge.client.inbox ++ fromClient events ∧
      s.bridge.upstream.inbox = t.bridge.upstream.inbox ++ fromUpstream events ∧
      s.bridge.stats.bytesUp = t.bridge.stats.bytesUp ∧
      s.bridge.stats.bytesDown = t.bridge.stats.bytesDown := by
  refine (run_induction
    (P := fun events u =>
      (u.phase.state = .closing ∨ u.phase.state = .closed) ∧
      u.bridge.client.inbox = t.bridge.client.inbox ++ fromClient events ∧
      u.bridge.upstream.inbox = t.bridge.upstream.inbox ++ fromUpstream events ∧
      u.bridge.stats.bytesUp = t.bridge.stats.bytesUp ∧
      u.bridge.stats.bytesDown = t.bridge.stats.bytesDown)
    ?_ ?_ hrun).2
  · exact ⟨hstate, by simp [fromClient], by simp [fromUpstream], rfl, rfl⟩
  · rintro events u event u' - ⟨hstate, hclient, hupstream, hup, hdown⟩ hact
    obtain ⟨hstate', hclient', hupstream', hup', hdown'⟩ :=
      (next_of_act hact).closing_frame hstate
    refine ⟨hstate', ?_, ?_, hup'.trans hup, hdown'.trans hdown⟩
    · rw [hclient', hclient, fromClient_concat, List.append_assoc]
    · rw [hupstream', hupstream, fromUpstream_concat, List.append_assoc]

end Closing

end Session

section Accounts

variable {base : Metrics} {b b' : Bridge}

namespace Bridge.Recorded

/-- Whatever keeps the metrics and the statistics keeps the account. -/
theorem of_eq
    (h : b.Recorded base)
    (hmetrics : b'.metrics = b.metrics)
    (hstats : b'.stats = b.stats) :
    b'.Recorded base := by
  refine ⟨?_, fun direction => ?_⟩
  · rw [hmetrics, hstats]
    exact h.opened
  · rw [hmetrics, hstats]
    exact h.bytes direction

/-- Bytes are counted in the statistics and in the metrics alike. -/
theorem record
    (h : b.Recorded base)
    (direction : Direction) (n : Nat) :
    (b.record direction n).Recorded base := by
  refine ⟨?_, fun k => ?_⟩
  · rw [Bridge.record_metrics, Metrics.value_add_of_ne _ _ (by simp), record_state]
    exact h.opened
  · have hbytes := h.bytes k
    by_cases hk : direction = k
    · subst hk
      rw [Bridge.record_metrics, Metrics.value_add_self, hbytes, UInt64.add_assoc]
      cases direction <;> rfl
    · rw [Bridge.record_metrics, Metrics.value_add_of_ne _ _ (by simpa using hk), hbytes]
      cases direction <;> cases k <;> first | exact absurd rfl hk | rfl

/-- Entering a state later than the first is not counted, and neither is a
sample of how long the session lasted. -/
theorem setState
    {state : SessionState}
    (h : b.Recorded base)
    (hopenings : state.openings = b.stats.state.openings)
    (hstats : b'.stats = b.stats.setState state)
    (hmetrics :
      b'.metrics = b.metrics ∨
        ∃ reason, b'.metrics = b.metrics.add (.sessionDuration reason) 1) :
    b'.Recorded base := by
  have hvalue :
      ∀ m, (∀ reason, .sessionDuration reason ≠ m) →
        b'.metrics.value m = b.metrics.value m := by
    intro m hne
    rcases hmetrics with hmetrics | ⟨reason, hmetrics⟩
    · rw [hmetrics]
    · rw [hmetrics, Metrics.value_add_of_ne _ _ (hne reason)]
  refine ⟨?_, fun direction => ?_⟩
  · rw [hvalue _ (by simp), hstats, Stats.setState_state, hopenings]
    exact h.opened
  · rw [hvalue _ (by simp), hstats, h.bytes direction]
    cases direction <;> rfl

end Bridge.Recorded

/-- A step of the pump to the upstream keeps the account. -/
theorem Inbound.Change.recorded
    {p p' : Inbound}
    (hchange : Inbound.Change b p p' b')
    (h : b.Recorded base) :
    b'.Recorded base := by
  cases hchange with
  | flush hflush =>
      have hflushed :
          ({ b with upstream := b.upstream.flush.2 } : Bridge).Recorded base :=
        h.of_eq rfl rfl
      exact hflushed.record .inbound _
  | _ =>
      exact h.of_eq rfl rfl

/-- A step of the pump to the client keeps the account. -/
theorem Outbound.Change.recorded
    {q q' : Outbound}
    (hchange : Outbound.Change b q q' b')
    (h : b.Recorded base) :
    b'.Recorded base := by
  cases hchange with
  | flush hflush =>
      have hflushed :
          ({ b with client := b.client.flush.2 } : Bridge).Recorded base :=
        h.of_eq rfl rfl
      exact hflushed.record .outbound _
  | hand hhand =>
      exact h.of_eq b.handOver_metrics b.handOver_stats
  | handFailed hhand =>
      exact h.of_eq b.handOver_metrics b.handOver_stats
  | _ =>
      exact h.of_eq rfl rfl

/-- Every event keeps the account. -/
theorem Session.Next.recorded
    {s s' : Session} {event : Session.Event}
    (hnext : Session.Next s event s')
    (hstate : s.bridge.stats.state = s.phase.state)
    (h : s.bridge.Recorded base) :
    s'.bridge.Recorded base := by
  cases hnext with
  | move hchange =>
      cases hchange with
      | start hphase =>
          have hopened := h.opened
          rw [hstate, hphase] at hopened
          refine ⟨?_, fun direction => ?_⟩
          · refine (Metrics.value_add_self _ _).trans ?_
            simp [hopened, enter, Phase.state, SessionState.openings]
          · refine (Metrics.value_add_of_ne _ _ (by simp)).trans ?_
            rw [h.bytes direction]
            cases direction <;> rfl
      | pumpInbound hphase hpump =>
          rw [fire_bridge]
          exact hpump.recorded h
      | pumpOutbound hphase hpump =>
          rw [fire_bridge]
          exact hpump.recorded h
      | beginClosing hphase hin hout =>
          exact h.setState (by rw [hstate, hphase]; rfl) rfl (Or.inl rfl)
      | shutdown hphase hshutdown =>
          exact h.setState (by rw [hstate, hphase]; rfl) rfl (Or.inr ⟨_, rfl⟩)
      | expireUpstream hphase hblocked hclock =>
          exact h.setState (by rw [hstate, hphase]; rfl) rfl (Or.inr ⟨_, rfl⟩)
      | _ =>
          exact h.of_eq (by simp) (by simp)
  | stimulus x =>
      exact h.of_eq (by simp) (by simp)
  | advance ms =>
      exact h

end Accounts

namespace Session

section Runs

variable {bufferSize : Nat} {latencyMicros : UInt64} {metrics : Metrics}
  {events : List Event} {s : Session}

/-- Metrics and statistics are counted together. -/
theorem recorded_of_run
    (hrun : (fresh bufferSize latencyMicros metrics).run? events = some s) :
    s.bridge.Recorded metrics := by
  refine (run_invariant
    (P := fun s => s.bridge.Recorded metrics ∧ s.bridge.stats.state = s.phase.state)
    ?_ hrun ⟨⟨?_, fun direction => ?_⟩, rfl⟩).1
  · rintro t event t' ⟨hrecorded, hstate⟩ hnext
    exact ⟨hnext.recorded hstate hrecorded, hnext.state hstate⟩
  · simp [fresh, SessionState.openings]
  · cases direction <;> simp [fresh, Stats.moved]

/--
In every run:

* the states that are seen are the beginning of the four states in their order,
  each entered once;
* the session begins to close only after the latch has fired, and when both
  pumps have ended or were interrupted;
* from then on nothing is taken from the client or from the upstream, and the
  bytes that were counted stay as they are;
* until the session is done there is no summary and no sample of how long it
  lasted; then there is a summary with the bytes that were counted, and one
  sample, under its reason;
* the session is counted once, from the time when it leaves its first state, and
  in each direction the metrics grew by the bytes that were counted.
-/
theorem session_lifecycle
    (hrun : (fresh bufferSize latencyMicros metrics).run? events = some s) :
    ((fresh bufferSize latencyMicros metrics).observed events).destutter (· ≠ ·) <+:
        [.init, .opened, .closing, .closed] ∧
    (∀ before event after t u,
      events = before ++ event :: after →
      (fresh bufferSize latencyMicros metrics).run? before = some t →
      t.act event = some u →
      t.bridge.stats.state ≠ .closing →
      u.bridge.stats.state = .closing →
      t.latch.fired = true ∧
        ∃ p q, t.phase = .relaying p q ∧ p.isRunning = false ∧ q.isRunning = false) ∧
    (∀ before after t,
      events = before ++ after →
      (fresh bufferSize latencyMicros metrics).run? before = some t →
      t.bridge.stats.state = .closing ∨ t.bridge.stats.state = .closed →
      s.bridge.client.inbox = t.bridge.client.inbox ++ fromClient after ∧
        s.bridge.upstream.inbox = t.bridge.upstream.inbox ++ fromUpstream after ∧
        s.bridge.stats.bytesUp = t.bridge.stats.bytesUp ∧
        s.bridge.stats.bytesDown = t.bridge.stats.bytesDown) ∧
    (s.bridge.stats.state ≠ .closed →
      s.summary = none ∧
        ∀ reason,
          s.bridge.metrics.value (.sessionDuration reason) =
            metrics.value (.sessionDuration reason)) ∧
    (s.bridge.stats.state = .closed →
      ∃ summary, s.summary = some summary ∧
        summary.bytesUp = s.bridge.stats.bytesUp ∧
        summary.bytesDown = s.bridge.stats.bytesDown ∧
        ∀ reason,
          s.bridge.metrics.value (.sessionDuration reason) =
            metrics.value (.sessionDuration reason) +
              if reason = summary.reason then 1 else 0) ∧
    s.bridge.metrics.value .sessionsTotal =
      metrics.value .sessionsTotal + (if s.bridge.stats.state = .init then 0 else 1) ∧
    s.bridge.metrics.value (.bytes .inbound) =
      metrics.value (.bytes .inbound) + s.bridge.stats.bytesUp ∧
    s.bridge.metrics.value (.bytes .outbound) =
      metrics.value (.bytes .outbound) + s.bridge.stats.bytesDown := by
  have hstate := state_of_run hrun
  have hsummarised := summarised_of_run hrun
  have hsampled := sampled_of_run hrun
  have hrecorded := recorded_of_run hrun
  refine ⟨observed_onwards rfl, ?_, ?_, ?_, ?_, ?_, hrecorded.bytes .inbound,
    hrecorded.bytes .outbound⟩
  · rintro before event after t u - hbefore hact hout hin
    have hnext := next_of_act hact
    have hstate := state_of_run hbefore
    rw [hnext.state hstate] at hin
    rw [hstate] at hout
    exact hnext.begins_closing (latched_of_run hbefore) hout hin
  · rintro before after t rfl hbefore hclosing
    rw [state_of_run hbefore] at hclosing
    exact closing_final (run?_after hrun hbefore) hclosing
  · intro hopen
    have hnone : s.summary = none := by
      rw [Option.eq_none_iff_forall_ne_some]
      intro summary hsummary
      refine hopen ?_
      rw [hstate, (hsummarised.summary summary hsummary).1]
      rfl
    refine ⟨hnone, fun reason => ?_⟩
    simpa [hnone] using hsampled reason
  · intro hclosed
    rw [hstate] at hclosed
    obtain ⟨summary, hsummary⟩ := hsummarised.closed (Phase.closed_of_state hclosed)
    obtain ⟨-, htold⟩ := hsummarised.summary summary hsummary
    refine ⟨summary, hsummary, by rw [htold], by rw [htold], fun reason => ?_⟩
    simpa [hsummary, eq_comm] using hsampled reason
  · rw [hrecorded.opened]
    cases s.bridge.stats.state <;> rfl

/-- The client fails while a frame to it was taken and not flushed yet, and
sends another frame when the session closes. -/
def aftermath : List Event :=
  [.move .start,
   .stimulus (.upstreamItem (.chunk [7, 8])),
   .stimulus (.clientItems [.frame (.binary [1, 2, 3]), .failure "reset"]),
   .move (.pump .outbound),
   .move (.pump .outbound),
   .move (.pump .inbound),
   .move (.pump .inbound),
   .move (.pump .inbound),
   .move (.pump .inbound),
   .move (.interrupt .outbound),
   .move .beginClosing,
   .stimulus (.clientItems [.frame (.binary [4])]),
   .move .closeClient,
   .move .closeClient,
   .move .closeClient,
   .move .closeClient,
   .move .closeUpstream]

theorem session_lifecycle_aftermath :
    ∃ s t, (fresh 4096 0 {}).run? aftermath = some s ∧
      (fresh 4096 0 {}).run? (aftermath.take 11) = some t ∧
      s.summary = some { reason := .clientError, bytesUp := 3, bytesDown := 0 } ∧
      ((fresh 4096 0 {}).observed aftermath).destutter (· ≠ ·) <+:
        [.init, .opened, .closing, .closed] ∧
      s.bridge.client.inbox =
        t.bridge.client.inbox ++ fromClient (aftermath.drop 11) ∧
      s.bridge.stats.bytesUp = t.bridge.stats.bytesUp ∧
      s.bridge.metrics.value (.sessionDuration .clientError) = 1 ∧
      s.bridge.metrics.value .sessionsTotal = 1 ∧
      s.bridge.metrics.value (.bytes .inbound) = 3 := by
  obtain ⟨s, hrun⟩ : ∃ s, (fresh 4096 0 {}).run? aftermath = some s := ⟨_, rfl⟩
  obtain ⟨t, hbefore⟩ :
      ∃ t, (fresh 4096 0 {}).run? (aftermath.take 11) = some t := ⟨_, rfl⟩
  have hdone :
      s.summary = some { reason := .clientError, bytesUp := 3, bytesDown := 0 } := by
    cases hrun
    rfl
  have hclosed : s.bridge.stats.state = .closed := by
    cases hrun
    rfl
  have hclosing : t.bridge.stats.state = .closing := by
    cases hbefore
    rfl
  obtain ⟨hstates, -, hfinal, -, hsummary, hopened, hup, -⟩ := session_lifecycle hrun
  obtain ⟨hclient, -, hcount, -⟩ :=
    hfinal (aftermath.take 11) (aftermath.drop 11) t rfl hbefore (Or.inl hclosing)
  obtain ⟨summary, hsome, hbytes, -, hsample⟩ := hsummary hclosed
  obtain rfl := Option.some.inj (hdone.symm.trans hsome)
  refine ⟨s, t, hrun, hbefore, hdone, hstates, hclient, hcount, ?_, ?_, ?_⟩
  · rw [hsample]
    rfl
  · rw [hopened, hclosed]
    rfl
  · rw [hup, ← hbytes]
    rfl

end Runs

end Session
end FrameBridge
