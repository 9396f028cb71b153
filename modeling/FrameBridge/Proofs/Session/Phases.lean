import FrameBridge.Proofs.Session.Run

/-!
# Phases and the latch

What the phase of a session says about its state, its latch and its summary.
The latch has fired once a pump has ended, and so whenever the session closes;
its reason never changes.
-/

namespace FrameBridge

namespace Latch

variable {latch : Latch} {reason : CloseReason}

/-- The first reason stays. -/
theorem trigger_reason :
    (latch.trigger reason).2.reason = some (latch.reason.getD reason) := by
  cases hreason : latch.reason <;> simp [trigger, record, publish, hreason]

theorem trigger_fired
    (h : latch.fired = latch.reason.isSome) :
    (latch.trigger reason).2.fired = true := by
  cases hreason : latch.reason <;>
    simp [trigger, record, publish, hreason, h]

end Latch

namespace Inbound

variable {p p' : Inbound} {b b' : Bridge}

/-- Only a pump that is running makes a step. -/
theorem Change.isRunning
    (hchange : Change b p p' b') :
    p.isRunning = true := by
  cases hchange <;> rfl

/-- After a step, the pump is running or has a result. -/
theorem Change.isRunning_of_result?
    (hchange : Change b p p' b')
    (hresult : p'.result? = none) :
    p'.isRunning = true := by
  cases hchange with
  | @event event hnext =>
      revert hresult
      unfold afterEvent
      repeat' split
      all_goals simp [result?, Inbound.isRunning]
  | @write rest size n hwrite =>
      revert hresult
      unfold afterWrite
      repeat' split
      all_goals simp [result?, Inbound.isRunning]
  | writeFailed hwrite =>
      cases hresult
  | flush hflush =>
      rfl
  | flushFailed hflush =>
      cases hresult

end Inbound

namespace Outbound

variable {q q' : Outbound} {b b' : Bridge}

/-- Only a pump that is running makes a step. -/
theorem Change.isRunning
    (hchange : Change b q q' b') :
    q.isRunning = true := by
  cases hchange <;> rfl

/-- After a step, the pump is running or has a result. -/
theorem Change.isRunning_of_result?
    (hchange : Change b q q' b')
    (hresult : q'.result? = none) :
    q'.isRunning = true := by
  cases hchange <;> simp_all [result?, Outbound.isRunning]

end Outbound

namespace Phase

variable {phase : Phase}

/-- A session that is shown as open is relaying. -/
theorem relaying_of_state
    (h : phase.state = .opened) :
    ∃ p q, phase = .relaying p q := by
  cases phase with
  | relaying p q => exact ⟨p, q, rfl⟩
  | _ => cases h

theorem closing_of_state
    (h : phase.state = .closing) :
    (∃ step since, phase = .closingClient step since) ∨
      ∃ since, phase = .closingUpstream since := by
  cases phase with
  | closingClient step since => exact Or.inl ⟨step, since, rfl⟩
  | closingUpstream since => exact Or.inr ⟨since, rfl⟩
  | _ => cases h

theorem closed_of_state
    (h : phase.state = .closed) :
    phase = .closed := by
  cases phase with
  | closed => rfl
  | _ => cases h

end Phase

namespace Session

section Fire

variable {s : Session} {direction : Direction} {result : PumpResult}

theorem fire_some_latch :
    (s.fire direction (some result)).latch =
      (s.latch.trigger (CloseReason.ofResult direction result)).2 := rfl

end Fire

/-- The latch, by the phase: before the start it has no reason, and as long as
it has none, no pump has ended. -/
structure Latched (s : Session) : Prop where
  fired : s.latch.fired = s.latch.reason.isSome
  waiting : s.phase = .waiting → s.latch.reason = none
  running :
    s.latch.reason = none →
      s.phase = .waiting ∨
        ∃ p q, s.phase = .relaying p q ∧
          p.isRunning = true ∧ q.isRunning = true

/-- What is left to say, by the phase: there is a summary exactly of a session
that is done, and it says how the session stands. -/
structure Summarised (s : Session) : Prop where
  closed : s.phase = .closed → ∃ summary, s.summary = some summary
  summary :
    ∀ summary, s.summary = some summary →
      s.phase = .closed ∧
      summary =
        { reason := s.reason
          bytesUp := s.bridge.stats.bytesUp
          bytesDown := s.bridge.stats.bytesDown }

section Steps

variable {s s' : Session} {event : Event}

/-- The state that is shown follows the phase. -/
theorem Next.state
    (hnext : Next s event s')
    (h : s.bridge.stats.state = s.phase.state) :
    s'.bridge.stats.state = s'.phase.state := by
  cases hnext with
  | move hchange =>
      cases hchange with
      | pumpInbound hphase hpump =>
          rw [hphase] at h
          cases hpump <;> simpa [Phase.state] using h
      | pumpOutbound hphase hpump =>
          rw [hphase] at h
          cases hpump <;> simpa [Phase.state] using h
      | empty hphase hslot hhand =>
          simpa using h
      | _ =>
          simp_all [Phase.state, enter]
  | stimulus x =>
      simpa using h
  | advance ms =>
      simpa using h

/-- Every event keeps the first reason. -/
theorem Next.reason
    {reason : CloseReason}
    (hnext : Next s event s')
    (h : s.latch.reason = some reason) :
    s'.latch.reason = some reason := by
  cases hnext with
  | move hchange =>
      cases hchange with
      | @pumpInbound p p' q b hphase hpump =>
          cases hresult : p'.result? with
          | none => exact h
          | some result => simp [fire_some_latch, Latch.trigger_reason, h]
      | @pumpOutbound p q q' b hphase hpump =>
          cases hresult : q'.result? with
          | none => exact h
          | some result => simp [fire_some_latch, Latch.trigger_reason, h]
      | _ =>
          exact h
  | stimulus x =>
      exact h
  | advance ms =>
      exact h

/-- Firing the latch if a pump has ended keeps what is known of the latch. -/
theorem latched_fire
    {direction : Direction} {result : Option PumpResult} {p : Inbound} {q : Outbound}
    (h : s.latch.fired = s.latch.reason.isSome)
    (hphase : s.phase = .relaying p q)
    (hrunning :
      result = none → s.latch.reason = none →
        p.isRunning = true ∧ q.isRunning = true) :
    (s.fire direction result).Latched := by
  cases result with
  | none =>
      refine ⟨h, fun hwaiting => ?_, fun hreason => ?_⟩
      · rw [fire_phase, hphase] at hwaiting
        cases hwaiting
      · exact Or.inr ⟨p, q, hphase, hrunning rfl hreason⟩
  | some result =>
      have hreason :
          ∃ r, (s.fire direction (some result)).latch.reason = some r :=
        ⟨_, Latch.trigger_reason⟩
      obtain ⟨r, hr⟩ := hreason
      refine ⟨?_, fun hwaiting => ?_, fun hnone => ?_⟩
      · rw [hr, fire_some_latch, Latch.trigger_fired h]
        rfl
      · rw [fire_phase, hphase] at hwaiting
        cases hwaiting
      · rw [hr] at hnone
        cases hnone

/-- As long as the latch has no reason, the pumps of an open session run. -/
theorem Latched.pumps_running
    {p : Inbound} {q : Outbound}
    (h : s.Latched)
    (hphase : s.phase = .relaying p q)
    (hnone : s.latch.reason = none) :
    p.isRunning = true ∧ q.isRunning = true := by
  rcases h.running hnone with hwaiting | ⟨p', q', hrelaying, hrunning⟩
  · rw [hphase] at hwaiting
    cases hwaiting
  · rw [hphase] at hrelaying
    cases hrelaying
    exact hrunning

/-- Every event keeps what is known of the latch. -/
theorem Latched.next
    (h : s.Latched)
    (hnext : Next s event s') :
    s'.Latched := by
  cases hnext with
  | move hchange =>
      cases hchange with
      | start hphase =>
          exact
            ⟨h.fired, nofun,
              fun _ => Or.inr ⟨_, _, rfl, rfl, rfl⟩⟩
      | pumpInbound hphase hpump =>
          refine latched_fire h.fired rfl (fun hresult hnone => ?_)
          exact
            ⟨hpump.isRunning_of_result? hresult, (h.pumps_running hphase hnone).2⟩
      | pumpOutbound hphase hpump =>
          refine latched_fire h.fired rfl (fun hresult hnone => ?_)
          exact
            ⟨(h.pumps_running hphase hnone).1, hpump.isRunning_of_result? hresult⟩
      | interruptInbound hphase hfired hrunning =>
          refine ⟨h.fired, nofun, fun hnone => ?_⟩
          have hsome := h.fired.symm.trans hfired
          simp_all
      | interruptOutbound hphase hfired hrunning =>
          refine ⟨h.fired, nofun, fun hnone => ?_⟩
          have hsome := h.fired.symm.trans hfired
          simp_all
      | empty hphase hslot hhand =>
          exact ⟨h.fired, h.waiting, h.running⟩
      | _ =>
          refine ⟨h.fired, nofun, fun hnone => ?_⟩
          rcases h.running hnone with hwaiting | ⟨p, q, hrelaying, hp, hq⟩
          all_goals simp_all
  | stimulus x =>
      exact ⟨h.fired, h.waiting, h.running⟩
  | advance ms =>
      exact ⟨h.fired, h.waiting, h.running⟩

/-- No move is possible once a session is done. -/
theorem Change.not_closed
    {m : Move}
    (hchange : Change s m s') :
    s.phase ≠ .closed := by
  cases hchange <;> simp_all

/-- Before a move there is no summary. -/
theorem Summarised.none_of_change
    {m : Move}
    (h : s.Summarised)
    (hchange : Change s m s') :
    s.summary = none := by
  rw [Option.eq_none_iff_forall_ne_some]
  intro summary hsummary
  exact hchange.not_closed (h.summary summary hsummary).1

/-- Every event keeps what is known of the summary. -/
theorem Summarised.next
    (h : s.Summarised)
    (hnext : Next s event s') :
    s'.Summarised := by
  cases hnext with
  | move hchange =>
      have hnone := h.none_of_change hchange
      cases hchange with
      | shutdown hphase hshutdown =>
          refine ⟨fun _ => ⟨_, rfl⟩, fun summary hsummary => ⟨rfl, ?_⟩⟩
          exact (Option.some.inj hsummary).symm
      | expireUpstream hphase hblocked hclock =>
          refine ⟨fun _ => ⟨_, rfl⟩, fun summary hsummary => ⟨rfl, ?_⟩⟩
          exact (Option.some.inj hsummary).symm
      | empty hphase hslot hhand =>
          refine ⟨fun hclosed => ?_, fun summary hsummary => ?_⟩
          · rw [show _ = Phase.closed from hclosed] at hphase
            cases hphase
          · rw [show _ = some summary from hsummary] at hnone
            cases hnone
      | _ =>
          refine ⟨fun hclosed => ?_, fun summary hsummary => ?_⟩
          · simp at hclosed
          · simp [enter, hnone] at hsummary
  | stimulus x =>
      refine ⟨h.closed, fun summary hsummary => ?_⟩
      simpa [Session.reason] using h.summary summary hsummary
  | advance ms =>
      exact ⟨h.closed, h.summary⟩

end Steps

section Runs

variable {bufferSize : Nat} {latencyMicros : UInt64} {metrics : Metrics}
  {s t : Session} {events before after : List Event}

/-- The state that is shown follows the phase. -/
theorem state_of_run
    (hrun : (fresh bufferSize latencyMicros metrics).run? events = some s) :
    s.bridge.stats.state = s.phase.state :=
  run_invariant (fun _ _ _ h hnext => hnext.state h) hrun rfl

/-- After every run, the latch is as the phase needs it. -/
theorem latched_of_run
    (hrun : (fresh bufferSize latencyMicros metrics).run? events = some s) :
    s.Latched := by
  refine run_invariant (fun _ _ _ h hnext => Latched.next h hnext) hrun ?_
  exact ⟨rfl, fun _ => rfl, fun _ => Or.inl rfl⟩

/-- After every run, there is a summary exactly if the session is done. -/
theorem summarised_of_run
    (hrun : (fresh bufferSize latencyMicros metrics).run? events = some s) :
    s.Summarised := by
  refine run_invariant (fun _ _ _ h hnext => Summarised.next h hnext) hrun ?_
  exact ⟨nofun, nofun⟩

/-- The reason at some point of a run stays to its end. -/
theorem reason_of_run
    {reason : CloseReason}
    (hrun : s.run? events = some t)
    (h : s.latch.reason = some reason) :
    t.latch.reason = some reason :=
  run_invariant (fun _ _ _ h hnext => hnext.reason h) hrun h

/-- A session that is not before its start or relaying has a reason. -/
theorem Latched.exists_reason
    (h : s.Latched)
    (hstate : s.phase.state = .closing ∨ s.phase.state = .closed) :
    ∃ reason, s.latch.reason = some reason := by
  cases hreason : s.latch.reason with
  | some reason =>
      exact ⟨reason, rfl⟩
  | none =>
      rcases h.running hreason with hphase | ⟨p, q, hphase, -, -⟩
      all_goals simp [hphase, Phase.state] at hstate

end Runs

end Session
end FrameBridge
