import FrameBridge.Proofs.Counting
import FrameBridge.Proofs.Session.Delivery

/-!
# Why a session closes

The reason of a session is that of the pump that ended first, and nothing that
happens later changes it.  The summary, the close frame and the sample of how
long the session lasted all show this reason.
-/

namespace FrameBridge

namespace Session

/-- Since some metrics, the only sample of how long a session lasted was taken
with the reason of the summary. -/
def Sampled (metrics : Metrics) (s : Session) : Prop :=
  ∀ reason,
    s.bridge.metrics.value (.sessionDuration reason) =
      metrics.value (.sessionDuration reason) +
        if s.summary.map Summary.reason = some reason then 1 else 0

section Samples

variable {metrics : Metrics} {s s' : Session} {event : Event}

/-- A session that ends takes its sample. -/
theorem Sampled.finish
    (h : s.Sampled metrics)
    (hnone : s.summary = none) :
    s.finish.Sampled metrics := by
  intro reason
  have hbefore := h reason
  rw [hnone] at hbefore
  simp only [finish_metrics, finish_summary, Option.map_some, Option.some.injEq]
  by_cases hreason : s.reason = reason
  · rw [hreason, Metrics.value_add_self, hbefore]
    simp
  · have hne : Metric.sessionDuration s.reason ≠ .sessionDuration reason := by
      simpa using hreason
    rw [Metrics.value_add_of_ne _ _ hne, hbefore]
    simp [hreason]

/-- Every event takes the samples that its session owes. -/
theorem Sampled.next
    (h : s.Sampled metrics)
    (hsummary : s.Summarised)
    (hnext : Next s event s') :
    s'.Sampled metrics := by
  cases hnext with
  | move hchange =>
      have hnone := hsummary.none_of_change hchange
      cases hchange with
      | start hphase =>
          intro reason
          exact (Metrics.value_add_of_ne _ _ (by simp)).trans (h reason)
      | pumpInbound hphase hpump =>
          intro reason
          rw [fire_summary, fire_bridge, ← h reason]
          cases hpump with
          | flush hflush =>
              exact Metrics.value_add_of_ne _ _ (by simp)
          | _ =>
              rfl
      | pumpOutbound hphase hpump =>
          intro reason
          rw [fire_summary, fire_bridge, ← h reason]
          cases hpump with
          | flush hflush =>
              exact Metrics.value_add_of_ne _ _ (by simp)
          | _ =>
              simp
      | shutdown hphase hshutdown =>
          have hsame :
              Sampled metrics
                { s with bridge.upstream := s.bridge.upstream.shutdown.2 } := h
          exact hsame.finish hnone
      | expireUpstream hphase hblocked hclock =>
          exact h.finish hnone
      | _ =>
          intro reason
          simpa [enter] using h reason
  | stimulus x =>
      intro reason
      simpa using h reason
  | advance ms =>
      exact h

end Samples

section Frames

variable {s : Session} {sent : List UpstreamItem}

/-- As long as the latch has no reason, no frame but binary frames was taken. -/
theorem Downloads.binary_of_reason_none
    {frame : Frame}
    (h : s.Downloads sent)
    (hlatched : s.Latched)
    (hnone : s.latch.reason = none)
    (hframe : frame ∈ s.bridge.client.taken) :
    ∃ data, frame = .binary data := by
  have hstopped :
      DownloadStopped s.bridge.readLimit sent s.bridge.client.taken
        s.bridge.slot s.bridge.stats.bytesDown [] := by
    unfold Downloads at h
    rcases hlatched.running hnone with hphase | ⟨p, q, hphase, -, -⟩
    · rw [hphase] at h
      exact Download.stopped h
    · rw [hphase] at h
      exact Download.stopped h
  obtain ⟨done, extra, -, -, -, htaken, -, -⟩ := hstopped
  have hmem : frame ∈ (done ++ extra).map .binary := by
    rw [List.append_nil] at htaken
    rw [← htaken]
    exact List.mem_append_left _ hframe
  obtain ⟨data, -, rfl⟩ := List.mem_map.mp hmem
  exact ⟨data, rfl⟩

end Frames

section Runs

variable {bufferSize : Nat} {latencyMicros : UInt64} {metrics : Metrics}
  {events : List Event} {s : Session}

/-- Durations are sampled as the summary tells, after every run. -/
theorem sampled_of_run
    (hrun : (fresh bufferSize latencyMicros metrics).run? events = some s) :
    s.Sampled metrics := by
  suffices h : s.Sampled metrics ∧ s.Summarised from h.1
  refine run_invariant (P := fun s => s.Sampled metrics ∧ s.Summarised)
    ?_ hrun ⟨fun reason => ?_, nofun, nofun⟩
  · rintro t event t' ⟨hsampled, hsummary⟩ hnext
    exact ⟨hsampled.next hsummary hnext, hsummary.next hnext⟩
  · simp [fresh]

/-- The close frame shows the reason of the latch. -/
theorem closeFrame_of_run
    {status : Option (UInt16 × String)}
    (hrun : (fresh bufferSize latencyMicros metrics).run? events = some s)
    (hframe : Frame.close status ∈ s.bridge.client.taken) :
    ∃ reason, s.latch.reason = some reason ∧
      status = some (reason.code, reason.label) := by
  have hdown := downloads_of_run hrun
  cases hreason : s.latch.reason with
  | none =>
      obtain ⟨data, hdata⟩ :=
        hdown.binary_of_reason_none (latched_of_run hrun) hreason hframe
      cases hdata
  | some reason =>
      refine ⟨reason, rfl, ?_⟩
      rcases hdown.closing.mem_frames (List.mem_append_left _ hframe) with
        ⟨data, hdata, -⟩ | hclose
      · cases hdata
      · rw [Session.reason, hreason] at hclose
        exact Frame.close.inj hclose

/--
In every run:

* a session that closes has a reason in its latch, so that the reason it would
  show without one is never shown, and a session that is done has a summary,
  with this reason and the bytes that were counted;
* an event ended a pump when the latch had no reason, the reason is that of the
  pump's result, the call that ended the pump fits it, and if a source has come
  to its end, all that it sent before was moved, flushed and counted;
* the reason of the latch never changes;
* a close frame that the client took carries the code and the text of the
  reason, and one sample of how long the session lasted is taken, with the
  reason of the summary.
-/
theorem close_reason_attribution
    (hrun : (fresh bufferSize latencyMicros metrics).run? events = some s) :
    (s.bridge.stats.state = .closing ∨ s.bridge.stats.state = .closed →
      ∃ reason, s.latch.reason = some reason) ∧
    (s.bridge.stats.state = .closed → ∃ summary, s.summary = some summary) ∧
    (∀ summary, s.summary = some summary →
      s.latch.reason = some summary.reason ∧
      summary.bytesUp = s.bridge.stats.bytesUp ∧
      summary.bytesDown = s.bridge.stats.bytesDown) ∧
    (∀ reason, s.latch.reason = some reason →
      ∃ before event after t direction result,
        events = before ++ event :: after ∧
        (fresh bufferSize latencyMicros metrics).run? before = some t ∧
        EndsFirst direction result t event ∧
        reason = CloseReason.ofResult direction result ∧
        Cause t direction reason ∧
        Delivered (fresh bufferSize latencyMicros metrics) before s reason) ∧
    (∀ before after t reason,
      events = before ++ after →
      (fresh bufferSize latencyMicros metrics).run? before = some t →
      t.latch.reason = some reason →
      s.latch.reason = some reason) ∧
    (∀ status, Frame.close status ∈ s.bridge.client.taken →
      ∃ reason, s.latch.reason = some reason ∧
        status = some (reason.code, reason.label)) ∧
    (∀ reason,
      s.bridge.metrics.value (.sessionDuration reason) =
        metrics.value (.sessionDuration reason) +
          if s.summary.map Summary.reason = some reason then 1 else 0) := by
  have hstate := state_of_run hrun
  have hlatched := latched_of_run hrun
  have hsummarised := summarised_of_run hrun
  refine ⟨?_, ?_, ?_, ?_, ?_, fun status => closeFrame_of_run hrun,
    sampled_of_run hrun⟩
  · rw [hstate]
    exact hlatched.exists_reason
  · intro hclosed
    rw [hstate] at hclosed
    exact hsummarised.closed (Phase.closed_of_state hclosed)
  · intro summary hsummary
    obtain ⟨hphase, rfl⟩ := hsummarised.summary summary hsummary
    obtain ⟨reason, hreason⟩ :=
      hlatched.exists_reason (Or.inr (by rw [hphase]; rfl))
    refine ⟨?_, rfl, rfl⟩
    simp [Session.reason, hreason]
  · intro reason hreason
    obtain ⟨before, event, after, t, rfl, hbefore, direction, result, hends,
      rfl⟩ := exists_endsFirst rfl hrun hreason
    have hcause : Cause t direction (CloseReason.ofResult direction result) := by
      obtain ⟨-, -, next, hpump, hresult⟩ := hends
      exact cause_of_pump hpump hresult
    have hafter := run?_after hrun hbefore
    exact
      ⟨before, event, after, t, direction, result, rfl, hbefore, hends, rfl,
        hcause, delivered_of_endsFirst hbefore hends hafter⟩
  · rintro before after t reason rfl hbefore hreason
    have hafter := run?_after hrun hbefore
    exact reason_of_run hafter hreason

/-- The client sends a payload and a close frame, and before the session closes
the upstream fails as well. -/
def farewell : List Event :=
  [.move .start,
   .stimulus (.clientItems [.frame (.binary [1, 2, 3]), .frame (.close none)]),
   .stimulus (.upstreamItem (.failure "reset")),
   .move (.pump .inbound),
   .move (.pump .inbound),
   .move (.pump .inbound),
   .move (.pump .inbound),
   .move (.pump .outbound),
   .move .beginClosing,
   .move .closeClient,
   .move .closeClient,
   .move .closeClient,
   .move .closeClient,
   .move .closeUpstream]

theorem close_reason_attribution_farewell :
    ∃ s, (fresh 4096 0 {}).run? farewell = some s ∧
      s.summary =
        some { reason := .clientClosed, bytesUp := 3, bytesDown := 0 } ∧
      Frame.close (some (1000, "client_closed")) ∈ s.bridge.client.taken ∧
      s.latch.reason = some .clientClosed ∧
      ∃ before event after t direction result,
        farewell = before ++ event :: after ∧
        (fresh 4096 0 {}).run? before = some t ∧
        EndsFirst direction result t event ∧
        .clientClosed = CloseReason.ofResult direction result ∧
        Cause t direction .clientClosed ∧
        Delivered (fresh 4096 0 {}) before s .clientClosed := by
  obtain ⟨s, hrun⟩ : ∃ s, (fresh 4096 0 {}).run? farewell = some s := ⟨_, rfl⟩
  obtain ⟨-, -, hsummary, hfirst, -⟩ := close_reason_attribution hrun
  have hdone :
      s.summary =
        some { reason := .clientClosed, bytesUp := 3, bytesDown := 0 } := by
    cases hrun
    rfl
  have htaken : s.bridge.client.taken = [closeFrame .clientClosed] := by
    cases hrun
    rfl
  have hreason := (hsummary _ hdone).1
  refine ⟨s, hrun, hdone, ?_, hreason, hfirst _ hreason⟩
  rw [htaken]
  exact List.mem_singleton.mpr rfl

end Runs

end Session
end FrameBridge
