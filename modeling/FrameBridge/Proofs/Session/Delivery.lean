import FrameBridge.Proofs.Session.Cause
import FrameBridge.Proofs.Session.Integrity

/-!
# Nothing is lost when a source ends

A pump that ends because its source has come to the end leaves nothing behind:
all that the source sent was written or framed, flushed and counted.  Once a
pump has stopped and the slot holds no bytes, this does not change any more.
-/

namespace FrameBridge

section Ends

/-- The stream yields its end or a close frame only if no payload is left. -/
theorem payloads_of_next
    {c : ClientEnd}
    (hnext :
      c.next.1 = .done .ended ∨
        ∃ frame,
          c.next.1 = .done (.item (.frame frame)) ∧ frame.content = .close) :
    payloads c.inbox = [] := by
  rcases hnext with hended | ⟨frame, hframe, hcontent⟩
  · rw [(ClientEnd.next_eq_ended_iff.mp hended).1]
    rfl
  · rw [ClientEnd.next_eq_item_iff.mp hframe]
    simp [payloads, hcontent]

/-- A read brings no bytes only if none are left. -/
theorem streamBytes_of_read
    {u : UpstreamEnd} {limit : Nat}
    (hlimit : 1 ≤ limit)
    (hread : (u.read limit).1 = .done []) :
    streamBytes u.inbox = [] := by
  rcases UpstreamEnd.inbox_of_read_nil hlimit hread with hinbox | ⟨rest, hinbox⟩
  · rw [hinbox]
    rfl
  · rw [hinbox]
    rfl

end Ends

namespace Session

/-- The upstream was flushed when it had taken all of some bytes and no more. -/
def UploadFlushed
    (s₀ : Session) (events : List Event) (bytes : List UInt8) : Prop :=
  bytes = [] ∨
  s₀.Occurs events fun _ s event =>
    event = .move (.pump .inbound) ∧
    (∃ size, s.phase.inbound = .flushing size) ∧
    s.bridge.upstream.flush.1 = .done () ∧
    s.bridge.upstream.written = bytes

/-- The client was flushed when it had taken frames with all of some bytes and
no more. -/
def DownloadFlushed
    (s₀ : Session) (events : List Event) (bytes : List UInt8) : Prop :=
  bytes = [] ∨
  s₀.Occurs events fun _ s event =>
    event = .move (.pump .outbound) ∧
    (∃ size, s.phase.outbound = .flushing size) ∧
    s.bridge.client.flush.1 = .done () ∧
    frameBytes s.bridge.client.taken = bytes

/-- If a session closes because a source has come to its end, all that came
from it before was moved, flushed and counted. -/
def Delivered
    (s₀ : Session) (before : List Event) (s : Session) : CloseReason → Prop
  | .clientClosed =>
      s.bridge.upstream.written = (payloads (fromClient before)).flatten ∧
      s.bridge.stats.bytesUp =
        UInt64.ofNat (payloads (fromClient before)).flatten.length ∧
      UploadFlushed s₀ before (payloads (fromClient before)).flatten
  | .upstreamClosed =>
      frameBytes s.bridge.client.taken = streamBytes (fromUpstream before) ∧
      s.bridge.stats.bytesDown =
        UInt64.ofNat (streamBytes (fromUpstream before)).length ∧
      DownloadFlushed s₀ before (streamBytes (fromUpstream before))
  | .clientError => True
  | .upstreamError => True

section Flushed

variable {s₀ s s' : Session} {events : List Event} {event : Event}
  {bytes : List UInt8}

theorem UploadFlushed.concat
    (h : UploadFlushed s₀ events bytes) :
    UploadFlushed s₀ (events ++ [event]) bytes :=
  h.imp_right Occurs.append

theorem DownloadFlushed.concat
    (h : DownloadFlushed s₀ events bytes) :
    DownloadFlushed s₀ (events ++ [event]) bytes :=
  h.imp_right Occurs.append

/-- Whenever the pump to the upstream waits for the client, the upstream was
flushed after the last write. -/
theorem uploadFlushed_next
    (hrun : s₀.run? events = some s)
    (h :
      s.phase.inbound = .receiving →
        UploadFlushed s₀ events s.bridge.upstream.written)
    (hnext : Next s event s')
    (hreceiving : s'.phase.inbound = .receiving) :
    UploadFlushed s₀ (events ++ [event]) s'.bridge.upstream.written := by
  cases hnext with
  | move hchange =>
      cases hchange with
      | start hphase =>
          rw [hphase] at h
          exact (h rfl).concat
      | pumpInbound hphase hpump =>
          rw [hphase] at h
          cases hpump with
          | event hevent =>
              simpa using (h rfl).concat
          | write hwrite =>
              simp only [fire_phase, Phase.inbound_relaying, Inbound.afterWrite]
                at hreceiving
              split at hreceiving
              · cases hreceiving
              · split at hreceiving <;> cases hreceiving
          | writeFailed hwrite =>
              cases hreceiving
          | flush hflush =>
              refine Or.inr ((occurs_concat_iff hrun).mpr (Or.inr ?_))
              exact ⟨rfl, ⟨_, by rw [hphase]; rfl⟩, hflush, by simp⟩
          | flushFailed hflush =>
              cases hreceiving
      | pumpOutbound hphase hpump =>
          rw [hphase] at h
          have hkept := h (by simpa using hreceiving)
          cases hpump <;> simpa using hkept.concat
      | interruptOutbound hphase hfired hrunning =>
          rw [hphase] at h
          exact (h hreceiving).concat
      | empty hphase hslot hhand =>
          simp [hphase] at hreceiving
      | _ =>
          cases hreceiving
  | stimulus x =>
      simpa using (h hreceiving).concat
  | advance ms =>
      exact (h hreceiving).concat

/-- Whenever the pump to the client waits for the upstream, the client was
flushed after the last frame. -/
theorem downloadFlushed_next
    (hrun : s₀.run? events = some s)
    (h :
      s.phase.outbound = .reading →
        DownloadFlushed s₀ events (frameBytes s.bridge.client.taken))
    (hnext : Next s event s')
    (hreading : s'.phase.outbound = .reading) :
    DownloadFlushed s₀ (events ++ [event])
      (frameBytes s'.bridge.client.taken) := by
  cases hnext with
  | move hchange =>
      cases hchange with
      | start hphase =>
          rw [hphase] at h
          exact (h rfl).concat
      | pumpInbound hphase hpump =>
          rw [hphase] at h
          have hkept := h (by simpa using hreading)
          cases hpump <;> simpa using hkept.concat
      | pumpOutbound hphase hpump =>
          rw [hphase] at h
          cases hpump with
          | flush hflush =>
              refine Or.inr ((occurs_concat_iff hrun).mpr (Or.inr ?_))
              exact ⟨rfl, ⟨_, by rw [hphase]; rfl⟩, hflush, by simp⟩
          | _ =>
              simp at hreading
      | interruptInbound hphase hfired hrunning =>
          rw [hphase] at h
          exact (h hreading).concat
      | empty hphase hslot hhand =>
          simp [hphase] at hreading
      | _ =>
          cases hreading
  | stimulus x =>
      simpa using (h hreading).concat
  | advance ms =>
      exact (h hreading).concat

variable {bufferSize : Nat} {latencyMicros : UInt64} {metrics : Metrics}

/-- A pump waits for the client only after it flushed what it had written. -/
theorem uploadFlushed_of_run
    (hrun : (fresh bufferSize latencyMicros metrics).run? events = some s)
    (hreceiving : s.phase.inbound = .receiving) :
    UploadFlushed (fresh bufferSize latencyMicros metrics) events
      s.bridge.upstream.written := by
  refine run_induction
    (P := fun events s =>
      s.phase.inbound = .receiving →
        UploadFlushed (fresh bufferSize latencyMicros metrics) events
          s.bridge.upstream.written)
    (fun _ => Or.inl rfl) ?_ hrun hreceiving
  intro events t event t' ht ih hact
  exact uploadFlushed_next ht ih (next_of_act hact)

/-- A pump waits for the upstream only after it flushed the frames that it had sent. -/
theorem downloadFlushed_of_run
    (hrun : (fresh bufferSize latencyMicros metrics).run? events = some s)
    (hreading : s.phase.outbound = .reading) :
    DownloadFlushed (fresh bufferSize latencyMicros metrics) events
      (frameBytes s.bridge.client.taken) := by
  refine run_induction
    (P := fun events s =>
      s.phase.outbound = .reading →
        DownloadFlushed (fresh bufferSize latencyMicros metrics) events
          (frameBytes s.bridge.client.taken))
    (fun _ => Or.inl rfl) ?_ hrun hreading
  intro events t event t' ht ih hact
  exact downloadFlushed_next ht ih (next_of_act hact)

end Flushed

section Source

variable {s next : Session}

/-- A pump to the upstream that ends with its source leaves no payload behind,
and its last step writes and counts nothing. -/
theorem inbound_of_source_end
    (hpump : s.pump .inbound = some next)
    (hresult : next.phase.result? .inbound = some (.ok ())) :
    s.phase.inbound = .receiving ∧
      payloads s.bridge.client.inbox = [] ∧
      next.phase.inbound.isRunning = false ∧
      next.bridge.upstream.written = s.bridge.upstream.written ∧
      next.bridge.stats.bytesUp = s.bridge.stats.bytesUp := by
  obtain ⟨-, hreceiving, hend⟩ := cause_of_pump hpump hresult
  have hchange : Change s (.pump .inbound) next := change_of_step hpump
  cases hchange with
  | @pumpInbound p p' q b hphase hstep =>
      rw [hphase] at hreceiving
      simp only [Phase.inbound_relaying] at hreceiving
      subst hreceiving
      simp only [Phase.result?, fire_phase, Phase.inbound_relaying] at hresult
      have hstopped : p'.isRunning = false := by
        cases p' with
        | ended result => rfl
        | _ => cases hresult
      cases hstep with
      | event hevent =>
          exact
            ⟨by rw [hphase]; rfl, payloads_of_next hend, by simpa using hstopped,
              by simp, by simp⟩

/-- A pump to the client that ends with its source leaves no byte behind, and
its last step hands over and counts nothing. -/
theorem outbound_of_source_end
    (hpump : s.pump .outbound = some next)
    (hresult : next.phase.result? .outbound = some (.ok ())) :
    s.phase.outbound = .reading ∧
      streamBytes s.bridge.upstream.inbox = [] ∧
      next.phase.outbound.isRunning = false ∧
      next.bridge.slot = s.bridge.slot ∧
      next.bridge.client.taken = s.bridge.client.taken ∧
      next.bridge.stats.bytesDown = s.bridge.stats.bytesDown := by
  obtain ⟨-, hreading, hend⟩ := cause_of_pump hpump hresult
  have hchange : Change s (.pump .outbound) next := change_of_step hpump
  cases hchange with
  | @pumpOutbound p q q' b hphase hstep =>
      rw [hphase] at hreading
      simp only [Phase.outbound_relaying] at hreading
      subst hreading
      cases hstep with
      | readEnd hread =>
          exact
            ⟨by rw [hphase]; rfl, streamBytes_of_read (Nat.le_max_right _ _) hend,
              rfl, by simp, by simp, by simp⟩
      | read hread hne =>
          cases hresult
      | readFailed hread =>
          cases hresult

/-- While the pump to the upstream waits and no payload is left, all payloads
were written and counted. -/
theorem Uploads.complete
    {sent : List ClientItem}
    (h : s.Uploads sent)
    (hreceiving : s.phase.inbound = .receiving)
    (hnone : payloads s.bridge.client.inbox = []) :
    s.bridge.upstream.written = (payloads sent).flatten ∧
      s.bridge.stats.bytesUp = UInt64.ofNat (payloads sent).flatten.length := by
  unfold Uploads at h
  rw [hreceiving] at h
  obtain ⟨done, hcome, hwritten, hcounted⟩ := h
  have hall : payloads sent = done := by
    have hnow := hcome []
    rwa [List.append_nil, List.append_nil, hnone, List.append_nil] at hnow
  rw [hall]
  exact ⟨hwritten, hcounted⟩

/-- While the pump to the client waits and no byte is left, all bytes were
framed and counted. -/
theorem Downloads.complete
    {sent : List UpstreamItem}
    (h : s.Downloads sent)
    (hreading : s.phase.outbound = .reading)
    (hnone : streamBytes s.bridge.upstream.inbox = []) :
    s.bridge.slot = none ∧
      frameBytes s.bridge.client.taken = streamBytes sent ∧
      s.bridge.stats.bytesDown = UInt64.ofNat (streamBytes sent).length := by
  have hdownload :
      Download s.bridge.readLimit sent s.bridge.upstream.inbox
        s.bridge.client.taken s.bridge.slot s.bridge.stats.bytesDown .reading := by
    unfold Downloads at h
    cases hphase : s.phase with
    | waiting =>
        rwa [hphase] at h
    | relaying p q =>
        rw [hphase] at h hreading
        simp only [Phase.outbound_relaying] at hreading
        rwa [hreading] at h
    | _ =>
        simp [hphase] at hreading
  obtain ⟨done, hcame, -, htaken, hslot, hcounted⟩ := hdownload
  have hall : streamBytes sent = done.flatten := by
    have hnow := hcame []
    rwa [List.append_nil, List.append_nil, hnone, List.append_nil] at hnow
  rw [hall]
  exact ⟨hslot, by rw [htaken, frameBytes_map_binary], hcounted⟩

end Source

section Final

variable {s s' : Session} {event : Event} {events : List Event}

/-- However handing over goes, the bytes in hand are still there or were taken,
and the slot has all of them or none. -/
theorem handOver_held
    (b : Bridge) {held : List UInt8}
    (h : frameBytes b.slot.toList = [] ∨ frameBytes b.slot.toList = held) :
    ∃ held',
      frameBytes b.handOver.2.client.taken ++ held' =
        frameBytes b.client.taken ++ held ∧
      held'.length ≤ held.length ∧
      (frameBytes b.handOver.2.slot.toList = [] ∨
        frameBytes b.handOver.2.slot.toList = held') := by
  cases hhand : b.handOver.1 with
  | done value =>
      obtain ⟨hslot, htaken⟩ := b.handOver_of_done hhand
      rw [hslot, htaken, frameBytes_append]
      rcases h with hnone | hall
      · exact ⟨held, by rw [hnone, List.append_nil], Nat.le_refl _, Or.inl rfl⟩
      · exact ⟨[], by rw [hall, List.append_nil], Nat.zero_le _, Or.inl rfl⟩
  | failed text =>
      obtain ⟨htaken, hkept | hlost⟩ := b.handOver_of_failed hhand
      · rw [htaken, hkept]
        exact ⟨held, rfl, Nat.le_refl _, h⟩
      · rw [htaken, hlost]
        exact ⟨held, rfl, Nat.le_refl _, Or.inl rfl⟩
  | blocked =>
      rw [b.handOver_of_blocked hhand]
      exact ⟨held, rfl, Nat.le_refl _, h⟩

/-- Handing over a frame without bytes brings the client none. -/
theorem frameBytes_handOver
    {b : Bridge}
    (hslot : frameBytes b.slot.toList = []) :
    frameBytes b.handOver.2.slot.toList = [] ∧
      frameBytes b.handOver.2.client.taken = frameBytes b.client.taken := by
  obtain ⟨held, hsame, hless, hslot'⟩ := handOver_held b (Or.inl hslot : _ ∨ _ = [])
  obtain rfl : held = [] := List.length_eq_zero_iff.mp (Nat.le_zero.mp hless)
  rw [List.append_nil, List.append_nil] at hsame
  exact ⟨hslot'.elim id id, hsame⟩

/-- Once the pump to the client has stopped and there are no bytes in the slot,
an event brings the client no byte and counts none. -/
theorem Next.download_final
    (hnext : Next s event s')
    (hstopped : s.phase.outbound.isRunning = false)
    (hslot : frameBytes s.bridge.slot.toList = []) :
    s'.phase.outbound.isRunning = false ∧
      frameBytes s'.bridge.slot.toList = [] ∧
      frameBytes s'.bridge.client.taken = frameBytes s.bridge.client.taken ∧
      s'.bridge.stats.bytesDown = s.bridge.stats.bytesDown := by
  cases hnext with
  | move hchange =>
      have hhanded := frameBytes_handOver hslot
      cases hchange with
      | start hphase =>
          simp [hphase, Outbound.isRunning] at hstopped
      | pumpInbound hphase hpump =>
          rw [hphase] at hstopped
          cases hpump <;> simpa using ⟨hstopped, hslot⟩
      | pumpOutbound hphase hpump =>
          rw [hphase] at hstopped
          have hrunning := hpump.isRunning
          rw [Phase.outbound_relaying, hrunning] at hstopped
          cases hstopped
      | interruptInbound hphase hfired hrunning =>
          rw [hphase] at hstopped
          simpa using ⟨hstopped, hslot⟩
      | clear hphase hhand =>
          simpa [Outbound.isRunning, frameBytes, closeFrame] using hhanded.2
      | empty hphase hslot hhand =>
          simpa [hphase, Outbound.isRunning] using hhanded
      | _ =>
          simp_all [Outbound.isRunning, enter]
  | stimulus x =>
      simpa using ⟨hstopped, hslot⟩
  | advance ms =>
      exact ⟨hstopped, hslot, rfl, rfl⟩

/-- Once the pump to the client has stopped and there are no bytes in the slot,
the bytes that the client took and their count stay as they are. -/
theorem download_final
    (hrun : s.run? events = some s')
    (hstopped : s.phase.outbound.isRunning = false)
    (hslot : frameBytes s.bridge.slot.toList = []) :
    frameBytes s'.bridge.client.taken = frameBytes s.bridge.client.taken ∧
      s'.bridge.stats.bytesDown = s.bridge.stats.bytesDown := by
  suffices h :
      (s'.phase.outbound.isRunning = false ∧
        frameBytes s'.bridge.slot.toList = []) ∧
      frameBytes s'.bridge.client.taken = frameBytes s.bridge.client.taken ∧
      s'.bridge.stats.bytesDown = s.bridge.stats.bytesDown from h.2
  refine run_invariant
    (P := fun t =>
      (t.phase.outbound.isRunning = false ∧
        frameBytes t.bridge.slot.toList = []) ∧
      frameBytes t.bridge.client.taken = frameBytes s.bridge.client.taken ∧
      t.bridge.stats.bytesDown = s.bridge.stats.bytesDown)
    ?_ hrun ⟨⟨hstopped, hslot⟩, rfl, rfl⟩
  rintro t event t' ⟨⟨hstopped, hslot⟩, htaken, hcounted⟩ hnext
  have h := hnext.download_final hstopped hslot
  exact ⟨⟨h.1, h.2.1⟩, h.2.2.1.trans htaken, h.2.2.2.trans hcounted⟩

end Final

section Ended

variable {bufferSize : Nat} {latencyMicros : UInt64} {metrics : Metrics}
  {s t : Session} {before after : List Event} {event : Event}
  {direction : Direction} {result : PumpResult}

/-- From the event on that ends a pump first, what its reason promises of the
delivery holds. -/
theorem delivered_of_endsFirst
    (hbefore : (fresh bufferSize latencyMicros metrics).run? before = some t)
    (hends : EndsFirst direction result t event)
    (hafter : t.run? (event :: after) = some s) :
    Delivered (fresh bufferSize latencyMicros metrics) before s
      (CloseReason.ofResult direction result) := by
  obtain ⟨-, rfl, next, hpump, hresult⟩ := hends
  obtain ⟨u, hact, hrest⟩ := run?_cons.mp hafter
  obtain rfl : next = u := Option.some.inj (hpump.symm.trans hact)
  cases result with
  | error e =>
      cases e <;> trivial
  | ok value =>
      cases direction with
      | inbound =>
          obtain ⟨hreceiving, hnone, hstopped, hwritten, hcounted⟩ :=
            inbound_of_source_end hpump hresult
          obtain ⟨hall, hbytes⟩ :=
            (uploads_of_run hbefore).complete hreceiving hnone
          obtain ⟨-, hfinal, hcount⟩ := upload_final hrest hstopped
          refine ⟨?_, ?_, ?_⟩
          · rw [hfinal, hwritten, hall]
          · rw [hcount, hcounted, hbytes]
          · rw [← hall]
            exact uploadFlushed_of_run hbefore hreceiving
      | outbound =>
          obtain ⟨hreading, hnone, hstopped, hslot, htaken, hcounted⟩ :=
            outbound_of_source_end hpump hresult
          obtain ⟨hempty, hall, hbytes⟩ :=
            (downloads_of_run hbefore).complete hreading hnone
          have hno : frameBytes next.bridge.slot.toList = [] := by
            rw [hslot, hempty]
            rfl
          obtain ⟨hfinal, hcount⟩ := download_final hrest hstopped hno
          refine ⟨?_, ?_, ?_⟩
          · rw [hfinal, htaken, hall]
          · rw [hcount, hcounted, hbytes]
          · rw [← hall]
            exact downloadFlushed_of_run hbefore hreading

end Ended

end Session
end FrameBridge
