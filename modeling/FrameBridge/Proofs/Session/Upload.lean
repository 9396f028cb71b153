import FrameBridge.Proofs.Session.Run

/-!
# What reaches the upstream

The payloads of the client are those of its binary and text frames before the
first close frame or failure.  `Upload` says, for each place where the pump to
the upstream can stand, how the bytes that were written and the bytes that were
counted fit these payloads.  Every event of a run keeps it.

Once the pump has stopped, nothing more is written or counted.
-/

namespace FrameBridge

/-- The payloads before the first close frame or failure. -/
def payloads : List ClientItem → List (List UInt8)
  | [] => []
  | .failure _ :: _ => []
  | .frame frame :: rest =>
      match frame.content with
      | .payload data => data :: payloads rest
      | .control => payloads rest
      | .close => []

/-- Whatever the client sends later, its payloads are some that have come, and
then those of the queue. -/
def PayloadsCame
    (sent inbox : List ClientItem)
    (come : List (List UInt8)) : Prop :=
  ∀ later, payloads (sent ++ later) = come ++ payloads (inbox ++ later)

/-- How far the payloads got when the pump to the upstream stopped: some were
written and counted, and of at most one more some bytes were written. -/
def UploadStopped
    (sent : List ClientItem) (written : List UInt8) (counted : UInt64) : Prop :=
  ∃ (done current : List (List UInt8)) (part : List UInt8),
    done ++ current <+: payloads sent ∧
    current.length ≤ 1 ∧
    part <+: current.flatten ∧
    written = done.flatten ++ part ∧
    counted = UInt64.ofNat done.flatten.length

/-- How the bytes that were written and counted fit the payloads of the client,
by where the pump to the upstream stands. -/
def Upload
    (sent inbox : List ClientItem)
    (written : List UInt8) (counted : UInt64) : Inbound → Prop
  | .receiving =>
      ∃ done,
        PayloadsCame sent inbox done ∧
        written = done.flatten ∧
        counted = UInt64.ofNat done.flatten.length
  | .writing rest size =>
      ∃ done part,
        PayloadsCame sent inbox (done ++ [part ++ rest]) ∧
        size = (part ++ rest).length ∧
        written = done.flatten ++ part ∧
        counted = UInt64.ofNat done.flatten.length
  | .flushing size =>
      ∃ done last,
        PayloadsCame sent inbox (done ++ [last]) ∧
        size = last.length ∧
        written = done.flatten ++ last ∧
        counted = UInt64.ofNat done.flatten.length
  | .ended _ => UploadStopped sent written counted
  | .interrupted => UploadStopped sent written counted

section Payloads

/-- What comes after some items takes no payload of them away. -/
theorem payloads_prefix_append
    (sent later : List ClientItem) :
    payloads sent <+: payloads (sent ++ later) := by
  induction sent with
  | nil =>
      exact List.nil_prefix
  | cons item rest ih =>
      cases item with
      | failure text =>
          exact List.prefix_rfl
      | frame frame =>
          simp only [List.cons_append, payloads]
          cases frame.content with
          | payload data =>
              exact (List.prefix_cons_inj data).mpr ih
          | control =>
              exact ih
          | close =>
              exact List.prefix_rfl

variable {sent inbox rest items : List ClientItem} {come : List (List UInt8)}

/-- The payloads that came are the first of the stream. -/
theorem PayloadsCame.beginning
    (h : PayloadsCame sent inbox come) :
    come <+: payloads sent := by
  have hnow := h []
  rw [List.append_nil] at hnow
  exact ⟨_, hnow.symm⟩

theorem PayloadsCame.send
    (h : PayloadsCame sent inbox come) :
    PayloadsCame (sent ++ items) (inbox ++ items) come := by
  intro later
  rw [List.append_assoc, List.append_assoc]
  exact h (items ++ later)

theorem PayloadsCame.payload
    {frame : Frame} {data : List UInt8}
    (h : PayloadsCame sent (.frame frame :: rest) come)
    (hcontent : frame.content = .payload data) :
    PayloadsCame sent rest (come ++ [data]) := by
  intro later
  rw [h later]
  simp [payloads, hcontent]

/-- Frames without a payload count for nothing. -/
theorem PayloadsCame.control
    {frame : Frame}
    (h : PayloadsCame sent (.frame frame :: rest) come)
    (hcontent : frame.content = .control) :
    PayloadsCame sent rest come := by
  intro later
  rw [h later]
  simp [payloads, hcontent]

end Payloads

namespace Upload

variable {sent inbox : List ClientItem}
  {written : List UInt8} {counted : UInt64}

@[simp] theorem ended_iff
    {result : PumpResult} :
    Upload sent inbox written counted (.ended result) ↔
      UploadStopped sent written counted :=
  Iff.rfl

@[simp] theorem interrupted_iff :
    Upload sent inbox written counted .interrupted ↔
      UploadStopped sent written counted :=
  Iff.rfl

/-- The pump may stop wherever it stands. -/
theorem stopped
    {p : Inbound}
    (h : Upload sent inbox written counted p) :
    UploadStopped sent written counted := by
  cases p with
  | receiving =>
      obtain ⟨done, hcome, hwritten, hcounted⟩ := h
      exact
        ⟨done, [], [], by simpa using hcome.beginning, by simp, by simp,
          by simpa using hwritten, hcounted⟩
  | writing rest size =>
      obtain ⟨done, part, hcome, -, hwritten, hcounted⟩ := h
      exact
        ⟨done, [part ++ rest], part, hcome.beginning, by simp, by simp,
          hwritten, hcounted⟩
  | flushing size =>
      obtain ⟨done, last, hcome, -, hwritten, hcounted⟩ := h
      exact
        ⟨done, [last], last, hcome.beginning, by simp, by simp,
          hwritten, hcounted⟩
  | ended result =>
      exact h
  | interrupted =>
      exact h

/-- What the client sends leaves the account as it was. -/
theorem send
    {items : List ClientItem} {p : Inbound}
    (h : Upload sent inbox written counted p) :
    Upload (sent ++ items) (inbox ++ items) written counted p := by
  have hstopped :
      UploadStopped sent written counted →
        UploadStopped (sent ++ items) written counted := by
    rintro ⟨done, current, part, hbegin, hrest⟩
    exact
      ⟨done, current, part,
        hbegin.trans (payloads_prefix_append sent items), hrest⟩
  cases p with
  | receiving =>
      obtain ⟨done, hcome, hrest⟩ := h
      exact ⟨done, hcome.send, hrest⟩
  | writing rest size =>
      obtain ⟨done, part, hcome, hrest⟩ := h
      exact ⟨done, part, hcome.send, hrest⟩
  | flushing size =>
      obtain ⟨done, last, hcome, hrest⟩ := h
      exact ⟨done, last, hcome.send, hrest⟩
  | ended result =>
      exact hstopped h
  | interrupted =>
      exact hstopped h

/-- What the stream yields starts a payload, is passed over, or ends the pump. -/
theorem afterEvent
    {b : Bridge} {event : ClientEvent}
    (h : Upload sent b.client.inbox written counted .receiving)
    (hnext : b.client.next.1 = .done event) :
    Upload sent b.client.next.2.inbox written counted
      (Inbound.afterEvent event) := by
  cases event with
  | ended =>
      exact h.stopped
  | item item =>
      rw [ClientEnd.next_eq_item_iff] at hnext
      cases item with
      | failure text =>
          exact h.stopped
      | frame frame =>
          have hended := h.stopped
          obtain ⟨done, hcome, hwritten, hcounted⟩ := h
          rw [hnext] at hcome
          simp only [Inbound.afterEvent, ClientEnd.next_snd]
          split
          · rename_i data hcontent
            have hcome := hcome.payload hcontent
            split
            · rename_i hdata
              subst hdata
              exact ⟨done ++ [[]], hcome, by simpa using hwritten,
                by simpa using hcounted⟩
            · exact ⟨done, [], by simpa using hcome, rfl,
                by simpa using hwritten, hcounted⟩
          · rename_i hcontent
            exact ⟨done, hcome.control hcontent, hwritten, hcounted⟩
          · exact hended

/-- A write moves bytes from the rest of a payload to what was written. -/
theorem afterWrite
    {rest : List UInt8} {size n : Nat}
    (h : Upload sent inbox written counted (.writing rest size)) :
    Upload sent inbox (written ++ rest.take n) counted
      (Inbound.afterWrite rest size n) := by
  unfold Inbound.afterWrite
  split
  · rename_i hzero
    subst hzero
    simpa using h.stopped
  · obtain ⟨done, part, hcome, hsize, hwritten, hcounted⟩ := h
    have hpart : part ++ rest = (part ++ rest.take n) ++ rest.drop n := by
      rw [List.append_assoc, List.take_append_drop]
    have hwritten' :
        written ++ rest.take n = done.flatten ++ (part ++ rest.take n) := by
      rw [hwritten, List.append_assoc]
    rw [hpart] at hcome hsize
    split
    · rename_i hdrop
      rw [hdrop, List.append_nil] at hcome hsize
      exact ⟨done, part ++ rest.take n, hcome, hsize, hwritten', hcounted⟩
    · exact ⟨done, part ++ rest.take n, hcome, hsize, hwritten', hcounted⟩

/-- A payload that was flushed is counted. -/
theorem afterFlush
    {size : Nat}
    (h : Upload sent inbox written counted (.flushing size)) :
    Upload sent inbox written (counted + UInt64.ofNat size) .receiving := by
  obtain ⟨done, last, hcome, hsize, hwritten, hcounted⟩ := h
  refine ⟨done ++ [last], hcome, by simpa using hwritten, ?_⟩
  rw [hcounted, hsize, ← UInt64.ofNat_add]
  simp

/-- A step of the pump keeps the account. -/
theorem step
    {b b' : Bridge} {p p' : Inbound}
    (h : Upload sent b.client.inbox b.upstream.written b.stats.bytesUp p)
    (hchange : Inbound.Change b p p' b') :
    Upload sent b'.client.inbox b'.upstream.written b'.stats.bytesUp p' := by
  cases hchange with
  | event hnext =>
      exact h.afterEvent hnext
  | write hwrite =>
      rw [UpstreamEnd.write_written_of_done hwrite]
      exact h.afterWrite
  | writeFailed hwrite =>
      rw [UpstreamEnd.write_written_of_failed hwrite]
      exact h.stopped
  | flush hflush =>
      simpa using h.afterFlush
  | flushFailed hflush =>
      simpa using h.stopped

end Upload

namespace Session

/-- The account of what reached the upstream holds for a session. -/
def Uploads (s : Session) (sent : List ClientItem) : Prop :=
  Upload sent s.bridge.client.inbox s.bridge.upstream.written
    s.bridge.stats.bytesUp s.phase.inbound

/-- Before the start, nothing was written or counted. -/
theorem fresh_uploads
    (bufferSize : Nat) (latencyMicros : UInt64) (metrics : Metrics) :
    (fresh bufferSize latencyMicros metrics).Uploads [] :=
  ⟨[], fun _ => rfl, rfl, rfl⟩

/-- A move keeps the account. -/
theorem Uploads.move
    {s s' : Session} {m : Move} {sent : List ClientItem}
    (h : s.Uploads sent)
    (hchange : Change s m s') :
    s'.Uploads sent := by
  unfold Uploads at h ⊢
  cases hchange with
  | start hphase =>
      simpa [hphase, enter] using h
  | pumpInbound hphase hpump =>
      rw [hphase] at h
      simpa using h.step hpump
  | pumpOutbound hphase hpump =>
      rw [hphase] at h
      cases hpump <;> simpa using h
  | interruptInbound hphase hfired hrunning =>
      exact h.stopped
  | interruptOutbound hphase hfired hrunning =>
      simpa [hphase] using h
  | empty hphase hslot hhand =>
      simpa using h
  | _ =>
      simpa [enter] using h.stopped

/-- Every event keeps the account. -/
theorem Uploads.next
    {s s' : Session} {event : Event} {sent : List ClientItem}
    (h : s.Uploads sent)
    (hnext : Next s event s') :
    s'.Uploads (sent ++ event.fromClient) := by
  cases hnext with
  | move hchange =>
      simpa [Event.fromClient] using h.move hchange
  | stimulus x =>
      simpa [Uploads, Event.fromClient] using Upload.send h
  | advance ms =>
      simpa [Uploads, Event.fromClient] using h

/-- The account holds after every run. -/
theorem uploads_of_run
    {bufferSize : Nat} {latencyMicros : UInt64} {metrics : Metrics}
    {events : List Event} {s : Session}
    (hrun : (fresh bufferSize latencyMicros metrics).run? events = some s) :
    s.Uploads (fromClient events) := by
  refine run_induction (P := fun events s => s.Uploads (fromClient events))
    (fresh_uploads bufferSize latencyMicros metrics) ?_ hrun
  intro events s event s' _ h hact
  rw [fromClient_concat]
  exact h.next (next_of_act hact)

section Stopped

/-- Once the pump to the upstream has stopped, an event writes and counts
nothing more. -/
theorem Next.upload_final
    {s s' : Session} {event : Event}
    (hnext : Next s event s')
    (hstopped : s.phase.inbound.isRunning = false) :
    s'.phase.inbound.isRunning = false ∧
      s'.bridge.upstream.written = s.bridge.upstream.written ∧
      s'.bridge.stats.bytesUp = s.bridge.stats.bytesUp := by
  cases hnext with
  | move hchange =>
      cases hchange with
      | start hphase =>
          simp [hphase, Inbound.isRunning] at hstopped
      | pumpInbound hphase hpump =>
          rw [hphase] at hstopped
          cases hpump <;> simp [Inbound.isRunning] at hstopped
      | pumpOutbound hphase hpump =>
          rw [hphase] at hstopped
          cases hpump <;> simpa using hstopped
      | interruptOutbound hphase hfired hrunning =>
          simpa [hphase] using hstopped
      | empty hphase hslot hhand =>
          simpa using hstopped
      | _ =>
          simp [Inbound.isRunning, enter]
  | stimulus x =>
      simpa using hstopped
  | advance ms =>
      simpa using hstopped

/-- Once the pump to the upstream has stopped, what was written and counted
stays as it is. -/
theorem upload_final
    {s s' : Session} {events : List Event}
    (hrun : s.run? events = some s')
    (hstopped : s.phase.inbound.isRunning = false) :
    s'.phase.inbound.isRunning = false ∧
      s'.bridge.upstream.written = s.bridge.upstream.written ∧
      s'.bridge.stats.bytesUp = s.bridge.stats.bytesUp := by
  refine run_invariant
    (P := fun t =>
      t.phase.inbound.isRunning = false ∧
        t.bridge.upstream.written = s.bridge.upstream.written ∧
        t.bridge.stats.bytesUp = s.bridge.stats.bytesUp)
    ?_ hrun ⟨hstopped, rfl, rfl⟩
  rintro t event t' ⟨hstopped, hwritten, hcounted⟩ hnext
  have h := hnext.upload_final hstopped
  exact ⟨h.1, h.2.1.trans hwritten, h.2.2.trans hcounted⟩

end Stopped

end Session
end FrameBridge
