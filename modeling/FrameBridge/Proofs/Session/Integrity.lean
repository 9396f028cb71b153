import FrameBridge.Proofs.Session.Download
import FrameBridge.Proofs.Session.Upload

/-!
# Streams arrive whole and in order

At every point of every run, what the upstream took is the beginning of what
the client sent, and what the client took in binary frames is the beginning of
what the upstream sent.  What was counted lags behind by at most one payload or
frame.
-/

namespace FrameBridge

/-- The bytes in the binary frames among some frames. -/
def frameBytes (frames : List Frame) : List UInt8 :=
  frames.flatMap fun
    | .binary data => data
    | _ => []

section FrameBytes

variable (frames more : List Frame) (pieces : List (List UInt8))

@[simp] theorem frameBytes_append :
    frameBytes (frames ++ more) = frameBytes frames ++ frameBytes more := by
  simp [frameBytes]

@[simp] theorem frameBytes_map_binary :
    frameBytes (pieces.map .binary) = pieces.flatten := by
  induction pieces with
  | nil =>
      rfl
  | cons data rest ih =>
      simpa [frameBytes] using ih

theorem frameBytes_mono
    {frames more : List Frame}
    (h : frames <+: more) :
    frameBytes frames <+: frameBytes more := by
  obtain ⟨rest, rfl⟩ := h
  rw [frameBytes_append]
  exact List.prefix_append _ _

end FrameBytes

namespace UploadStopped

variable {sent : List ClientItem} {written : List UInt8} {counted : UInt64}

/-- What was written is the beginning of the payloads. -/
theorem written_beginning
    (h : UploadStopped sent written counted) :
    written <+: (payloads sent).flatten := by
  obtain ⟨done, current, part, ⟨rest, hrest⟩, -, hpart, rfl, -⟩ := h
  rw [← hrest, List.flatten_append, List.flatten_append, List.append_assoc]
  exact (List.prefix_append_right_inj _).mpr
    (hpart.trans (List.prefix_append _ _))

/-- What was counted was written, and of what was written no more than one
payload was not counted. -/
theorem counted_le
    (h : UploadStopped sent written counted)
    (hsmall : written.length < 2 ^ 64) :
    counted.toNat ≤ written.length ∧
      ∃ data, (data = [] ∨ data ∈ payloads sent) ∧
        written.length ≤ counted.toNat + data.length := by
  obtain ⟨done, current, part, hbegin, hcurrent, hpart, rfl, rfl⟩ := h
  rw [List.length_append] at hsmall ⊢
  have hfits : done.flatten.length < 2 ^ 64 := by omega
  rw [UInt64.toNat_ofNat_of_lt' hfits]
  refine ⟨Nat.le_add_right _ _, current.flatten, ?_, ?_⟩
  · match current, hcurrent with
    | [], _ =>
        exact Or.inl rfl
    | [data], _ =>
        refine Or.inr (hbegin.mem ?_)
        simp
  · exact Nat.add_le_add_left hpart.length_le _

end UploadStopped

namespace DownloadClosing

variable {limit : Nat} {sent : List UpstreamItem} {counted : UInt64}
  {reason : CloseReason} {taken : List Frame} {slot : Option Frame}

/-- The bytes in the frames that were taken are the beginning of the bytes of
the upstream. -/
theorem taken_beginning
    (h : DownloadClosing limit sent taken slot counted reason) :
    frameBytes taken <+: streamBytes sent := by
  obtain ⟨close, hclose, done, extra, hbegin, -, -, htaken, -, -⟩ := h
  have hempty : frameBytes close = [] := by
    rcases hclose with rfl | rfl <;> rfl
  have hbytes := congrArg frameBytes htaken
  simp only [frameBytes_append, frameBytes_map_binary, hempty,
    List.append_nil] at hbytes
  have htaken' : frameBytes taken <+: (done ++ extra).flatten :=
    ⟨_, hbytes⟩
  exact htaken'.trans hbegin

/-- The frames that were taken, and the one in the slot, are binary frames
within the limit, but for the close frame. -/
theorem mem_frames
    {frame : Frame}
    (h : DownloadClosing limit sent taken slot counted reason)
    (hframe : frame ∈ taken ++ slot.toList) :
    (∃ data, frame = .binary data ∧ 1 ≤ data.length ∧ data.length ≤ limit) ∨
      frame = Session.closeFrame reason := by
  obtain ⟨close, hclose, done, extra, -, hsized, -, htaken, -, -⟩ := h
  rw [htaken, List.mem_append, List.mem_map] at hframe
  rcases hframe with ⟨data, hdata, rfl⟩ | hframe
  · exact Or.inl ⟨data, rfl, hsized data hdata⟩
  · rcases hclose with rfl | rfl
    · cases hframe
    · exact Or.inr (List.mem_singleton.mp hframe)

/-- What was counted was taken, and of what was taken no more than one frame
was not counted. -/
theorem counted_le
    (h : DownloadClosing limit sent taken slot counted reason)
    (hsmall : (frameBytes taken).length < 2 ^ 64) :
    counted.toNat ≤ (frameBytes taken).length ∧
      (frameBytes taken).length ≤ counted.toNat + limit := by
  obtain ⟨close, hclose, done, extra, -, hsized, hextra, htaken, hdone, rfl⟩ := h
  have hempty : frameBytes close = [] := by
    rcases hclose with rfl | rfl <;> rfl
  have hbytes := congrArg (fun frames => (frameBytes frames).length) htaken
  simp only [frameBytes_append, frameBytes_map_binary, hempty, List.append_nil,
    List.length_append, List.flatten_append] at hbytes
  have hcounted := (frameBytes_mono hdone).length_le
  rw [frameBytes_map_binary] at hcounted
  have hlast : extra.flatten.length ≤ limit := by
    match extra, hextra with
    | [], _ =>
        exact Nat.zero_le _
    | [last], _ =>
        simpa using (hsized last (by simp)).2
  have hfits : done.flatten.length < 2 ^ 64 := by omega
  rw [UInt64.toNat_ofNat_of_lt' hfits]
  omega

end DownloadClosing

namespace Session

/-- In every phase, what reached the client is accounted for up to a close
frame. -/
theorem Downloads.closing
    {s : Session} {sent : List UpstreamItem}
    (h : s.Downloads sent) :
    DownloadClosing s.bridge.readLimit sent s.bridge.client.taken
      s.bridge.slot s.bridge.stats.bytesDown s.reason := by
  unfold Downloads at h
  split at h
  · exact (Download.stopped h).closing
  · exact (Download.stopped h).closing
  · exact (Download.stopped h).closing
  · exact h

/-- No event changes the size of the buffer. -/
theorem Next.bufferSize
    {s s' : Session} {event : Event}
    (hnext : Next s event s') :
    s'.bridge.bufferSize = s.bridge.bufferSize := by
  cases hnext with
  | move hchange =>
      cases hchange with
      | pumpInbound hphase hpump =>
          cases hpump <;> simp
      | pumpOutbound hphase hpump =>
          cases hpump <;> simp
      | _ =>
          simp [enter]
  | stimulus x =>
      simp
  | advance ms =>
      rfl

/-- One read never asks for more than the buffer holds, nor for nothing. -/
theorem readLimit_of_run
    {bufferSize : Nat} {latencyMicros : UInt64} {metrics : Metrics}
    {events : List Event} {s : Session}
    (hrun : (fresh bufferSize latencyMicros metrics).run? events = some s) :
    s.bridge.readLimit = max bufferSize 1 := by
  have hsize : s.bridge.bufferSize = bufferSize := by
    refine run_invariant (P := fun t => t.bridge.bufferSize = bufferSize) ?_ hrun rfl
    intro t event t' ht hnext
    rw [hnext.bufferSize, ht]
  rw [Bridge.readLimit, hsize]

/--
At every point of every run:

* the upstream took the beginning of the payloads that the client sent before
  its first close frame or failure, and before its end, which stops the pump;
* the client took the beginning of the bytes that the upstream sent, in binary
  frames that are neither empty nor larger than the buffer, and no other frame
  but the close frame is sent;
* as long as the counters do not wrap, they lag behind what was taken by at most
  one payload or frame.
-/
theorem stream_integrity
    {bufferSize : Nat} {latencyMicros : UInt64} {metrics : Metrics}
    {events : List Event} {s : Session}
    (hrun : (fresh bufferSize latencyMicros metrics).run? events = some s) :
    (s.bridge.upstream.written <+: (payloads (fromClient events)).flatten ∧
      ∀ before after t,
        events = before ++ after →
        (fresh bufferSize latencyMicros metrics).run? before = some t →
        t.phase.inbound.isRunning = false →
        s.bridge.upstream.written <+: (payloads (fromClient before)).flatten) ∧
    (frameBytes s.bridge.client.taken <+: streamBytes (fromUpstream events) ∧
      ∀ frame ∈ s.bridge.client.taken ++ s.bridge.slot.toList,
        (∃ data, frame = .binary data ∧
          1 ≤ data.length ∧ data.length ≤ max bufferSize 1) ∨
        frame = closeFrame s.reason) ∧
    (s.bridge.upstream.written.length < 2 ^ 64 →
      s.bridge.stats.bytesUp.toNat ≤ s.bridge.upstream.written.length ∧
      ∃ data, (data = [] ∨ data ∈ payloads (fromClient events)) ∧
        s.bridge.upstream.written.length ≤
          s.bridge.stats.bytesUp.toNat + data.length) ∧
    ((frameBytes s.bridge.client.taken).length < 2 ^ 64 →
      s.bridge.stats.bytesDown.toNat ≤ (frameBytes s.bridge.client.taken).length ∧
      (frameBytes s.bridge.client.taken).length ≤
        s.bridge.stats.bytesDown.toNat + max bufferSize 1) := by
  have hup := Upload.stopped (uploads_of_run hrun)
  have hdown := (downloads_of_run hrun).closing
  rw [readLimit_of_run hrun] at hdown
  refine
    ⟨⟨hup.written_beginning, ?_⟩,
      ⟨hdown.taken_beginning, fun frame hframe => hdown.mem_frames hframe⟩,
      hup.counted_le, hdown.counted_le⟩
  rintro before after t rfl hbefore hstopped
  have hafter := run?_after hrun hbefore
  rw [(upload_final hafter hstopped).2.1]
  exact (Upload.stopped (uploads_of_run hbefore)).written_beginning

/-- A write takes a part of a payload and the next one fails, while a frame
waits in the slot.  That frame is handed over when the session closes. -/
def cutShort : List Event :=
  [.move .start,
   .stimulus (.limit .perWrite (some 2)),
   .stimulus (.mode .clientReady .blocked),
   .stimulus (.clientItems [.frame (.binary [1, 2, 3])]),
   .stimulus (.upstreamItem (.chunk [7, 8, 9])),
   .move (.pump .outbound),
   .move (.pump .inbound),
   .move (.pump .inbound),
   .stimulus (.mode .upstreamWrite .failing),
   .move (.pump .inbound),
   .move (.interrupt .outbound),
   .move .beginClosing,
   .stimulus (.mode .clientReady .ok),
   .move .closeClient,
   .move .closeClient,
   .move .closeClient,
   .move .closeClient,
   .move .closeUpstream]

theorem stream_integrity_cutShort :
    ∃ s, (fresh 2 0 {}).run? cutShort = some s ∧
      s.phase = .closed ∧
      s.bridge.upstream.written = [1, 2] ∧
      s.bridge.client.taken = [.binary [7, 8], closeFrame .upstreamError] ∧
      s.bridge.upstream.written <+: (payloads (fromClient cutShort)).flatten ∧
      frameBytes s.bridge.client.taken <+: streamBytes (fromUpstream cutShort) := by
  obtain ⟨s, hrun⟩ : ∃ s, (fresh 2 0 {}).run? cutShort = some s := ⟨_, rfl⟩
  have h := stream_integrity hrun
  refine ⟨s, hrun, ?_, ?_, ?_, h.1.1, h.2.1.1⟩
  all_goals
    cases hrun
    rfl

end Session
end FrameBridge
