import FrameBridge.Proofs.Session.Run

/-!
# What reaches the client

The bytes of the upstream are those of its chunks before the first failure or
the end.  `Download` says, for each place where the pump to the client can
stand, how the frames that the client took, the frame in the slot and the bytes
that were counted fit these bytes.

The frame in the slot outlives the pump: closing the client's end hands it over
before the close frame, or loses it.  `DownloadStopped` therefore speaks of the
frames that were taken together with the slot.
-/

namespace FrameBridge

/-- The bytes that are read before the first failure or the end, which an empty
chunk stands for. -/
def streamBytes : List UpstreamItem → List UInt8
  | [] => []
  | .failure _ :: _ => []
  | .chunk bytes :: rest => if bytes = [] then [] else bytes ++ streamBytes rest

/-- Whatever the upstream sends later, its bytes are some that were read, and
then those of the queue. -/
def BytesCame
    (sent inbox : List UpstreamItem) (come : List UInt8) : Prop :=
  ∀ later, streamBytes (sent ++ later) = come ++ streamBytes (inbox ++ later)

/-- No frame is empty or larger than a limit. -/
def Sized (limit : Nat) (frames : List (List UInt8)) : Prop :=
  ∀ data ∈ frames, 1 ≤ data.length ∧ data.length ≤ limit

/-- How far the bytes got when the pump to the client stopped: some were framed,
taken and counted, and of at most one more frame it is open whether it was
taken.  What was taken, with the slot, are these frames and at most some close
frames. -/
def DownloadStopped
    (limit : Nat) (sent : List UpstreamItem)
    (taken : List Frame) (slot : Option Frame)
    (counted : UInt64) (close : List Frame) : Prop :=
  ∃ done extra : List (List UInt8),
    (done ++ extra).flatten <+: streamBytes sent ∧
    Sized limit (done ++ extra) ∧
    extra.length ≤ 1 ∧
    taken ++ slot.toList = (done ++ extra).map .binary ++ close ∧
    done.map .binary <+: taken ∧
    counted = UInt64.ofNat done.flatten.length

/-- How far the bytes got once a close frame for some reason may be among the
frames: if it is there, it is the last. -/
def DownloadClosing
    (limit : Nat) (sent : List UpstreamItem)
    (taken : List Frame) (slot : Option Frame)
    (counted : UInt64) (reason : CloseReason) : Prop :=
  ∃ close,
    (close = [] ∨ close = [Session.closeFrame reason]) ∧
    DownloadStopped limit sent taken slot counted close

/-- How the frames that were taken, the slot and what was counted fit the bytes
of the upstream, by where the pump to the client stands. -/
def Download
    (limit : Nat) (sent inbox : List UpstreamItem)
    (taken : List Frame) (slot : Option Frame)
    (counted : UInt64) : Outbound → Prop
  | .reading =>
      ∃ done,
        BytesCame sent inbox done.flatten ∧
        Sized limit done ∧
        taken = done.map .binary ∧
        slot = none ∧
        counted = UInt64.ofNat done.flatten.length
  | .handing size =>
      ∃ done last,
        BytesCame sent inbox (done ++ [last]).flatten ∧
        Sized limit (done ++ [last]) ∧
        size = last.length ∧
        taken = done.map .binary ∧
        slot = some (.binary last) ∧
        counted = UInt64.ofNat done.flatten.length
  | .flushing size =>
      ∃ done last,
        BytesCame sent inbox (done ++ [last]).flatten ∧
        Sized limit (done ++ [last]) ∧
        size = last.length ∧
        taken = (done ++ [last]).map .binary ∧
        slot = none ∧
        counted = UInt64.ofNat done.flatten.length
  | .ended _ => DownloadStopped limit sent taken slot counted []
  | .interrupted => DownloadStopped limit sent taken slot counted []

section Bytes

/-- What comes after some items takes no byte of them away. -/
theorem streamBytes_prefix_append
    (sent later : List UpstreamItem) :
    streamBytes sent <+: streamBytes (sent ++ later) := by
  induction sent with
  | nil =>
      exact List.nil_prefix
  | cons item rest ih =>
      cases item with
      | failure text =>
          exact List.prefix_rfl
      | chunk bytes =>
          simp only [List.cons_append, streamBytes]
          split
          · exact List.prefix_rfl
          · exact (List.prefix_append_right_inj bytes).mpr ih

variable {sent inbox items : List UpstreamItem} {come : List UInt8}

/-- The bytes that came are the first of the stream. -/
theorem BytesCame.beginning
    (h : BytesCame sent inbox come) :
    come <+: streamBytes sent := by
  have hnow := h []
  rw [List.append_nil] at hnow
  exact ⟨_, hnow.symm⟩

theorem BytesCame.send
    (h : BytesCame sent inbox come) :
    BytesCame (sent ++ items) (inbox ++ items) come := by
  intro later
  rw [List.append_assoc, List.append_assoc]
  exact h (items ++ later)

/-- A read takes the first bytes of the queue, whatever comes later. -/
theorem BytesCame.read
    {u : UpstreamEnd} {limit : Nat} {bytes : List UInt8}
    (h : BytesCame sent u.inbox come)
    (hread : (u.read limit).1 = .done bytes)
    (hne : bytes ≠ []) :
    BytesCame sent (u.read limit).2.inbox (come ++ bytes) := by
  intro later
  rw [h later, List.append_assoc]
  congr 1
  unfold UpstreamEnd.read at hread ⊢
  split at hread
  · split at hread
    · cases hread
      exact absurd rfl hne
    · cases hread
  · cases hread
  · rename_i chunk rest hinbox
    cases hread
    simp only [hinbox]
    have hchunk : chunk ≠ [] := by
      rintro rfl
      exact hne List.take_nil
    split
    · rename_i hleft
      have htake : chunk.take limit = chunk := by
        have := List.take_append_drop limit chunk
        rwa [hleft, List.append_nil] at this
      simp [streamBytes, hchunk, htake]
    · rename_i hleft
      simp only [List.cons_append, streamBytes, if_neg hchunk, if_neg hleft]
      rw [← List.append_assoc, List.take_append_drop]

/-- A read takes no more bytes than it asks for. -/
theorem length_read_le
    {u : UpstreamEnd} {limit : Nat} {bytes : List UInt8}
    (hread : (u.read limit).1 = .done bytes) :
    bytes.length ≤ limit := by
  unfold UpstreamEnd.read at hread
  split at hread
  · split at hread
    · cases hread
      exact Nat.zero_le _
    · cases hread
  · cases hread
  · cases hread
    exact List.length_take_le _ _

end Bytes

namespace DownloadStopped

variable {limit : Nat} {sent : List UpstreamItem}
  {taken close : List Frame} {slot : Option Frame} {counted : UInt64}

/-- What the upstream sends leaves the account as it was. -/
theorem send
    {items : List UpstreamItem}
    (h : DownloadStopped limit sent taken slot counted close) :
    DownloadStopped limit (sent ++ items) taken slot counted close := by
  obtain ⟨done, extra, hbegin, hrest⟩ := h
  exact
    ⟨done, extra, hbegin.trans (streamBytes_prefix_append sent items), hrest⟩

/-- The frame in the slot may be handed over. -/
theorem hand
    (h : DownloadStopped limit sent taken slot counted close) :
    DownloadStopped limit sent (taken ++ slot.toList) none counted close := by
  obtain ⟨done, extra, hbegin, hsized, hextra, htaken, hdone, hcounted⟩ := h
  exact
    ⟨done, extra, hbegin, hsized, hextra, by simpa using htaken,
      hdone.trans (List.prefix_append _ _), hcounted⟩

/-- The close frame may be put in an empty slot. -/
theorem offer
    {frame : Frame}
    (h : DownloadStopped limit sent taken none counted []) :
    DownloadStopped limit sent taken (some frame) counted [frame] := by
  obtain ⟨done, extra, hbegin, hsized, hextra, htaken, hdone, hcounted⟩ := h
  have htaken : taken = (done ++ extra).map .binary := by
    simpa using htaken
  exact
    ⟨done, extra, hbegin, hsized, hextra, by rw [htaken]; rfl, hdone, hcounted⟩

/-- The frame in the slot may be lost: it is the close frame, or the one frame
that was not counted. -/
theorem lose
    (h : DownloadStopped limit sent taken slot counted close)
    (hclose : close.length ≤ 1) :
    ∃ close', (close' = [] ∨ close' = close) ∧
      DownloadStopped limit sent taken none counted close' := by
  cases slot with
  | none =>
      exact ⟨close, Or.inr rfl, h⟩
  | some frame =>
      refine ⟨[], Or.inl rfl, ?_⟩
      obtain ⟨done, extra, hbegin, hsized, hextra, htaken, hdone, hcounted⟩ := h
      match close, hclose with
      | [], _ =>
          match extra, hextra with
          | [], _ =>
              have hlength := congrArg List.length htaken
              have := hdone.length_le
              simp at hlength this
              omega
          | [last], _ =>
              have htaken : taken ++ [frame] = done.map .binary ++ [.binary last] := by
                simpa using htaken
              obtain ⟨htaken, -⟩ := List.append_inj' htaken rfl
              refine
                ⟨done, [], ?_, fun data hdata => hsized data ?_, by simp,
                  by simpa using htaken, hdone, hcounted⟩
              · rw [List.flatten_append] at hbegin
                simpa using (List.prefix_append _ _).trans hbegin
              · simp only [List.append_nil] at hdata
                exact List.mem_append_left _ hdata
      | [last], _ =>
          obtain ⟨htaken, -⟩ := List.append_inj' htaken rfl
          exact
            ⟨done, extra, hbegin, hsized, hextra, by simpa using htaken,
              hdone, hcounted⟩

/-- Handing over that failed leaves the frame in the slot or loses it. -/
theorem handOver_failed
    {b : Bridge} {text : String}
    (h : DownloadStopped limit sent b.client.taken b.slot counted close)
    (hclose : close.length ≤ 1)
    (hhand : b.handOver.1 = .failed text) :
    ∃ close', (close' = [] ∨ close' = close) ∧
      DownloadStopped limit sent b.handOver.2.client.taken b.handOver.2.slot
        counted close' := by
  obtain ⟨htaken, hslot | hslot⟩ := Bridge.handOver_of_failed hhand
  · rw [htaken, hslot]
    exact ⟨close, Or.inr rfl, h⟩
  · rw [htaken, hslot]
    exact h.lose hclose

/-- Handing over that is done moves the frame of the slot to those taken. -/
theorem handOver_done
    {b : Bridge}
    (h : DownloadStopped limit sent b.client.taken b.slot counted close)
    (hhand : b.handOver.1 = .done ()) :
    DownloadStopped limit sent b.handOver.2.client.taken none counted close := by
  rw [(Bridge.handOver_of_done hhand).2]
  exact h.hand

/-- Before a close frame was put in the slot, none is among the frames. -/
theorem closing
    {reason : CloseReason}
    (h : DownloadStopped limit sent taken slot counted []) :
    DownloadClosing limit sent taken slot counted reason :=
  ⟨[], Or.inl rfl, h⟩

end DownloadStopped

namespace DownloadClosing

variable {limit : Nat} {sent : List UpstreamItem} {counted : UInt64}
  {reason : CloseReason} {taken : List Frame} {slot : Option Frame} {b : Bridge}

theorem send
    {items : List UpstreamItem}
    (h : DownloadClosing limit sent taken slot counted reason) :
    DownloadClosing limit (sent ++ items) taken slot counted reason := by
  obtain ⟨close, hclose, hstopped⟩ := h
  exact ⟨close, hclose, hstopped.send⟩

theorem handOver_done
    (h : DownloadClosing limit sent b.client.taken b.slot counted reason)
    (hhand : b.handOver.1 = .done ()) :
    DownloadClosing limit sent b.handOver.2.client.taken b.handOver.2.slot
      counted reason := by
  obtain ⟨close, hclose, hstopped⟩ := h
  rw [(Bridge.handOver_of_done hhand).1]
  exact ⟨close, hclose, hstopped.handOver_done hhand⟩

/-- A frame that cannot be handed over is lost at most. -/
theorem handOver_failed
    {text : String}
    (h : DownloadClosing limit sent b.client.taken b.slot counted reason)
    (hhand : b.handOver.1 = .failed text) :
    DownloadClosing limit sent b.handOver.2.client.taken b.handOver.2.slot
      counted reason := by
  obtain ⟨close, hclose, hstopped⟩ := h
  have hsmall : close.length ≤ 1 := by
    rcases hclose with rfl | rfl <;> simp
  obtain ⟨close', hclose', hstopped'⟩ := hstopped.handOver_failed hsmall hhand
  refine ⟨close', ?_, hstopped'⟩
  rcases hclose' with rfl | rfl
  · exact Or.inl rfl
  · exact hclose

end DownloadClosing

namespace Download

variable {limit : Nat} {sent inbox : List UpstreamItem}
  {taken : List Frame} {slot : Option Frame} {counted : UInt64}

@[simp] theorem ended_iff
    {result : PumpResult} :
    Download limit sent inbox taken slot counted (.ended result) ↔
      DownloadStopped limit sent taken slot counted [] :=
  Iff.rfl

/-- The pump may stop wherever it stands. -/
theorem stopped
    {q : Outbound}
    (h : Download limit sent inbox taken slot counted q) :
    DownloadStopped limit sent taken slot counted [] := by
  cases q with
  | reading =>
      obtain ⟨done, hcame, hsized, htaken, hslot, hcounted⟩ := h
      exact
        ⟨done, [], by simpa using hcame.beginning, by simpa using hsized, by simp,
          by simp [htaken, hslot], by simp [htaken], hcounted⟩
  | handing size =>
      obtain ⟨done, last, hcame, hsized, -, htaken, hslot, hcounted⟩ := h
      exact
        ⟨done, [last], hcame.beginning, hsized, by simp,
          by simp [htaken, hslot], by simp [htaken], hcounted⟩
  | flushing size =>
      obtain ⟨done, last, hcame, hsized, -, htaken, hslot, hcounted⟩ := h
      exact
        ⟨done, [last], hcame.beginning, hsized, by simp,
          by simp [htaken, hslot], by simp [htaken], hcounted⟩
  | ended result =>
      exact h
  | interrupted =>
      exact h

/-- What the upstream sends leaves the account as it was. -/
theorem send
    {items : List UpstreamItem} {q : Outbound}
    (h : Download limit sent inbox taken slot counted q) :
    Download limit (sent ++ items) (inbox ++ items) taken slot counted q := by
  cases q with
  | reading =>
      obtain ⟨done, hcame, hrest⟩ := h
      exact ⟨done, hcame.send, hrest⟩
  | handing size =>
      obtain ⟨done, last, hcame, hrest⟩ := h
      exact ⟨done, last, hcame.send, hrest⟩
  | flushing size =>
      obtain ⟨done, last, hcame, hrest⟩ := h
      exact ⟨done, last, hcame.send, hrest⟩
  | ended result =>
      exact DownloadStopped.send h
  | interrupted =>
      exact DownloadStopped.send h

/-- A read that brings bytes puts them in the slot as one frame. -/
theorem afterRead
    {u : UpstreamEnd} {bytes : List UInt8}
    (h : Download limit sent u.inbox taken slot counted .reading)
    (hread : (u.read limit).1 = .done bytes)
    (hne : bytes ≠ []) :
    Download limit sent (u.read limit).2.inbox taken
      (some (.binary bytes)) counted (.handing bytes.length) := by
  obtain ⟨done, hcame, hsized, htaken, -, hcounted⟩ := h
  refine
    ⟨done, bytes, by simpa using hcame.read hread hne, ?_, rfl, htaken, rfl,
      hcounted⟩
  intro data hdata
  rcases List.mem_append.mp hdata with hdata | hdata
  · exact hsized data hdata
  · rw [List.mem_singleton] at hdata
    subst hdata
    exact ⟨List.length_pos_iff.mpr hne, length_read_le hread⟩

/-- A frame that was flushed is counted. -/
theorem afterFlush
    {size : Nat}
    (h : Download limit sent inbox taken slot counted (.flushing size)) :
    Download limit sent inbox taken slot (counted + UInt64.ofNat size)
      .reading := by
  obtain ⟨done, last, hcame, hsized, hsize, htaken, hslot, hcounted⟩ := h
  refine ⟨done ++ [last], hcame, hsized, htaken, hslot, ?_⟩
  rw [hcounted, hsize, ← UInt64.ofNat_add]
  simp

/-- A step of the pump keeps the account. -/
theorem step
    {b b' : Bridge} {q q' : Outbound}
    (h :
      Download b.readLimit sent b.upstream.inbox b.client.taken b.slot
        b.stats.bytesDown q)
    (hchange : Outbound.Change b q q' b') :
    Download b'.readLimit sent b'.upstream.inbox b'.client.taken b'.slot
      b'.stats.bytesDown q' := by
  cases hchange with
  | readEnd hread =>
      exact h.stopped
  | read hread hne =>
      exact h.afterRead hread hne
  | readFailed hread =>
      exact h.stopped
  | hand hhand =>
      obtain ⟨done, last, hcame, hsized, hsize, htaken, hslot, hcounted⟩ := h
      obtain ⟨hslot', htaken'⟩ := Bridge.handOver_of_done hhand
      refine
        ⟨done, last, by simpa using hcame, by simpa [Bridge.readLimit] using hsized,
          hsize, ?_, hslot', by simpa using hcounted⟩
      rw [htaken', htaken, hslot]
      simp
  | handFailed hhand =>
      obtain ⟨close, hclose, hstopped⟩ :=
        h.stopped.handOver_failed (by simp) hhand
      have hnil : close = [] := by simpa using hclose
      subst hnil
      simpa [Bridge.readLimit] using hstopped
  | flush hflush =>
      simpa [Bridge.readLimit] using h.afterFlush
  | flushFailed hflush =>
      simpa [Bridge.readLimit] using h.stopped

end Download

namespace Session

/-- The account of what reached the client holds for a session.  From the time
when the close frame is put in the slot, it may be part of it. -/
def Downloads (s : Session) (sent : List UpstreamItem) : Prop :=
  match s.phase with
  | .waiting
  | .relaying _ _
  | .closingClient .clearing _ =>
      Download s.bridge.readLimit sent s.bridge.upstream.inbox
        s.bridge.client.taken s.bridge.slot s.bridge.stats.bytesDown
        s.phase.outbound
  | _ =>
      DownloadClosing s.bridge.readLimit sent s.bridge.client.taken
        s.bridge.slot s.bridge.stats.bytesDown s.reason

/-- Before the start, nothing was taken or counted. -/
theorem fresh_downloads
    (bufferSize : Nat) (latencyMicros : UInt64) (metrics : Metrics) :
    (fresh bufferSize latencyMicros metrics).Downloads [] :=
  ⟨[], fun _ => rfl, by simp [Sized], rfl, rfl, rfl⟩

/-- A move keeps the account. -/
theorem Downloads.move
    {s s' : Session} {m : Move} {sent : List UpstreamItem}
    (h : s.Downloads sent)
    (hchange : Change s m s') :
    s'.Downloads sent := by
  unfold Downloads at h ⊢
  cases hchange with
  | start hphase =>
      rw [hphase] at h
      simpa [enter, Bridge.readLimit] using h
  | pumpInbound hphase hpump =>
      rw [hphase] at h
      cases hpump <;> simpa [Bridge.readLimit] using h
  | pumpOutbound hphase hpump =>
      rw [hphase] at h
      simpa using Download.step h hpump
  | interruptInbound hphase hfired hrunning =>
      rw [hphase] at h
      exact h
  | interruptOutbound hphase hfired hrunning =>
      rw [hphase] at h
      exact h.stopped
  | beginClosing hphase hin hout =>
      rw [hphase] at h
      exact h.stopped
  | clear hphase hhand =>
      rw [hphase] at h
      have hstopped := DownloadStopped.handOver_done h hhand
      exact
        ⟨[closeFrame s.reason], Or.inr rfl,
          by simpa [Bridge.readLimit] using hstopped.offer⟩
  | clearFailed hphase hhand =>
      rw [hphase] at h
      have hclosing :
          DownloadClosing s.bridge.readLimit sent s.bridge.client.taken
            s.bridge.slot s.bridge.stats.bytesDown s.reason :=
        DownloadStopped.closing h
      simpa [Bridge.readLimit, reason] using hclosing.handOver_failed hhand
  | hand hphase hhand =>
      rw [hphase] at h
      simpa [Bridge.readLimit, reason] using DownloadClosing.handOver_done h hhand
  | handFailed hphase hhand =>
      rw [hphase] at h
      simpa [Bridge.readLimit, reason] using DownloadClosing.handOver_failed h hhand
  | empty hphase hslot hhand =>
      rw [hphase] at h
      simp only [hphase]
      simpa [Bridge.readLimit, reason] using DownloadClosing.handOver_done h hhand
  | emptyFailed hphase hslot hhand =>
      rw [hphase] at h
      simpa [Bridge.readLimit, reason] using DownloadClosing.handOver_failed h hhand
  | flush hphase hflush =>
      rw [hphase] at h
      simpa [Bridge.readLimit, reason] using h
  | close hphase hslot hclose =>
      rw [hphase] at h
      simpa [Bridge.readLimit, reason] using h
  | shutdown hphase hshutdown =>
      rw [hphase] at h
      simpa [Bridge.readLimit, reason] using h
  | @expireClient step since hphase hblocked hclock =>
      rw [hphase] at h
      cases step with
      | clearing => exact DownloadStopped.closing h
      | _ => exact h
  | expireUpstream hphase hblocked hclock =>
      rw [hphase] at h
      simpa [Bridge.readLimit, reason] using h

/-- Every event keeps the account. -/
theorem Downloads.next
    {s s' : Session} {event : Event} {sent : List UpstreamItem}
    (h : s.Downloads sent)
    (hnext : Next s event s') :
    s'.Downloads (sent ++ event.fromUpstream) := by
  cases hnext with
  | move hchange =>
      simpa [Event.fromUpstream] using h.move hchange
  | stimulus x =>
      unfold Downloads at h ⊢
      simp only [stimulate_phase, stimulate_bridge, Event.fromUpstream]
      split at h
      · simpa [Bridge.readLimit] using Download.send h
      · simpa [Bridge.readLimit] using Download.send h
      · simpa [Bridge.readLimit] using Download.send h
      · simpa [Bridge.readLimit, reason] using DownloadClosing.send h
  | advance ms =>
      simpa [Downloads, Event.fromUpstream, reason] using h

/-- The account holds after every run. -/
theorem downloads_of_run
    {bufferSize : Nat} {latencyMicros : UInt64} {metrics : Metrics}
    {events : List Event} {s : Session}
    (hrun : (fresh bufferSize latencyMicros metrics).run? events = some s) :
    s.Downloads (fromUpstream events) := by
  refine run_induction (P := fun events s => s.Downloads (fromUpstream events))
    (fresh_downloads bufferSize latencyMicros metrics) ?_ hrun
  intro events s event s' _ h hact
  rw [fromUpstream_concat]
  exact h.next (next_of_act hact)

end Session
end FrameBridge
