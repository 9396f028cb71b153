import FrameBridge.Relay.Session

/-!
# What the calls to the ends change

Each call to an end changes a little of it and leaves the rest as it was.  The
lemmas about what a call leaves are tagged for `simp`; those about what it
changes say how its outcome is tied to the change.
-/

namespace FrameBridge

namespace ClientEnd

section Stream

/-- Taking an item only shortens the queue. -/
@[simp] theorem next_snd
    (c : ClientEnd) :
    c.next.2 = { c with inbox := c.inbox.tail } := by
  obtain ⟨inbox, ended⟩ := c
  cases inbox with
  | nil =>
      cases ended <;> rfl
  | cons item rest =>
      rfl

/-- The stream yields an item exactly if that is the head of the queue. -/
theorem next_eq_item_iff
    {c : ClientEnd} {item : ClientItem} :
    c.next.1 = .done (.item item) ↔
      c.inbox = item :: c.inbox.tail := by
  obtain ⟨inbox, ended⟩ := c
  cases inbox with
  | nil =>
      cases ended <;> simp [next]
  | cons head rest =>
      simp [next]

/-- The stream yields its end exactly if it has ended and the queue is empty. -/
theorem next_eq_ended_iff
    {c : ClientEnd} :
    c.next.1 = .done .ended ↔
      c.inbox = [] ∧ c.ended = true := by
  obtain ⟨inbox, ended⟩ := c
  cases inbox with
  | nil =>
      cases ended <;> simp [next]
  | cons head rest =>
      simp [next]

end Stream

section Sink

variable (c : ClientEnd) (frame : Frame)

@[simp] theorem send_inbox :
    (c.send frame).2.inbox = c.inbox := by
  unfold send
  split <;> rfl

@[simp] theorem send_closes :
    (c.send frame).2.closes = c.closes := by
  unfold send
  split <;> rfl

@[simp] theorem send_flushes :
    (c.send frame).2.flushes = c.flushes := by
  unfold send
  split <;> rfl

@[simp] theorem flush_inbox :
    c.flush.2.inbox = c.inbox := by
  unfold flush
  split <;> rfl

@[simp] theorem flush_taken :
    c.flush.2.taken = c.taken := by
  unfold flush
  split <;> rfl

@[simp] theorem flush_closes :
    c.flush.2.closes = c.closes := by
  unfold flush
  split <;> rfl

@[simp] theorem close_inbox :
    c.close.2.inbox = c.inbox := by
  unfold close
  split <;> rfl

@[simp] theorem close_taken :
    c.close.2.taken = c.taken := by
  unfold close
  split <;> rfl

variable {c frame}

/-- A frame whose sending is done was taken last. -/
theorem send_taken_of_done
    (h : (c.send frame).1 = .done ()) :
    (c.send frame).2.taken = c.taken ++ [frame] := by
  unfold send at h ⊢
  split
  · simp_all
  · rfl

/-- A frame whose sending failed was not taken. -/
theorem send_taken_of_failed
    {text : String}
    (h : (c.send frame).1 = .failed text) :
    (c.send frame).2.taken = c.taken := by
  unfold send at h ⊢
  split
  · rfl
  · simp_all

/-- Sending a frame never blocks. -/
theorem send_ne_blocked :
    (c.send frame).1 ≠ .blocked := by
  unfold send
  split <;> simp

/-- A flush that does not block is counted. -/
theorem flush_flushes_of_ne_blocked
    (h : c.flush.1 ≠ .blocked) :
    c.flush.2.flushes = c.flushes + 1 := by
  unfold flush at h ⊢
  split
  · simp_all
  · rfl

/-- Closing that does not block is counted. -/
theorem close_closes_of_ne_blocked
    (h : c.close.1 ≠ .blocked) :
    c.close.2.closes = c.closes + 1 := by
  unfold close at h ⊢
  split
  · simp_all
  · rfl

end Sink

end ClientEnd

namespace UpstreamEnd

variable (u : UpstreamEnd) (limit : Nat) (bytes : List UInt8)

@[simp] theorem read_written :
    (u.read limit).2.written = u.written := by
  unfold read
  split
  · split <;> rfl
  · rfl
  · rfl

@[simp] theorem read_shutdowns :
    (u.read limit).2.shutdowns = u.shutdowns := by
  unfold read
  split
  · split <;> rfl
  · rfl
  · rfl

@[simp] theorem write_inbox :
    (u.write bytes).2.inbox = u.inbox := by
  unfold write
  split
  · rfl
  · rfl
  · rfl
  · split <;> rfl

@[simp] theorem write_shutdowns :
    (u.write bytes).2.shutdowns = u.shutdowns := by
  unfold write
  split
  · rfl
  · rfl
  · rfl
  · split <;> rfl

@[simp] theorem write_flushes :
    (u.write bytes).2.flushes = u.flushes := by
  unfold write
  split
  · rfl
  · rfl
  · rfl
  · split <;> rfl

@[simp] theorem flush_inbox :
    u.flush.2.inbox = u.inbox := by
  unfold flush
  split <;> rfl

@[simp] theorem flush_written :
    u.flush.2.written = u.written := by
  unfold flush
  split <;> rfl

@[simp] theorem flush_shutdowns :
    u.flush.2.shutdowns = u.shutdowns := by
  unfold flush
  split <;> rfl

@[simp] theorem shutdown_inbox :
    u.shutdown.2.inbox = u.inbox := by
  unfold shutdown
  split <;> rfl

@[simp] theorem shutdown_written :
    u.shutdown.2.written = u.written := by
  unfold shutdown
  split <;> rfl

variable {u limit bytes}

/-- A read brings no bytes only at the end, which an empty chunk stands for. -/
theorem inbox_of_read_nil
    (hlimit : 1 ≤ limit)
    (hread : (u.read limit).1 = .done []) :
    u.inbox = [] ∨ ∃ rest, u.inbox = .chunk [] :: rest := by
  unfold read at hread
  split at hread
  · rename_i hinbox
    exact Or.inl hinbox
  · cases hread
  · rename_i chunk rest hinbox
    have htake : chunk.take limit = [] := by
      simpa using hread
    rcases List.take_eq_nil_iff.mp htake with hzero | hchunk
    · omega
    · subst hchunk
      exact Or.inr ⟨rest, hinbox⟩

/-- A write that is done took the first bytes, as many as it says. -/
theorem write_written_of_done
    {n : Nat}
    (h : (u.write bytes).1 = .done n) :
    (u.write bytes).2.written = u.written ++ bytes.take n := by
  unfold write at h ⊢
  split
  · simp_all
  · simp_all
  · simp_all
  · split
    · simp_all
    · rename_i hmode hroom
      simp only [hmode, if_neg hroom, Outcome.done.injEq] at h
      simp [h]

/-- A write that failed took nothing. -/
theorem write_written_of_failed
    {text : String}
    (h : (u.write bytes).1 = .failed text) :
    (u.write bytes).2.written = u.written := by
  unfold write at h ⊢
  split
  · rfl
  · rfl
  · rfl
  · split
    · rfl
    · simp_all

/-- A flush that does not block is counted. -/
theorem flush_flushes_of_ne_blocked
    (h : u.flush.1 ≠ .blocked) :
    u.flush.2.flushes = u.flushes + 1 := by
  unfold flush at h ⊢
  split
  · simp_all
  · rfl

/-- Shutting down that does not block is counted. -/
theorem shutdown_shutdowns_of_ne_blocked
    (h : u.shutdown.1 ≠ .blocked) :
    u.shutdown.2.shutdowns = u.shutdowns + 1 := by
  unfold shutdown at h ⊢
  split
  · simp_all
  · rfl

end UpstreamEnd

namespace Bridge

section HandOver

variable (b : Bridge)

@[simp] theorem handOver_bufferSize :
    b.handOver.2.bufferSize = b.bufferSize := by
  unfold handOver
  split
  · rfl
  · split <;> rfl

@[simp] theorem handOver_upstream :
    b.handOver.2.upstream = b.upstream := by
  unfold handOver
  split
  · rfl
  · split <;> rfl

@[simp] theorem handOver_stats :
    b.handOver.2.stats = b.stats := by
  unfold handOver
  split
  · rfl
  · split <;> rfl

@[simp] theorem handOver_metrics :
    b.handOver.2.metrics = b.metrics := by
  unfold handOver
  split
  · rfl
  · split <;> rfl

@[simp] theorem handOver_inbox :
    b.handOver.2.client.inbox = b.client.inbox := by
  unfold handOver
  split
  · rfl
  · split <;> simp

@[simp] theorem handOver_closes :
    b.handOver.2.client.closes = b.client.closes := by
  unfold handOver
  split
  · rfl
  · split <;> simp

@[simp] theorem handOver_flushes :
    b.handOver.2.client.flushes = b.client.flushes := by
  unfold handOver
  split
  · rfl
  · split <;> simp

variable {b}

/-- Once handing over is done, the slot is empty and its frame was taken. -/
theorem handOver_of_done
    (h : b.handOver.1 = .done ()) :
    b.handOver.2.slot = none ∧
      b.handOver.2.client.taken = b.client.taken ++ b.slot.toList := by
  cases hslot : b.slot with
  | none =>
      simp [handOver, hslot]
  | some frame =>
      cases hready : b.client.ready with
      | done value =>
          simp only [handOver, hslot, hready] at h ⊢
          exact ⟨trivial, ClientEnd.send_taken_of_done h⟩
      | failed text =>
          simp [handOver, hslot, hready] at h
      | blocked =>
          simp [handOver, hslot, hready] at h

/-- If handing over failed, no frame was taken, and the frame of the slot is
still there or lost. -/
theorem handOver_of_failed
    {text : String}
    (h : b.handOver.1 = .failed text) :
    b.handOver.2.client.taken = b.client.taken ∧
      (b.handOver.2.slot = b.slot ∨ b.handOver.2.slot = none) := by
  cases hslot : b.slot with
  | none =>
      simp [handOver, hslot] at h
  | some frame =>
      cases hready : b.client.ready with
      | done value =>
          simp only [handOver, hslot, hready] at h ⊢
          exact ⟨ClientEnd.send_taken_of_failed h, Or.inr trivial⟩
      | failed reason =>
          simp [handOver, hslot, hready]
      | blocked =>
          simp [handOver, hslot, hready] at h

/-- Handing over that blocks changes nothing. -/
theorem handOver_of_blocked
    (h : b.handOver.1 = .blocked) :
    b.handOver.2 = b := by
  cases hslot : b.slot with
  | none =>
      simp [handOver, hslot] at h
  | some frame =>
      cases hready : b.client.ready with
      | done value =>
          simp only [handOver, hslot, hready] at h
          exact absurd h ClientEnd.send_ne_blocked
      | failed text =>
          simp [handOver, hslot, hready] at h
      | blocked =>
          simp [handOver, hslot, hready]

/-- Handing over blocks only if there is a frame in the slot, and the client is
not ready for it. -/
theorem cause_of_handOver_blocked
    (h : b.handOver.1 = .blocked) :
    ∃ frame, b.slot = some frame ∧ b.client.ready = .blocked := by
  cases hslot : b.slot with
  | none =>
      simp [handOver, hslot] at h
  | some frame =>
      refine ⟨frame, rfl, ?_⟩
      cases hready : b.client.ready with
      | done value =>
          simp only [handOver, hslot, hready] at h
          exact absurd h ClientEnd.send_ne_blocked
      | failed text =>
          simp [handOver, hslot, hready] at h
      | blocked =>
          rfl

/-- Handing over fails only if there is a frame in the slot, and the client is
not ready with an error or fails to take it. -/
theorem cause_of_handOver_failed
    {text : String}
    (h : b.handOver.1 = .failed text) :
    ∃ frame, b.slot = some frame ∧
      (b.client.ready = .failed text ∨
        b.client.ready = .done () ∧
          (b.client.send frame).1 = .failed text) := by
  cases hslot : b.slot with
  | none =>
      simp [handOver, hslot] at h
  | some frame =>
      refine ⟨frame, rfl, ?_⟩
      cases hready : b.client.ready with
      | done value =>
          simp only [handOver, hslot, hready] at h
          exact Or.inr ⟨rfl, h⟩
      | failed reason =>
          simp only [handOver, hslot, hready] at h
          exact Or.inl h
      | blocked =>
          simp [handOver, hslot, hready] at h

end HandOver

section Record

variable (b : Bridge) (direction : Direction) (n : Nat)

@[simp] theorem record_bufferSize :
    (b.record direction n).bufferSize = b.bufferSize := rfl

@[simp] theorem record_client :
    (b.record direction n).client = b.client := rfl

@[simp] theorem record_upstream :
    (b.record direction n).upstream = b.upstream := rfl

@[simp] theorem record_slot :
    (b.record direction n).slot = b.slot := rfl

@[simp] theorem record_state :
    (b.record direction n).stats.state = b.stats.state := by
  cases direction <;> rfl

@[simp] theorem record_metrics :
    (b.record direction n).metrics =
      b.metrics.add (.bytes direction) (UInt64.ofNat n) := rfl

@[simp] theorem record_inbound_bytesUp :
    (b.record .inbound n).stats.bytesUp =
      b.stats.bytesUp + UInt64.ofNat n := rfl

@[simp] theorem record_inbound_bytesDown :
    (b.record .inbound n).stats.bytesDown = b.stats.bytesDown := rfl

@[simp] theorem record_outbound_bytesUp :
    (b.record .outbound n).stats.bytesUp = b.stats.bytesUp := rfl

@[simp] theorem record_outbound_bytesDown :
    (b.record .outbound n).stats.bytesDown =
      b.stats.bytesDown + UInt64.ofNat n := rfl

end Record

end Bridge

namespace Stats

variable (stats : Stats) (state : SessionState)

@[simp] theorem setState_state :
    (stats.setState state).state = state := rfl

@[simp] theorem setState_bytesUp :
    (stats.setState state).bytesUp = stats.bytesUp := rfl

@[simp] theorem setState_bytesDown :
    (stats.setState state).bytesDown = stats.bytesDown := rfl

end Stats
end FrameBridge
