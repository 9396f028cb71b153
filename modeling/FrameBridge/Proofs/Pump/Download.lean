import FrameBridge.Proofs.Pump.Run
import FrameBridge.Proofs.Session.Delivery
import Mathlib.Data.List.Forall2

/-!
# The pump to the client on its own

The pump cuts each chunk that arrives into frames.  How it does so depends on the
chunks and on the size of the buffer, but the bytes in the frames are those of the
chunks.

`Account` says, for each place where the pump can stand, which frames were made of
what has arrived, and which of them were taken, flushed and counted.  Every event
keeps it.
-/

namespace FrameBridge

/-- The chunks that are read before the first failure or the end. -/
def chunks : List UpstreamItem → List (List UInt8)
  | [] => []
  | .failure _ :: _ => []
  | .chunk bytes :: rest => if bytes = [] then [] else bytes :: chunks rest

/-- How reading ends. -/
def readingEnd : List UpstreamItem → PumpResult
  | [] => .ok ()
  | .failure text :: _ => .error (.upstream text)
  | .chunk bytes :: rest => if bytes = [] then .ok () else readingEnd rest

/-- Bytes in pieces of some size; the last piece can be smaller. -/
def pieces (limit : Nat) : List UInt8 → List (List UInt8)
  | [] => []
  | b :: rest => (b :: rest.take (limit - 1)) :: pieces limit (rest.drop (limit - 1))
  termination_by bytes => bytes.length
  decreasing_by
    simp only [List.length_drop, List.length_cons]
    omega

/-- The payloads of the frames that are made of some items. -/
def framesOf (limit : Nat) (items : List UpstreamItem) : List (List UInt8) :=
  (chunks items).flatMap (pieces limit)

/-- Whatever the upstream sends later, the frames that are made of it are some that
were made, and then those of the queue; and reading ends as it does in the queue. -/
structure FramesCame
    (limit : Nat) (sent inbox : List UpstreamItem) (come : List (List UInt8)) : Prop where
  frames :
    ∀ later, framesOf limit (sent ++ later) = come ++ framesOf limit (inbox ++ later)
  ended : ∀ later, readingEnd (sent ++ later) = readingEnd (inbox ++ later)

section Pieces

variable {limit : Nat} {bytes : List UInt8}

theorem pieces_nil :
    pieces limit [] = [] := by
  rw [pieces]

theorem pieces_of_ne_nil
    (hlimit : 1 ≤ limit)
    (hne : bytes ≠ []) :
    pieces limit bytes = bytes.take limit :: pieces limit (bytes.drop limit) := by
  obtain ⟨n, rfl⟩ : ∃ n, limit = n + 1 := ⟨limit - 1, by omega⟩
  obtain ⟨first, rest, rfl⟩ := List.exists_cons_of_ne_nil hne
  rw [pieces]
  rfl

/-- Cutting bytes into pieces loses none and keeps their order. -/
theorem flatten_pieces
    (limit : Nat) (bytes : List UInt8) :
    (pieces limit bytes).flatten = bytes := by
  induction bytes using pieces.induct limit with
  | case1 =>
      rw [pieces_nil]
      rfl
  | case2 first rest ih =>
      rw [pieces, List.flatten_cons, ih, List.cons_append, List.take_append_drop]

/-- Pieces are neither empty nor larger than the limit. -/
theorem sized_pieces
    (hlimit : 1 ≤ limit)
    (bytes : List UInt8) :
    Sized limit (pieces limit bytes) := by
  induction bytes using pieces.induct limit with
  | case1 =>
      rw [pieces_nil]
      exact fun _ hpiece => absurd hpiece List.not_mem_nil
  | case2 first rest ih =>
      intro piece hpiece
      rw [pieces] at hpiece
      rcases List.mem_cons.mp hpiece with rfl | hpiece
      · rw [List.length_cons, List.length_take]
        omega
      · exact ih piece hpiece

end Pieces

section Items

variable {limit : Nat} {sent inbox items : List UpstreamItem} {come : List (List UInt8)}

/-- The bytes of a stream are those of its chunks. -/
theorem flatten_chunks
    (items : List UpstreamItem) :
    (chunks items).flatten = streamBytes items := by
  induction items with
  | nil =>
      rfl
  | cons item rest ih =>
      cases item with
      | failure text =>
          rfl
      | chunk bytes =>
          by_cases hbytes : bytes = []
          · simp [chunks, streamBytes, hbytes]
          · simp [chunks, streamBytes, hbytes, ih]

/-- However bytes are cut into frames, the frames have these bytes. -/
theorem flatten_framesOf
    (limit : Nat) (items : List UpstreamItem) :
    (framesOf limit items).flatten = streamBytes items := by
  rw [← flatten_chunks, framesOf]
  induction chunks items with
  | nil =>
      rfl
  | cons chunk rest ih =>
      rw [List.flatMap_cons, List.flatten_append, ih, flatten_pieces, List.flatten_cons]

theorem sized_framesOf
    (hlimit : 1 ≤ limit)
    (items : List UpstreamItem) :
    Sized limit (framesOf limit items) := by
  intro data hdata
  obtain ⟨chunk, -, hpiece⟩ := List.mem_flatMap.mp hdata
  exact sized_pieces hlimit chunk data hpiece

/-- The frames come in groups, one for each chunk. -/
theorem forall₂_pieces
    (limit : Nat) (items : List UpstreamItem) :
    List.Forall₂ (fun chunk frames => frames.flatten = chunk)
      (chunks items) ((chunks items).map (pieces limit)) := by
  rw [List.forall₂_map_right_iff, List.forall₂_same]
  exact fun chunk _ => flatten_pieces limit chunk

/-- The frames that came are the first of those that are made of the whole stream. -/
theorem FramesCame.beginning
    (h : FramesCame limit sent inbox come) :
    framesOf limit sent = come ++ framesOf limit inbox ∧
      readingEnd sent = readingEnd inbox := by
  have hframes := h.frames []
  have hended := h.ended []
  rw [List.append_nil, List.append_nil] at hframes hended
  exact ⟨hframes, hended⟩

theorem FramesCame.sized
    (hlimit : 1 ≤ limit)
    (h : FramesCame limit sent inbox come) :
    Sized limit come := by
  intro data hdata
  refine sized_framesOf hlimit sent data ?_
  rw [h.beginning.1]
  exact List.mem_append_left _ hdata

/-- What is sent later comes behind the queue. -/
theorem FramesCame.send
    (h : FramesCame limit sent inbox come) :
    FramesCame limit (sent ++ items) (inbox ++ items) come := by
  constructor
  · intro later
    rw [List.append_assoc, List.append_assoc]
    exact h.frames (items ++ later)
  · intro later
    rw [List.append_assoc, List.append_assoc]
    exact h.ended (items ++ later)

/-- The frames hold the bytes that came, no more and no less. -/
theorem FramesCame.bytesCame
    (h : FramesCame limit sent inbox come) :
    BytesCame sent inbox come.flatten := by
  intro later
  rw [← flatten_framesOf limit, h.frames later, List.flatten_append, flatten_framesOf]

/-- A read makes the next frame of the queue, whatever comes later. -/
theorem FramesCame.read
    {u : UpstreamEnd} {bytes : List UInt8}
    (hlimit : 1 ≤ limit)
    (h : FramesCame limit sent u.inbox come)
    (hread : (u.read limit).1 = .done bytes)
    (hne : bytes ≠ []) :
    FramesCame limit sent (u.read limit).2.inbox (come ++ [bytes]) := by
  -- What was sent before the queue plays no part: it is enough to look at the queue.
  suffices hnext :
      ∀ later,
        framesOf limit (u.inbox ++ later) =
            bytes :: framesOf limit ((u.read limit).2.inbox ++ later) ∧
          readingEnd (u.inbox ++ later) = readingEnd ((u.read limit).2.inbox ++ later) by
    constructor
    · intro later
      rw [h.frames later, (hnext later).1, List.append_assoc, List.singleton_append]
    · intro later
      rw [h.ended later, (hnext later).2]
  intro later
  unfold UpstreamEnd.read at hread ⊢
  split at hread
  · split at hread
    · cases hread
      exact absurd rfl hne
    · cases hread
  · cases hread
  · rename_i chunk rest hinbox
    cases hread
    have hchunk : chunk ≠ [] := by
      rintro rfl
      exact hne List.take_nil
    simp only [hinbox, List.cons_append, framesOf, chunks, readingEnd, if_neg hchunk,
      List.flatMap_cons, pieces_of_ne_nil hlimit hchunk]
    by_cases hleft : chunk.drop limit = []
    · simp [hleft, pieces_nil]
    · simp [hleft, chunks, readingEnd]

/-- A read that brings no bytes has come to the end. -/
theorem ended_of_read_nil
    {u : UpstreamEnd}
    (hlimit : 1 ≤ limit)
    (hread : (u.read limit).1 = .done []) :
    framesOf limit u.inbox = [] ∧ readingEnd u.inbox = .ok () := by
  rcases UpstreamEnd.inbox_of_read_nil hlimit hread with hinbox | ⟨rest, hinbox⟩
  · rw [hinbox]
    exact ⟨rfl, rfl⟩
  · rw [hinbox]
    exact ⟨rfl, rfl⟩

/-- A read that fails has come to the failure. -/
theorem ended_of_read_failed
    {u : UpstreamEnd} {text : String}
    (hread : (u.read limit).1 = .failed text) :
    framesOf limit u.inbox = [] ∧ readingEnd u.inbox = .error (.upstream text) := by
  unfold UpstreamEnd.read at hread
  split at hread
  · split at hread <;> cases hread
  · rename_i text' rest hinbox
    cases hread
    rw [hinbox]
    exact ⟨rfl, rfl⟩
  · cases hread

end Items

namespace Outbound

/-- The next call of the pump fails. -/
inductive Fails (b : Bridge) : CallKind → Outbound → Prop
  | ready
      {size : Nat} {text : String}
      (hready : b.client.ready = .failed text) :
      Fails b .clientReady (.handing size)
  | send
      {size : Nat} {text : String} {frame : Frame}
      (hslot : b.slot = some frame)
      (hready : b.client.ready = .done ())
      (hsend : (b.client.send frame).1 = .failed text) :
      Fails b .clientSend (.handing size)
  | flush
      {size : Nat} {text : String}
      (hflush : b.client.flush.1 = .failed text) :
      Fails b .clientFlush (.flushing size)

/-- What was done since some state: some frames were taken, and some of these were
flushed and counted. -/
structure Moved
    (b₀ b : Bridge) (counted taken : List (List UInt8)) : Prop where
  limit : b.readLimit = b₀.readLimit
  taken : b.client.taken = b₀.client.taken ++ taken.map .binary
  flushes : b.client.flushes = b₀.client.flushes + counted.length
  counted :
    b.stats.bytesDown = b₀.stats.bytesDown + UInt64.ofNat counted.flatten.length

/-- What was done since some state, by where the pump stands. -/
inductive Account (b₀ b : Bridge) (sent : List UpstreamItem) : Outbound → Prop
  | reading
      {done : List (List UInt8)}
      (hcame : FramesCame b.readLimit sent b.upstream.inbox done)
      (hslot : b.slot = none)
      (hmoved : Moved b₀ b done done) :
      Account b₀ b sent .reading
  | handing
      {done : List (List UInt8)} {last : List UInt8} {size : Nat}
      (hcame : FramesCame b.readLimit sent b.upstream.inbox (done ++ [last]))
      (hslot : b.slot = some (.binary last))
      (hsize : size = last.length)
      (hmoved : Moved b₀ b done done) :
      Account b₀ b sent (.handing size)
  | flushing
      {done : List (List UInt8)} {last : List UInt8} {size : Nat}
      (hcame : FramesCame b.readLimit sent b.upstream.inbox (done ++ [last]))
      (hslot : b.slot = none)
      (hsize : size = last.length)
      (hmoved : Moved b₀ b done (done ++ [last])) :
      Account b₀ b sent (.flushing size)
  | ended
      (result : PumpResult) :
      Account b₀ b sent (.ended result)

/-- All bytes of a stream were taken in frames, each of which has bytes of one chunk
only, and these were flushed and counted. -/
structure Downloaded
    (b₀ b : Bridge) (sent : List UpstreamItem) (result : PumpResult) : Prop where
  taken :
    ∃ groups : List (List (List UInt8)),
      List.Forall₂ (fun chunk frames => frames.flatten = chunk) (chunks sent) groups ∧
        Sized b₀.readLimit groups.flatten ∧
        b.client.taken = b₀.client.taken ++ groups.flatten.map .binary ∧
        b.client.flushes = b₀.client.flushes + groups.flatten.length
  bytes : frameBytes b.client.taken = frameBytes b₀.client.taken ++ streamBytes sent
  counted :
    b.stats.bytesDown = b₀.stats.bytesDown + UInt64.ofNat (streamBytes sent).length
  ended : result = readingEnd sent

/-- A call for the frame behind some others failed.  These were taken, flushed and
counted; this one was taken if it was to be flushed, and not counted.  Nothing behind
it was read. -/
structure CutShort
    (b₀ b : Bridge) (sent : List UpstreamItem) (kind : CallKind)
    (done : List (List UInt8)) (last : List UInt8) : Prop where
  came : BytesCame sent b.upstream.inbox (done ++ [last]).flatten
  sized : Sized b₀.readLimit (done ++ [last])
  taken :
    b.client.taken =
      b₀.client.taken ++
        (if kind = .clientFlush then done ++ [last] else done).map .binary
  flushes :
    b.client.flushes =
      b₀.client.flushes + done.length + if kind = .clientFlush then 1 else 0
  counted :
    b.stats.bytesDown = b₀.stats.bytesDown + UInt64.ofNat done.flatten.length

section Steps

variable {b₀ b b' : Bridge} {sent : List UpstreamItem} {counted taken : List (List UInt8)}
  {q q' : Outbound}

theorem one_le_readLimit
    (b : Bridge) :
    1 ≤ b.readLimit :=
  Nat.le_max_right _ _

/-- What an end does by itself does not touch what was taken. -/
theorem Moved.stimulate
    (x : Stimulus)
    (h : Moved b₀ b counted taken) :
    Moved b₀ (b.stimulate x) counted taken := by
  constructor
  · rw [← h.limit, Bridge.readLimit, Bridge.stimulate_bufferSize, Bridge.readLimit]
  · rw [Bridge.stimulate_taken, h.taken]
  · rw [Bridge.stimulate_clientFlushes, h.flushes]
  · rw [Bridge.stimulate_stats, h.counted]

/-- What the upstream does by itself leaves the account as it was. -/
theorem Account.stimulate
    (x : Stimulus)
    (h : Account b₀ b sent q) :
    Account b₀ (b.stimulate x) (sent ++ x.fromUpstream) q := by
  have hlimit : (b.stimulate x).readLimit = b.readLimit := by
    rw [Bridge.readLimit, Bridge.stimulate_bufferSize, Bridge.readLimit]
  have hcame :
      ∀ {come}, FramesCame b.readLimit sent b.upstream.inbox come →
        FramesCame (b.stimulate x).readLimit (sent ++ x.fromUpstream)
          (b.stimulate x).upstream.inbox come := by
    intro come hcame
    rw [hlimit, Bridge.stimulate_upstreamInbox]
    exact hcame.send
  cases h with
  | reading hdone hslot hmoved =>
      exact .reading (hcame hdone) ((b.stimulate_slot x).trans hslot) (hmoved.stimulate x)
  | handing hdone hslot hsize hmoved =>
      exact .handing (hcame hdone) ((b.stimulate_slot x).trans hslot) hsize (hmoved.stimulate x)
  | flushing hdone hslot hsize hmoved =>
      exact .flushing (hcame hdone) ((b.stimulate_slot x).trans hslot) hsize (hmoved.stimulate x)
  | ended result =>
      exact .ended result

/-- Bytes that were read are put in the slot as one frame. -/
theorem Account.afterRead
    {bytes : List UInt8}
    (h : Account b₀ b sent .reading)
    (hread : (b.upstream.read b.readLimit).1 = .done bytes)
    (hne : bytes ≠ []) :
    Account b₀
      { b with
        upstream := (b.upstream.read b.readLimit).2
        slot := some (.binary bytes) }
      sent (.handing bytes.length) := by
  cases h with
  | reading hcame hslot hmoved =>
      exact .handing (hcame.read (one_le_readLimit b) hread hne) rfl rfl
        ⟨hmoved.limit, hmoved.taken, hmoved.flushes, hmoved.counted⟩

/-- The frame in the slot is handed over. -/
theorem Account.afterHand
    {size : Nat}
    (h : Account b₀ b sent (.handing size))
    (hhand : b.handOver.1 = .done ()) :
    Account b₀ b.handOver.2 sent (.flushing size) := by
  cases h with
  | @handing done last _ hcame hslot hsize hmoved =>
      obtain ⟨hempty, htaken⟩ := Bridge.handOver_of_done hhand
      have hlimit : b.handOver.2.readLimit = b.readLimit := by
        rw [Bridge.readLimit, Bridge.handOver_bufferSize, Bridge.readLimit]
      have hmoved' : Moved b₀ b.handOver.2 done (done ++ [last]) := by
        constructor
        · rw [hlimit, hmoved.limit]
        · rw [htaken, hmoved.taken, hslot]
          simp
        · rw [Bridge.handOver_flushes, hmoved.flushes]
        · rw [Bridge.handOver_stats, hmoved.counted]
      refine .flushing ?_ hempty hsize hmoved'
      rw [hlimit, Bridge.handOver_upstream]
      exact hcame

/-- A frame that was flushed is counted. -/
theorem Account.afterFlush
    {size : Nat}
    (h : Account b₀ b sent (.flushing size))
    (hflush : b.client.flush.1 = .done ()) :
    Account b₀ ({ b with client := b.client.flush.2 }.record .outbound size) sent
      .reading := by
  cases h with
  | flushing hcame hslot hsize hmoved =>
      have hblocked : b.client.flush.1 ≠ .blocked := by
        rw [hflush]
        simp
      refine .reading hcame hslot ?_
      constructor
      · exact hmoved.limit
      · simp [hmoved.taken]
      · simp [ClientEnd.flush_flushes_of_ne_blocked hblocked, hmoved.flushes, Nat.add_assoc]
      · rw [Bridge.record_outbound_bytesDown, hmoved.counted, hsize, List.flatten_append,
          List.length_append, UInt64.ofNat_add, UInt64.add_assoc]
        simp

/-- A pump that nobody interrupts runs or has ended. -/
theorem Account.ended_or_running
    (h : Account b₀ b sent q) :
    (∃ result, q = .ended result) ∨ q.isRunning = true := by
  cases h with
  | reading =>
      exact Or.inr rfl
  | handing =>
      exact Or.inr rfl
  | flushing =>
      exact Or.inr rfl
  | ended result =>
      exact Or.inl ⟨result, rfl⟩

/-- A step keeps the account. -/
theorem Account.step
    (h : Account b₀ b sent q)
    (hchange : Change b q q' b') :
    Account b₀ b' sent q' := by
  cases hchange with
  | readEnd hread =>
      exact .ended _
  | read hread hne =>
      exact h.afterRead hread hne
  | readFailed hread =>
      exact .ended _
  | hand hhand =>
      exact h.afterHand hhand
  | handFailed hhand =>
      exact .ended _
  | flush hflush =>
      exact h.afterFlush hflush
  | flushFailed hflush =>
      exact .ended _

end Steps

section Ends

variable {b₀ b b' : Bridge} {sent : List UpstreamItem} {counted : List (List UInt8)}
  {q : Outbound} {kind : CallKind} {result : PumpResult}

/-- Handing over fails only with one of its calls. -/
theorem fails_of_handOver
    {size : Nat} {text : String}
    (hhand : b.handOver.1 = .failed text) :
    ∃ kind, Fails b kind (.handing size) := by
  obtain ⟨frame, hslot, hready | ⟨hready, hsend⟩⟩ := Bridge.cause_of_handOver_failed hhand
  · exact ⟨_, .ready hready⟩
  · exact ⟨_, .send hslot hready hsend⟩

/-- Handing over fails if one of its calls does. -/
theorem handOver_of_fails
    {size : Nat} {frame : Frame}
    (hslot : b.slot = some frame)
    (hfails : Fails b kind (.handing size)) :
    kind ≠ .clientFlush ∧ ∃ text, b.handOver.1 = .failed text := by
  cases hfails with
  | @ready _ text hready =>
      refine ⟨by simp, text, ?_⟩
      simp [Bridge.handOver, hslot, hready]
  | @send _ text _ hslot' hready hsend =>
      refine ⟨by simp, text, ?_⟩
      simp [Bridge.handOver, hslot', hready, hsend]

/-- A frame that is not handed over cuts the stream short in front of it. -/
theorem Account.cutShort_of_handOver
    {size : Nat} {text : String}
    (h : Account b₀ b sent (.handing size))
    (hkind : kind ≠ .clientFlush)
    (hhand : b.handOver.1 = .failed text) :
    ∃ done last, CutShort b₀ b.handOver.2 sent kind done last := by
  cases h with
  | @handing done last _ hcame hslot hsize hmoved =>
      obtain ⟨htaken, -⟩ := Bridge.handOver_of_failed hhand
      refine ⟨done, last, ?_⟩
      constructor
      · rw [Bridge.handOver_upstream]
        exact hcame.bytesCame
      · rw [← hmoved.limit]
        exact hcame.sized (one_le_readLimit b)
      · rw [htaken, hmoved.taken, if_neg hkind]
      · rw [Bridge.handOver_flushes, hmoved.flushes, if_neg hkind, Nat.add_zero]
      · rw [Bridge.handOver_stats, hmoved.counted]

/-- A frame that is not flushed cuts the stream short behind it. -/
theorem Account.cutShort_of_flush
    {size : Nat} {text : String}
    (h : Account b₀ b sent (.flushing size))
    (hflush : b.client.flush.1 = .failed text) :
    ∃ done last,
      CutShort b₀ { b with client := b.client.flush.2 } sent .clientFlush done last := by
  cases h with
  | @flushing done last _ hcame hslot hsize hmoved =>
      have hblocked : b.client.flush.1 ≠ .blocked := by
        rw [hflush]
        simp
      refine ⟨done, last, ?_⟩
      constructor
      · exact hcame.bytesCame
      · rw [← hmoved.limit]
        exact hcame.sized (one_le_readLimit b)
      · rw [ClientEnd.flush_taken, hmoved.taken, if_pos rfl]
      · rw [ClientEnd.flush_flushes_of_ne_blocked hblocked, hmoved.flushes, if_pos rfl]
      · exact hmoved.counted

/-- A call that fails ends the pump with an error of the client, without reading, and
cuts the stream short. -/
theorem Account.cutShort
    (h : Account b₀ b sent q)
    (hfails : Fails b kind q) :
    ∃ text b' done last,
      q.step b = some (.ended (.error (.client text)), b') ∧
        b'.upstream = b.upstream ∧
        CutShort b₀ b' sent kind done last := by
  cases h with
  | reading hcame hslot hmoved =>
      cases hfails
  | handing hcame hslot hsize hmoved =>
      obtain ⟨hkind, text, hhand⟩ := handOver_of_fails hslot hfails
      obtain ⟨done, last, hcut⟩ :=
        Account.cutShort_of_handOver (.handing hcame hslot hsize hmoved) hkind hhand
      exact ⟨text, _, done, last, step_of_change (.handFailed hhand), b.handOver_upstream, hcut⟩
  | flushing hcame hslot hsize hmoved =>
      cases hfails with
      | @flush _ text hflush =>
          obtain ⟨done, last, hcut⟩ :=
            Account.cutShort_of_flush (.flushing hcame hslot hsize hmoved) hflush
          exact ⟨text, _, done, last, step_of_change (.flushFailed hflush), rfl, hcut⟩
  | ended result =>
      cases hfails

/-- At the end of a stream, all of it was moved. -/
theorem Moved.downloaded
    (hcame : FramesCame b.readLimit sent b.upstream.inbox counted)
    (h : Moved b₀ b counted counted)
    (hnone : framesOf b.readLimit b.upstream.inbox = [])
    (hend : readingEnd b.upstream.inbox = result)
    (u : UpstreamEnd) :
    Downloaded b₀ { b with upstream := u } sent result := by
  obtain ⟨hframes, hended⟩ := hcame.beginning
  rw [hnone, List.append_nil, h.limit] at hframes
  have hflatten : counted.flatten = streamBytes sent := by
    rw [← hframes, flatten_framesOf]
  constructor
  · refine ⟨(chunks sent).map (pieces b₀.readLimit), forall₂_pieces _ _, ?_, ?_, ?_⟩
    all_goals
      rw [← List.flatMap_def, ← framesOf]
    · exact sized_framesOf (one_le_readLimit b₀) sent
    · rw [hframes, h.taken]
    · rw [hframes, h.flushes]
  · rw [h.taken, frameBytes_append, frameBytes_map_binary, hflatten]
  · rw [h.counted, hflatten]
  · rw [hended, hend]

/-- If no call fails, the pump only ends where reading does. -/
theorem Account.downloaded
    (h : Account b₀ b sent q)
    (hstep : q.step b = some (.ended result, b'))
    (hfails : ∀ kind, ¬ Fails b kind q) :
    Downloaded b₀ b' sent result := by
  cases change_of_step hstep with
  | readEnd hread =>
      cases h with
      | reading hcame hslot hmoved =>
          obtain ⟨hnone, hend⟩ := ended_of_read_nil (one_le_readLimit b) hread
          exact hmoved.downloaded hcame hnone hend _
  | readFailed hread =>
      cases h with
      | reading hcame hslot hmoved =>
          obtain ⟨hnone, hend⟩ := ended_of_read_failed hread
          exact hmoved.downloaded hcame hnone hend _
  | handFailed hhand =>
      obtain ⟨kind, hfail⟩ := fails_of_handOver hhand
      exact absurd hfail (hfails kind)
  | flushFailed hflush =>
      exact absurd (.flush hflush) (hfails _)

end Ends

section Runs

variable {b₀ b : Bridge} {events : List Pump.Event} {q : Outbound}

/-- Every step is progress: it leaves less work, whatever it does. -/
theorem work_lt_of_step
    (q : Outbound) (b : Bridge) (q' : Outbound) (b' : Bridge)
    (hstep : q.step b = some (q', b')) :
    q'.remaining + b'.pending < q.remaining + b.pending :=
  (change_of_step hstep).work_lt

/-- The loop of the pump makes one step after the other. -/
theorem iterates_runFor :
    Pump.Iterates step runFor := by
  constructor
  · intro q b
    rfl
  · intro fuel q b hstep
    simp only [runFor, hstep]
  · intro fuel q b q' b' hstep
    simp only [runFor, hstep]

/-- The account holds after every run. -/
theorem account_of_run
    (hslot : b₀.slot = none)
    (hrun : Pump.run? step (.reading, b₀) events = some (q, b)) :
    Account b₀ b (b₀.upstream.inbox ++ Pump.fromUpstream events) q := by
  refine Pump.run_induction
    (P := fun events q b => Account b₀ b (b₀.upstream.inbox ++ Pump.fromUpstream events) q)
    ?_ ?_ ?_ hrun
  · have hcame :
        FramesCame b₀.readLimit (b₀.upstream.inbox ++ Pump.fromUpstream []) b₀.upstream.inbox
          [] := by
      constructor
      · simp [Pump.fromUpstream]
      · simp [Pump.fromUpstream]
    refine .reading hcame hslot ?_
    constructor
    · rfl
    · simp
    · simp
    · simp
  · intro events q b q' b' h hstep
    rw [Pump.fromUpstream_concat_step]
    exact h.step (change_of_step hstep)
  · intro events q b x h
    rw [Pump.fromUpstream_concat_stimulus, ← List.append_assoc]
    exact h.stimulate x

/-- Without stimuli, the pump goes on until it ends or waits for something. -/
theorem run_ends_or_waits
    (hslot : b₀.slot = none)
    (hrun : Pump.run? step (.reading, b₀) events = some (q, b)) :
    ∃ steps,
      Pump.run? step (q, b) (List.replicate steps .step) = some (q.run b) ∧
        ((∃ result, (q.run b).1 = .ended result) ∨ Waits (q.run b).2 (q.run b).1) := by
  obtain ⟨steps, hsteps, hnone⟩ :=
    Pump.exists_run?_runFor work_lt_of_step iterates_runFor
      (Nat.le_refl (q.remaining + b.pending))
  refine ⟨steps, hsteps, ?_⟩
  have haccount := account_of_run hslot (Pump.run?_append.mpr ⟨(q, b), hrun, hsteps⟩)
  rcases haccount.ended_or_running with hended | hrunning
  · exact Or.inl hended
  · exact Or.inr (waits_of_step_eq_none hnone hrunning)

/-- The pump to the client, in every run on its own, with a buffer of any size:

* it makes only so many steps, and stops only at its end or where it waits for the
  upstream or for a call that blocks;
* if no call fails, it ends where reading does, with all bytes before that taken in
  frames of the right sizes that have bytes of one chunk each, each frame flushed, and
  the bytes counted;
* it ends without an error only if no bytes are left;
* if a call fails, it ends with an error of the client without reading again, and the
  stream is cut short at the frame of this call;
* two runs with the same bytes in which no call fails bring the same bytes and the
  same count, whatever the chunks and the buffers are. -/
theorem download_end_to_end
    (hslot : b₀.slot = none)
    (hrun : Pump.run? step (.reading, b₀) events = some (q, b)) :
    (events.countP Pump.Event.isStep ≤
        1 + b₀.pending +
          (clientWork (Pump.fromClient events) + upstreamWork (Pump.fromUpstream events)) ∧
      ∃ steps,
        Pump.run? step (q, b) (List.replicate steps .step) = some (q.run b) ∧
          ((∃ result, (q.run b).1 = .ended result) ∨ Waits (q.run b).2 (q.run b).1)) ∧
    (∀ result b',
      q.step b = some (.ended result, b') →
      (∀ kind, ¬ Fails b kind q) →
      Downloaded b₀ b' (b₀.upstream.inbox ++ Pump.fromUpstream events) result) ∧
    (∀ b',
      q.step b = some (.ended (.ok ()), b') →
      streamBytes b.upstream.inbox = []) ∧
    (∀ kind,
      Fails b kind q →
      ∃ text b' done last,
        q.step b = some (.ended (.error (.client text)), b') ∧
          b'.upstream = b.upstream ∧
          CutShort b₀ b' (b₀.upstream.inbox ++ Pump.fromUpstream events) kind done last) ∧
    ∀ c₀ others r c,
      c₀.slot = none →
      Pump.run? step (.reading, c₀) others = some (r, c) →
      streamBytes (c₀.upstream.inbox ++ Pump.fromUpstream others) =
        streamBytes (b₀.upstream.inbox ++ Pump.fromUpstream events) →
      c₀.client.taken = b₀.client.taken →
      c₀.stats.bytesDown = b₀.stats.bytesDown →
      ∀ result b' result' c',
        q.step b = some (.ended result, b') →
        r.step c = some (.ended result', c') →
        (∀ kind, ¬ Fails b kind q) →
        (∀ kind, ¬ Fails c kind r) →
        frameBytes c'.client.taken = frameBytes b'.client.taken ∧
          c'.stats.bytesDown = b'.stats.bytesDown := by
  have haccount := account_of_run hslot hrun
  refine ⟨⟨?_, run_ends_or_waits hslot hrun⟩, ?_, ?_, ?_, ?_⟩
  · have hbound := Pump.countP_isStep_add_le work_lt_of_step hrun
    simp only [remaining] at hbound
    omega
  · intro result b' hstep hfails
    exact haccount.downloaded hstep hfails
  · intro b' hstep
    cases change_of_step hstep with
    | readEnd hread =>
        exact streamBytes_of_read (one_le_readLimit b) hread
  · intro kind hfails
    exact haccount.cutShort hfails
  · intro c₀ others r c hslot' hrun' hbytes htaken hcounted result b' result' c' hstep hstep'
      hfails hfails'
    have h := haccount.downloaded hstep hfails
    have h' := (account_of_run hslot' hrun').downloaded hstep' hfails'
    constructor
    · rw [h.bytes, h'.bytes, htaken, hbytes]
    · rw [h.counted, h'.counted, hcounted, hbytes]

/-- Three bytes in two chunks, and as many steps as it takes to send each byte alone. -/
def bytewise : List Pump.Event :=
  [.stimulus (.upstreamItem (.chunk [1, 2])), .stimulus (.upstreamItem (.chunk [3])),
   .stimulus .upstreamEnd,
   .step, .step, .step, .step, .step, .step, .step, .step, .step]

/-- The same bytes in other chunks, and the steps that it takes to send the chunks. -/
def chunkwise : List Pump.Event :=
  [.stimulus (.upstreamItem (.chunk [1])), .stimulus (.upstreamItem (.chunk [2, 3])),
   .stimulus .upstreamEnd,
   .step, .step, .step, .step, .step, .step]

theorem download_end_to_end_bytewise :
    ∃ b b' c c',
      Pump.run? step (.reading, { bufferSize := 0 }) bytewise = some (.reading, b) ∧
        step .reading b = some (.ended (.ok ()), b') ∧
        Pump.run? step (.reading, { bufferSize := 8 }) chunkwise = some (.reading, c) ∧
        step .reading c = some (.ended (.ok ()), c') ∧
        Downloaded { bufferSize := 0 } b' (Pump.fromUpstream bytewise) (.ok ()) ∧
        frameBytes c'.client.taken = frameBytes b'.client.taken ∧
        b'.client.taken = [.binary [1], .binary [2], .binary [3]] ∧
        c'.client.taken = [.binary [1], .binary [2, 3]] := by
  obtain ⟨b, b', hrun, hstep⟩ :
      ∃ b b',
        Pump.run? step (.reading, { bufferSize := 0 }) bytewise = some (.reading, b) ∧
          step .reading b = some (.ended (.ok ()), b') := ⟨_, _, rfl, rfl⟩
  obtain ⟨c, c', hrun', hstep'⟩ :
      ∃ c c',
        Pump.run? step (.reading, { bufferSize := 8 }) chunkwise = some (.reading, c) ∧
          step .reading c = some (.ended (.ok ()), c') := ⟨_, _, rfl, rfl⟩
  obtain ⟨-, hended, -, -, hsame⟩ := download_end_to_end rfl hrun
  have hdownloaded := hended _ _ hstep nofun
  have hbytes :
      streamBytes (Pump.fromUpstream chunkwise) = streamBytes (Pump.fromUpstream bytewise) := by
    decide
  obtain ⟨hframes, -⟩ :=
    hsame _ _ _ _ rfl hrun' hbytes rfl rfl _ _ _ _ hstep hstep' nofun nofun
  refine ⟨b, b', c, c', hrun, hstep, hrun', hstep', hdownloaded, hframes, ?_, ?_⟩
  · cases hrun
    cases hstep
    rfl
  · cases hrun'
    cases hstep'
    rfl

end Runs

end Outbound
end FrameBridge
