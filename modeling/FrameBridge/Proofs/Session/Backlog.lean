import FrameBridge.Proofs.Session.Delivery
import FrameBridge.Proofs.Session.Progress

/-!
# Each direction waits for itself only

Between the ends there is never more than one message of the client that was not
written and flushed, and one read of bytes of the upstream that no frame brought
to the client.  Where they are is said by the place of the pump.

At a point where no move is possible, a pump of an open session waits for an
item, and then all items were relayed, or for a call of the end that it relays
to.  What the other pump waits for does not matter.
-/

namespace FrameBridge

/-- The payload that an item of the client brings, if it brings one. -/
def ClientItem.messages : ClientItem → List (List UInt8)
  | .frame sent =>
      match sent.content with
      | .payload data => [data]
      | .control => []
      | .close => []
  | .failure _ => []

/-- The payloads of all items of the client, in order. -/
def messages (items : List ClientItem) : List (List UInt8) :=
  items.flatMap ClientItem.messages

/-- The bytes that an item of the upstream brings. -/
def UpstreamItem.bytes : UpstreamItem → List UInt8
  | .chunk bytes => bytes
  | .failure _ => []

/-- The bytes of all items of the upstream, in order. -/
def chunkBytes (items : List UpstreamItem) : List UInt8 :=
  items.flatMap UpstreamItem.bytes

/-- What the pump to the upstream has in hand, by where it stands: at most one
message, of which some bytes were written. -/
def Inbound.Holds (current : List (List UInt8)) (part : List UInt8) : Inbound → Prop
  | receiving => current = [] ∧ part = []
  | writing rest _ => current = [part ++ rest]
  | flushing _ => current = [part]
  | ended _ => current.length ≤ 1 ∧ part <+: current.flatten
  | interrupted => current.length ≤ 1 ∧ part <+: current.flatten

/-- What the pump to the client has in hand, by where it stands.  The bytes of a
pump that has stopped may still be in the slot, which a close frame can take. -/
def Outbound.Holds (held : List UInt8) (slot : Option Frame) : Outbound → Prop
  | reading => held = [] ∧ slot = none
  | handing _ => slot = some (.binary held)
  | flushing _ => held = [] ∧ slot = none
  | ended _ => frameBytes slot.toList = [] ∨ frameBytes slot.toList = held
  | interrupted => frameBytes slot.toList = [] ∨ frameBytes slot.toList = held

section Items

variable (items more : List ClientItem) (chunks later : List UpstreamItem)

@[simp] theorem messages_append :
    messages (items ++ more) = messages items ++ messages more :=
  List.flatMap_append

@[simp] theorem chunkBytes_nil :
    chunkBytes [] = [] := rfl

@[simp] theorem chunkBytes_append :
    chunkBytes (chunks ++ later) = chunkBytes chunks ++ chunkBytes later :=
  List.flatMap_append

/-- A read takes its bytes off the queue and drops none. -/
theorem chunkBytes_read
    {u : UpstreamEnd} {limit : Nat} {bytes : List UInt8}
    (hread : (u.read limit).1 = .done bytes) :
    chunkBytes u.inbox = bytes ++ chunkBytes (u.read limit).2.inbox := by
  unfold UpstreamEnd.read at hread ⊢
  split at hread
  · rename_i hinbox
    split at hread
    · cases hread
      simp_all
    · cases hread
  · cases hread
  · rename_i chunk rest hinbox
    cases hread
    have hchunk : chunk = chunk.take limit ++ chunk.drop limit :=
      (List.take_append_drop limit chunk).symm
    simp only [hinbox]
    split
    · rename_i hleft
      rw [hleft, List.append_nil] at hchunk
      simp [chunkBytes, UpstreamItem.bytes, ← hchunk]
    · simp only [chunkBytes, List.flatMap_cons, UpstreamItem.bytes]
      rw [← List.append_assoc, ← hchunk]

/-- A read that fails takes no bytes off the queue. -/
theorem chunkBytes_read_of_failed
    {u : UpstreamEnd} {limit : Nat} {text : String}
    (hread : (u.read limit).1 = .failed text) :
    chunkBytes (u.read limit).2.inbox = chunkBytes u.inbox := by
  unfold UpstreamEnd.read at hread ⊢
  split at hread
  · split at hread <;> cases hread
  · rename_i hinbox
    simp [hinbox, chunkBytes, UpstreamItem.bytes]
  · cases hread

end Items

section Moves

variable (m : Move) (result : PumpResult)

@[simp] theorem Session.Event.fromClient_move :
    (Session.Event.move m).fromClient = [] := rfl

@[simp] theorem Session.Event.fromUpstream_move :
    (Session.Event.move m).fromUpstream = [] := rfl

@[simp] theorem Inbound.isRunning_ended :
    (Inbound.ended result).isRunning = false := rfl

@[simp] theorem Inbound.isRunning_interrupted :
    Inbound.interrupted.isRunning = false := rfl

@[simp] theorem Outbound.isRunning_ended :
    (Outbound.ended result).isRunning = false := rfl

@[simp] theorem Outbound.isRunning_interrupted :
    Outbound.interrupted.isRunning = false := rfl

end Moves

section Hands

/-- A pump that stopped may have left one payload in the middle. -/
theorem Inbound.Holds.stopped
    {current : List (List UInt8)} {part : List UInt8} {p : Inbound}
    (h : p.Holds current part) :
    current.length ≤ 1 ∧ part <+: current.flatten := by
  cases p with
  | receiving =>
      obtain ⟨rfl, rfl⟩ := h
      simp
  | writing rest size =>
      obtain rfl : current = [part ++ rest] := h
      simp
  | flushing size =>
      obtain rfl : current = [part] := h
      simp
  | ended result =>
      exact h
  | interrupted =>
      exact h

/-- A pump that stopped may have left one frame in the slot. -/
theorem Outbound.Holds.stopped
    {held : List UInt8} {slot : Option Frame} {q : Outbound}
    (h : q.Holds held slot) :
    frameBytes slot.toList = [] ∨ frameBytes slot.toList = held := by
  cases q with
  | reading =>
      obtain ⟨-, rfl⟩ := h
      exact Or.inl rfl
  | handing size =>
      obtain rfl : slot = some (.binary held) := h
      exact Or.inr (List.append_nil held)
  | flushing size =>
      obtain ⟨-, rfl⟩ := h
      exact Or.inl rfl
  | ended result =>
      exact h
  | interrupted =>
      exact h

variable {current : List (List UInt8)} {part held : List UInt8}
  {slot : Option Frame} {p : Inbound} {q : Outbound}

theorem Inbound.holds_of_stopped
    (hstopped : p.isRunning = false)
    (h : current.length ≤ 1 ∧ part <+: current.flatten) :
    p.Holds current part := by
  cases p with
  | ended result => exact h
  | interrupted => exact h
  | _ => cases hstopped

theorem Outbound.holds_of_stopped
    (hstopped : q.isRunning = false)
    (h : frameBytes slot.toList = [] ∨ frameBytes slot.toList = held) :
    q.Holds held slot := by
  cases q with
  | ended result => exact h
  | interrupted => exact h
  | _ => cases hstopped

/-- An item brings at most its message in hand.  An empty message is done with
at once. -/
theorem Inbound.holds_afterEvent
    (item : ClientItem) :
    ∃ empty current,
      item.messages = empty ++ current ∧
      empty.flatten = [] ∧
      (Inbound.afterEvent (.item item)).Holds current [] := by
  cases item with
  | failure text =>
      exact ⟨[], [], rfl, rfl, by simp [Inbound.afterEvent, Inbound.Holds]⟩
  | frame frame =>
      simp only [Inbound.afterEvent, ClientItem.messages]
      cases frame.content with
      | payload data =>
          by_cases hdata : data = []
          · exact ⟨[data], [], rfl, by simp [hdata], by simp [hdata, Inbound.Holds]⟩
          · exact ⟨[], [data], rfl, rfl, by simp [hdata, Inbound.Holds]⟩
      | control =>
          exact ⟨[], [], rfl, rfl, rfl, rfl⟩
      | close =>
          exact ⟨[], [], rfl, rfl, by simp [Inbound.Holds]⟩

/-- After a write the same message is in hand, with more of it written. -/
theorem Inbound.holds_afterWrite
    (part rest : List UInt8) (size n : Nat) :
    (Inbound.afterWrite rest size n).Holds [part ++ rest] (part ++ rest.take n) := by
  have hrest : part ++ rest = part ++ rest.take n ++ rest.drop n := by
    rw [List.append_assoc, List.take_append_drop]
  rw [Inbound.afterWrite, hrest]
  split
  · refine ⟨by simp, ?_⟩
    rw [List.flatten_singleton]
    exact List.prefix_append _ _
  · split
    · rename_i hdrop
      rw [hdrop, List.append_nil]
      rfl
    · rfl

end Hands

namespace Session

/-- Of the messages that were taken from the client, all but at most one were
written and flushed, and of that one some bytes may have been written. -/
def UploadBacklog (s₀ : Session) (events : List Event) (s : Session) : Prop :=
  ∃ (items : List ClientItem) (done current : List (List UInt8)) (part : List UInt8),
    fromClient events = items ++ s.bridge.client.inbox ∧
    messages items = done ++ current ∧
    s.phase.inbound.Holds current part ∧
    s.bridge.upstream.written = done.flatten ++ part ∧
    UploadFlushed s₀ events done.flatten

/-- Of the bytes that were taken from the upstream, all but those of at most one
read are in frames that the client took. -/
def DownloadBacklog (events : List Event) (s : Session) : Prop :=
  ∃ held : List UInt8,
    chunkBytes (fromUpstream events) =
      frameBytes s.bridge.client.taken ++ held ++ chunkBytes s.bridge.upstream.inbox ∧
    held.length ≤ s.bridge.readLimit ∧
    s.phase.outbound.Holds held s.bridge.slot

/-- All messages that the client sent so far were taken, written and flushed. -/
structure Relayed (s₀ : Session) (events : List Event) (s : Session) : Prop where
  inbox : s.bridge.client.inbox = []
  written : s.bridge.upstream.written = (messages (fromClient events)).flatten
  flushed : UploadFlushed s₀ events (messages (fromClient events)).flatten

/-- All bytes that the upstream sent so far were taken, framed and flushed. -/
structure Framed (s₀ : Session) (events : List Event) (s : Session) : Prop where
  inbox : s.bridge.upstream.inbox = []
  slot : s.bridge.slot = none
  taken : frameBytes s.bridge.client.taken = chunkBytes (fromUpstream events)
  flushed : DownloadFlushed s₀ events (chunkBytes (fromUpstream events))

section Upload

variable {s₀ s s' : Session} {events : List Event} {event : Event}

/-- An event that takes nothing from the client and writes nothing keeps the
backlog, if it leaves the pump where it is or stops it. -/
theorem UploadBacklog.keep
    (h : UploadBacklog s₀ events s)
    (hclient : s'.bridge.client.inbox = s.bridge.client.inbox ++ event.fromClient)
    (hwritten : s'.bridge.upstream.written = s.bridge.upstream.written)
    (hpump :
      s'.phase.inbound = s.phase.inbound ∨ s'.phase.inbound.isRunning = false) :
    UploadBacklog s₀ (events ++ [event]) s' := by
  obtain ⟨items, done, current, part, hsent, hmessages, hholds, hpart, hflushed⟩ := h
  refine
    ⟨items, done, current, part, ?_, hmessages, ?_, hwritten.trans hpart,
      hflushed.concat⟩
  · rw [fromClient_concat, hsent, hclient, List.append_assoc]
  · rcases hpump with hsame | hstopped
    · rwa [hsame]
    · exact Inbound.holds_of_stopped hstopped hholds.stopped

/-- Taking an item takes at most its message in hand. -/
theorem UploadBacklog.take
    {item : ClientItem}
    (h : UploadBacklog s₀ events s)
    (hreceiving : s.phase.inbound = .receiving)
    (hinbox : s.bridge.client.inbox = item :: s'.bridge.client.inbox)
    (hwritten : s'.bridge.upstream.written = s.bridge.upstream.written)
    (hpump : s'.phase.inbound = .afterEvent (.item item))
    (hnone : event.fromClient = []) :
    UploadBacklog s₀ (events ++ [event]) s' := by
  obtain ⟨items, done, current, part, hsent, hmessages, hholds, hpart, hflushed⟩ := h
  rw [hreceiving] at hholds
  obtain ⟨rfl, rfl⟩ := hholds
  rw [List.append_nil] at hmessages hpart
  have hsent' :
      fromClient (events ++ [event]) = (items ++ [item]) ++ s'.bridge.client.inbox := by
    rw [fromClient_concat, hnone, hsent, hinbox]
    simp
  have hmessages' : messages (items ++ [item]) = done ++ item.messages := by
    rw [messages_append, hmessages]
    simp [messages]
  obtain ⟨empty, current, hitem, hempty, hholds'⟩ := Inbound.holds_afterEvent item
  refine
    ⟨items ++ [item], done ++ empty, current, [], hsent', ?_, by rwa [hpump], ?_, ?_⟩
  · rw [hmessages', hitem, List.append_assoc]
  · rw [hwritten, hpart, List.flatten_append, hempty, List.append_nil, List.append_nil]
  · rw [List.flatten_append, hempty, List.append_nil]
    exact hflushed.concat

/-- A write moves bytes of the message in hand to those that were written. -/
theorem UploadBacklog.write
    {rest : List UInt8} {size n : Nat}
    (h : UploadBacklog s₀ events s)
    (hwriting : s.phase.inbound = .writing rest size)
    (hclient : s'.bridge.client.inbox = s.bridge.client.inbox)
    (hwritten :
      s'.bridge.upstream.written = s.bridge.upstream.written ++ rest.take n)
    (hpump : s'.phase.inbound = .afterWrite rest size n)
    (hnone : event.fromClient = []) :
    UploadBacklog s₀ (events ++ [event]) s' := by
  obtain ⟨items, done, current, part, hsent, hmessages, hholds, hpart, hflushed⟩ := h
  rw [hwriting] at hholds
  obtain rfl : current = [part ++ rest] := hholds
  refine
    ⟨items, done, [part ++ rest], part ++ rest.take n, ?_, hmessages, ?_, ?_,
      hflushed.concat⟩
  · rw [fromClient_concat, hnone, List.append_nil, hsent, hclient]
  · rw [hpump]
    exact Inbound.holds_afterWrite part rest size n
  · rw [hwritten, hpart, List.append_assoc]

/-- A step of the pump to the upstream keeps its backlog. -/
theorem UploadBacklog.pump
    {p p' : Inbound} {q : Outbound} {b : Bridge}
    (hrun : s₀.run? events = some s)
    (h : UploadBacklog s₀ events s)
    (hphase : s.phase = .relaying p q)
    (hchange : Inbound.Change s.bridge p p' b) :
    UploadBacklog s₀ (events ++ [.move (.pump .inbound)])
      ({ s with phase := .relaying p' q, bridge := b }.fire .inbound p'.result?) := by
  have hplace : s.phase.inbound = p := by
    rw [hphase, Phase.inbound_relaying]
  cases hchange with
  | @event yield hyield =>
      cases yield with
      | ended =>
          have hempty := (ClientEnd.next_eq_ended_iff.mp hyield).1
          exact h.keep (by simp [hempty]) (by simp) (Or.inr (by simp [Inbound.afterEvent]))
      | item item =>
          have hinbox := ClientEnd.next_eq_item_iff.mp hyield
          exact h.take hplace (by simpa using hinbox) (by simp) (by simp) rfl
  | write hwrite =>
      have hwritten := UpstreamEnd.write_written_of_done hwrite
      exact h.write hplace (by simp) (by simpa using hwritten) (by simp) rfl
  | writeFailed hwrite =>
      have hwritten := UpstreamEnd.write_written_of_failed hwrite
      exact h.keep (by simp) (by simpa using hwritten) (Or.inr (by simp))
  | flush hflush =>
      obtain ⟨items, done, current, part, hsent, hmessages, hholds, hpart, -⟩ := h
      rw [hplace] at hholds
      obtain rfl : current = [part] := hholds
      refine
        ⟨items, done ++ [part], [], [], by simpa using hsent, by simpa using hmessages,
          by simp [Inbound.Holds], by simpa using hpart, ?_⟩
      refine Or.inr ((occurs_concat_iff hrun).mpr (Or.inr ?_))
      exact ⟨rfl, ⟨_, hplace⟩, hflush, by simpa using hpart⟩
  | flushFailed hflush =>
      exact h.keep (by simp) (by simp) (Or.inr (by simp))

/-- Every event keeps the backlog of the pump to the upstream. -/
theorem UploadBacklog.next
    (hrun : s₀.run? events = some s)
    (h : UploadBacklog s₀ events s)
    (hnext : Next s event s') :
    UploadBacklog s₀ (events ++ [event]) s' := by
  cases hnext with
  | move hchange =>
      cases hchange with
      | pumpInbound hphase hpump =>
          exact h.pump hrun hphase hpump
      | pumpOutbound hphase hpump =>
          refine h.keep ?_ ?_ (Or.inl (by simp [hphase]))
          · cases hpump <;> simp
          · cases hpump <;> simp
      | start hphase =>
          exact h.keep (by simp [enter]) rfl (Or.inl (by simp [hphase]))
      | interruptOutbound hphase hfired hrunning =>
          exact h.keep (by simp) rfl (Or.inl (by simp [hphase]))
      | empty hphase hslot hhand =>
          exact h.keep (by simp) (by simp) (Or.inl rfl)
      | _ =>
          exact h.keep (by simp [enter]) (by simp [enter]) (Or.inr (by simp))
  | stimulus x =>
      exact h.keep (by simp [Event.fromClient]) (by simp) (Or.inl rfl)
  | advance ms =>
      exact h.keep (by simp [Event.fromClient]) rfl (Or.inl rfl)

end Upload

section Download

variable {s s' : Session} {events : List Event} {event : Event}

/-- An event that moves no byte between the upstream and the client keeps the
backlog, if it leaves the pump where it is or stops it. -/
theorem DownloadBacklog.keep
    (h : DownloadBacklog events s)
    (hupstream :
      chunkBytes s'.bridge.upstream.inbox =
        chunkBytes s.bridge.upstream.inbox ++ chunkBytes event.fromUpstream)
    (htaken : s'.bridge.client.taken = s.bridge.client.taken)
    (hslot : s'.bridge.slot = s.bridge.slot)
    (hsize : s'.bridge.bufferSize = s.bridge.bufferSize)
    (hpump :
      s'.phase.outbound = s.phase.outbound ∨ s'.phase.outbound.isRunning = false) :
    DownloadBacklog (events ++ [event]) s' := by
  obtain ⟨held, hbytes, hlimit, hholds⟩ := h
  refine ⟨held, ?_, by rwa [Bridge.readLimit, hsize], ?_⟩
  · rw [fromUpstream_concat, chunkBytes_append, hbytes, hupstream, htaken]
    simp
  · rw [hslot]
    rcases hpump with hsame | hstopped
    · rwa [hsame]
    · exact Outbound.holds_of_stopped hstopped hholds.stopped

/-- Handing over brings bytes in hand to the client or leaves them, and a close
frame can then take the slot. -/
theorem DownloadBacklog.hand
    (h : DownloadBacklog events s)
    (hnone : event.fromUpstream = [])
    (hupstream : s'.bridge.upstream.inbox = s.bridge.upstream.inbox)
    (hsize : s'.bridge.bufferSize = s.bridge.bufferSize)
    (htaken : s'.bridge.client.taken = s.bridge.handOver.2.client.taken)
    (hslot :
      s'.bridge.slot = s.bridge.handOver.2.slot ∨
        frameBytes s'.bridge.slot.toList = [])
    (hstopped : s'.phase.outbound.isRunning = false) :
    DownloadBacklog (events ++ [event]) s' := by
  obtain ⟨held, hbytes, hlimit, hholds⟩ := h
  obtain ⟨held', hsame, hless, hslot'⟩ := handOver_held s.bridge hholds.stopped
  refine
    ⟨held', ?_, ?_, Outbound.holds_of_stopped hstopped ?_⟩
  · rw [fromUpstream_concat, hnone, List.append_nil, hbytes, hupstream, htaken, hsame]
  · rw [Bridge.readLimit, hsize]
    exact Nat.le_trans hless hlimit
  · rcases hslot with hslot | hempty
    · rwa [hslot]
    · exact Or.inl hempty

/-- A step of the pump to the client keeps its backlog. -/
theorem DownloadBacklog.pump
    {p : Inbound} {q q' : Outbound} {b : Bridge}
    (h : DownloadBacklog events s)
    (hphase : s.phase = .relaying p q)
    (hchange : Outbound.Change s.bridge q q' b) :
    DownloadBacklog (events ++ [.move (.pump .outbound)])
      ({ s with phase := .relaying p q', bridge := b }.fire .outbound q'.result?) := by
  have hplace : s.phase.outbound = q := by
    rw [hphase, Phase.outbound_relaying]
  cases hchange with
  | readEnd hread =>
      have hqueue := (chunkBytes_read hread).symm
      exact
        h.keep (by simpa using hqueue) (by simp) (by simp) (by simp) (Or.inr (by simp))
  | @read bytes hread hne =>
      obtain ⟨held, hbytes, -, hholds⟩ := h
      rw [hplace] at hholds
      obtain ⟨rfl, -⟩ := hholds
      refine ⟨bytes, ?_, ?_, by simp [Outbound.Holds]⟩
      · simpa [chunkBytes_read hread] using hbytes
      · simpa [Bridge.readLimit] using length_read_le hread
  | readFailed hread =>
      have hqueue := chunkBytes_read_of_failed hread
      exact
        h.keep (by simpa using hqueue) (by simp) (by simp) (by simp) (Or.inr (by simp))
  | hand hhand =>
      obtain ⟨held, hbytes, -, hholds⟩ := h
      rw [hplace] at hholds
      have hslot : s.bridge.slot = some (.binary held) := hholds
      obtain ⟨hempty, htaken⟩ := Bridge.handOver_of_done hhand
      refine ⟨[], ?_, Nat.zero_le _, by simp [Outbound.Holds, hempty]⟩
      simpa [htaken, hslot, frameBytes] using hbytes
  | handFailed hhand =>
      exact h.hand rfl (by simp) (by simp) (by simp) (Or.inl (by simp)) (by simp)
  | flush hflush =>
      obtain ⟨held, hbytes, -, hholds⟩ := h
      rw [hplace] at hholds
      obtain ⟨rfl, hslot⟩ := hholds
      exact
        ⟨[], by simpa using hbytes, Nat.zero_le _, by simp [Outbound.Holds, hslot]⟩
  | flushFailed hflush =>
      exact h.keep (by simp) (by simp) (by simp) (by simp) (Or.inr (by simp))

/-- Every event keeps the backlog of the pump to the client. -/
theorem DownloadBacklog.next
    (h : DownloadBacklog events s)
    (hnext : Next s event s') :
    DownloadBacklog (events ++ [event]) s' := by
  cases hnext with
  | move hchange =>
      cases hchange with
      | pumpInbound hphase hpump =>
          refine h.keep ?_ ?_ ?_ ?_ (Or.inl (by simp [hphase]))
          all_goals cases hpump <;> simp
      | pumpOutbound hphase hpump =>
          exact h.pump hphase hpump
      | start hphase =>
          exact h.keep (by simp [enter]) rfl rfl rfl (Or.inl (by simp [hphase]))
      | interruptInbound hphase hfired hrunning =>
          exact h.keep (by simp) rfl rfl rfl (Or.inl (by simp [hphase]))
      | clear hphase hhand =>
          exact h.hand rfl (by simp) (by simp) rfl (Or.inr rfl) rfl
      | clearFailed hphase hhand =>
          exact h.hand rfl (by simp) (by simp) rfl (Or.inl rfl) rfl
      | hand hphase hhand =>
          exact h.hand rfl (by simp) (by simp) rfl (Or.inl rfl) rfl
      | handFailed hphase hhand =>
          exact h.hand rfl (by simp) (by simp) rfl (Or.inl rfl) rfl
      | empty hphase hslot hhand =>
          exact h.hand rfl (by simp) (by simp) rfl (Or.inl rfl) (by simp [hphase])
      | emptyFailed hphase hslot hhand =>
          exact h.hand rfl (by simp) (by simp) rfl (Or.inl rfl) rfl
      | _ =>
          exact
            h.keep (by simp [enter]) (by simp [enter]) (by simp [enter]) (by simp [enter])
              (Or.inr (by simp))
  | stimulus x =>
      exact h.keep (by simp [Event.fromUpstream]) (by simp) (by simp) (by simp) (Or.inl rfl)
  | advance ms =>
      exact h.keep (by simp [Event.fromUpstream]) rfl rfl rfl (Or.inl rfl)

end Download

section Quiet

variable {s : Session} {p : Inbound} {q : Outbound}

/-- At a quiet point, a pump to the upstream that runs waits for the client or
for a call of the upstream that blocks. -/
theorem Quiet.inbound
    (hquiet : s.Quiet)
    (hphase : s.phase = .relaying p q)
    (hrunning : p.isRunning = true) :
    (p = .receiving ∧ s.bridge.client.inbox = []) ∨
      (∃ rest size,
        p = .writing rest size ∧ (s.bridge.upstream.write rest).1 = .blocked) ∨
      ∃ size, p = .flushing size ∧ s.bridge.upstream.flush.1 = .blocked := by
  have hnone : p.step s.bridge = none := by
    have hpump := hquiet (.pump .inbound)
    cases hstep : p.step s.bridge with
    | none => rfl
    | some next => simp [step, pump, hphase, hstep] at hpump
  cases Inbound.waits_of_step_eq_none hnone hrunning with
  | client hinbox hended =>
      exact Or.inl ⟨rfl, hinbox⟩
  | write hwrite =>
      exact Or.inr (Or.inl ⟨_, _, rfl, hwrite⟩)
  | flush hflush =>
      exact Or.inr (Or.inr ⟨_, rfl, hflush⟩)

/-- At a quiet point, a pump to the client that runs waits for the upstream or
for a call of the client that blocks. -/
theorem Quiet.outbound
    (hquiet : s.Quiet)
    (hphase : s.phase = .relaying p q)
    (hrunning : q.isRunning = true) :
    (q = .reading ∧ s.bridge.upstream.inbox = []) ∨
      (∃ size, q = .handing size ∧ s.bridge.client.ready = .blocked) ∨
      ∃ size, q = .flushing size ∧ s.bridge.client.flush.1 = .blocked := by
  have hnone : q.step s.bridge = none := by
    have hpump := hquiet (.pump .outbound)
    cases hstep : q.step s.bridge with
    | none => rfl
    | some next => simp [step, pump, hphase, hstep] at hpump
  cases Outbound.waits_of_step_eq_none hnone hrunning with
  | upstream hinbox hended =>
      exact Or.inl ⟨rfl, hinbox⟩
  | hand hready =>
      exact Or.inr (Or.inl ⟨_, rfl, hready⟩)
  | flush hflush =>
      exact Or.inr (Or.inr ⟨_, rfl, hflush⟩)

end Quiet

section Runs

variable {bufferSize : Nat} {latencyMicros : UInt64} {metrics : Metrics}
  {events : List Event} {s : Session}

/-- At no time has the pump more of the client than one payload. -/
theorem uploadBacklog_of_run
    (hrun : (fresh bufferSize latencyMicros metrics).run? events = some s) :
    UploadBacklog (fresh bufferSize latencyMicros metrics) events s := by
  refine run_induction
    (P := fun events s =>
      UploadBacklog (fresh bufferSize latencyMicros metrics) events s)
    ?_ ?_ hrun
  · exact ⟨[], [], [], [], rfl, rfl, ⟨rfl, rfl⟩, rfl, Or.inl rfl⟩
  · intro events t event t' ht h hact
    exact h.next ht (next_of_act hact)

/-- At no time has the pump more of the upstream than one frame. -/
theorem downloadBacklog_of_run
    (hrun : (fresh bufferSize latencyMicros metrics).run? events = some s) :
    DownloadBacklog events s := by
  refine run_induction (P := fun events s => DownloadBacklog events s)
    ?_ ?_ hrun
  · exact ⟨[], rfl, Nat.zero_le _, rfl, rfl⟩
  · intro events t event t' _ h hact
    exact h.next (next_of_act hact)

/-- If the pump to the upstream waits and no item of the client is left, all was
relayed. -/
theorem relayed_of_receiving
    (hrun : (fresh bufferSize latencyMicros metrics).run? events = some s)
    (hreceiving : s.phase.inbound = .receiving)
    (hinbox : s.bridge.client.inbox = []) :
    Relayed (fresh bufferSize latencyMicros metrics) events s := by
  obtain ⟨items, done, current, part, hsent, hmessages, hholds, hwritten, hflushed⟩ :=
    uploadBacklog_of_run hrun
  rw [hreceiving] at hholds
  obtain ⟨rfl, rfl⟩ := hholds
  rw [hinbox, List.append_nil] at hsent
  rw [List.append_nil] at hmessages hwritten
  subst hsent
  rw [← hmessages] at hwritten hflushed
  exact ⟨hinbox, hwritten, hflushed⟩

/-- If the pump to the client waits and no item of the upstream is left, all was
framed. -/
theorem framed_of_reading
    (hrun : (fresh bufferSize latencyMicros metrics).run? events = some s)
    (hreading : s.phase.outbound = .reading)
    (hinbox : s.bridge.upstream.inbox = []) :
    Framed (fresh bufferSize latencyMicros metrics) events s := by
  obtain ⟨held, hbytes, -, hholds⟩ := downloadBacklog_of_run hrun
  rw [hreading] at hholds
  obtain ⟨rfl, hslot⟩ := hholds
  have hall : frameBytes s.bridge.client.taken = chunkBytes (fromUpstream events) := by
    simpa [hinbox, chunkBytes] using hbytes.symm
  refine ⟨hinbox, hslot, hall, ?_⟩
  rw [← hall]
  exact downloadFlushed_of_run hrun hreading

/--
At a point of a run where no move is possible, and the session is open:

* all messages of the client were written and flushed, or the pump to the
  upstream waits for a write or a flush that blocks;
* all bytes of the upstream were framed and flushed, or the pump to the client
  waits for a client that is not ready or for a flush that blocks.

Neither depends on the other.  At every point of a run:

* of the messages that were taken from the client, all but at most one were
  written and flushed;
* of the bytes that were taken from the upstream, all but at most as many as the
  buffer holds are in frames that the client took.
-/
theorem independent_back_pressure
    (hrun : (fresh bufferSize latencyMicros metrics).run? events = some s) :
    (s.Quiet →
      s.bridge.stats.state = .opened →
      (Relayed (fresh bufferSize latencyMicros metrics) events s ∨
        (∃ rest size,
          s.phase.inbound = .writing rest size ∧
          (s.bridge.upstream.write rest).1 = .blocked) ∨
        (∃ size,
          s.phase.inbound = .flushing size ∧
          s.bridge.upstream.flush.1 = .blocked)) ∧
      (Framed (fresh bufferSize latencyMicros metrics) events s ∨
        (∃ size,
          s.phase.outbound = .handing size ∧
          s.bridge.client.ready = .blocked) ∨
        (∃ size,
          s.phase.outbound = .flushing size ∧
          s.bridge.client.flush.1 = .blocked))) ∧
    (∃ (items : List ClientItem) (done current : List (List UInt8)) (part : List UInt8),
      fromClient events = items ++ s.bridge.client.inbox ∧
      messages items = done ++ current ∧
      current.length ≤ 1 ∧
      part <+: current.flatten ∧
      s.bridge.upstream.written = done.flatten ++ part ∧
      UploadFlushed (fresh bufferSize latencyMicros metrics) events done.flatten) ∧
    (∃ held : List UInt8,
      chunkBytes (fromUpstream events) =
        frameBytes s.bridge.client.taken ++ held ++
          chunkBytes s.bridge.upstream.inbox ∧
      held.length ≤ max bufferSize 1) := by
  refine ⟨?_, ?_, ?_⟩
  · intro hquiet hopened
    rw [state_of_run hrun] at hopened
    obtain ⟨p, q, hphase⟩ := Phase.relaying_of_state hopened
    have hlatched := latched_of_run hrun
    have hnone := hquiet.reason_none hlatched hphase
    have hrunning := hlatched.pumps_running hphase hnone
    have hin := congrArg Phase.inbound hphase
    have hout := congrArg Phase.outbound hphase
    simp only [Phase.inbound_relaying, Phase.outbound_relaying] at hin hout
    rw [hin, hout]
    refine
      ⟨(hquiet.inbound hphase hrunning.1).imp_left ?_,
        (hquiet.outbound hphase hrunning.2).imp_left ?_⟩
    · rintro ⟨rfl, hinbox⟩
      exact relayed_of_receiving hrun hin hinbox
    · rintro ⟨rfl, hinbox⟩
      exact framed_of_reading hrun hout hinbox
  · obtain ⟨items, done, current, part, hsent, hmessages, hholds, hwritten, hflushed⟩ :=
      uploadBacklog_of_run hrun
    exact
      ⟨items, done, current, part, hsent, hmessages, hholds.stopped.1,
        hholds.stopped.2, hwritten, hflushed⟩
  · obtain ⟨held, hbytes, hlimit, -⟩ := downloadBacklog_of_run hrun
    rw [readLimit_of_run hrun] at hlimit
    exact ⟨held, hbytes, hlimit⟩

/-- The upstream takes two bytes of the first of two messages and then no more,
while what it sends goes on to the client. -/
def oneSided : List Event :=
  [.move .start,
   .stimulus (.limit .upstreamRoom (some 2)),
   .stimulus (.clientItems [.frame (.binary [1, 2, 3]), .frame (.binary [4])]),
   .stimulus (.upstreamItem (.chunk [7, 8])),
   .move (.pump .inbound),
   .move (.pump .inbound),
   .move (.pump .outbound),
   .move (.pump .outbound),
   .move (.pump .outbound)]

theorem independent_back_pressure_oneSided :
    ∃ s, (fresh 4096 0 {}).run? oneSided = some s ∧
      s.Quiet ∧
      s.bridge.stats.state = .opened ∧
      s.phase.inbound = .writing [3] 3 ∧
      (s.bridge.upstream.write [3]).1 = .blocked ∧
      s.bridge.client.inbox = [.frame (.binary [4])] ∧
      Framed (fresh 4096 0 {}) oneSided s := by
  obtain ⟨s, hrun⟩ : ∃ s, (fresh 4096 0 {}).run? oneSided = some s := ⟨_, rfl⟩
  have hquiet : s.Quiet := by
    cases hrun
    intro m
    cases m with
    | pump direction => cases direction <;> rfl
    | interrupt direction => cases direction <;> rfl
    | _ => rfl
  have hopened : s.bridge.stats.state = .opened := by
    cases hrun
    rfl
  have hin : s.phase.inbound = .writing [3] 3 := by
    cases hrun
    rfl
  have hout : s.phase.outbound = .reading := by
    cases hrun
    rfl
  obtain ⟨hup, hdown⟩ := (independent_back_pressure hrun).1 hquiet hopened
  rw [hin] at hup
  rw [hout] at hdown
  have hinbox : s.bridge.client.inbox = [.frame (.binary [4])] := by
    cases hrun
    rfl
  refine ⟨s, hrun, hquiet, hopened, hin, ?_, hinbox, ?_⟩
  · rcases hup with hrelayed | ⟨rest, size, hwriting, hblocked⟩ | ⟨size, hflushing, -⟩
    · rw [hrelayed.inbox] at hinbox
      cases hinbox
    · cases hwriting
      exact hblocked
    · cases hflushing
  · rcases hdown with hframed | ⟨size, hhanding, -⟩ | ⟨size, hflushing, -⟩
    · exact hframed
    · cases hhanding
    · cases hflushing

end Runs

end Session
end FrameBridge
