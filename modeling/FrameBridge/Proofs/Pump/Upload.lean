import FrameBridge.Proofs.Pump.Run
import FrameBridge.Proofs.Session.Upload

/-!
# The pump to the upstream on its own

What the pump does with a stream of items is settled by the stream and by the
first call of the upstream that fails, and not by how writes were cut.  `Account`
says, for each place where the pump can stand, which items were taken and what of
them was written, flushed and counted.  Every event keeps it.

If no call fails, all payloads before the first close frame, failure or end are
written.  If one fails, all before the payload of this call are, and a part of
this one.
-/

namespace FrameBridge

/-- The item is the last that is taken. -/
def ClientItem.IsLast : ClientItem → Prop
  | .frame sent => sent.content = .close
  | .failure _ => True

/-- How a stream ends, and the items behind its end. -/
def streamEnd : List ClientItem → PumpResult × List ClientItem
  | [] => (.ok (), [])
  | .failure text :: rest => (.error (.client text), rest)
  | .frame frame :: rest =>
      match frame.content with
      | .close => (.ok (), rest)
      | _ => streamEnd rest

section Items

variable {taken rest : List ClientItem}

/-- Items that are not the last of a stream add their payloads. -/
theorem payloads_append
    (htaken : ∀ item ∈ taken, ¬ item.IsLast) :
    payloads (taken ++ rest) = payloads taken ++ payloads rest := by
  induction taken with
  | nil =>
      rfl
  | cons item taken ih =>
      rw [List.forall_mem_cons] at htaken
      cases item with
      | failure text =>
          exact absurd trivial htaken.1
      | frame frame =>
          have hrest := ih htaken.2
          simp only [List.cons_append, payloads]
          cases hcontent : frame.content with
          | payload data =>
              simp [hrest]
          | control =>
              exact hrest
          | close =>
              exact absurd hcontent htaken.1

theorem streamEnd_append
    (htaken : ∀ item ∈ taken, ¬ item.IsLast) :
    streamEnd (taken ++ rest) = streamEnd rest := by
  induction taken with
  | nil =>
      rfl
  | cons item taken ih =>
      rw [List.forall_mem_cons] at htaken
      cases item with
      | failure text =>
          exact absurd trivial htaken.1
      | frame frame =>
          have hrest := ih htaken.2
          simp only [List.cons_append, streamEnd]
          cases hcontent : frame.content with
          | payload data =>
              exact hrest
          | control =>
              exact hrest
          | close =>
              exact absurd hcontent htaken.1

end Items

namespace Inbound

/-- The next call of the pump fails: a write that takes nothing has failed too. -/
inductive Fails (b : Bridge) : CallKind → Inbound → Prop
  | write
      {rest : List UInt8} {size : Nat} {text : String}
      (hwrite : (b.upstream.write rest).1 = .failed text) :
      Fails b .upstreamWrite (.writing rest size)
  | writeZero
      {rest : List UInt8} {size : Nat}
      (hwrite : (b.upstream.write rest).1 = .done 0) :
      Fails b .upstreamWrite (.writing rest size)
  | flush
      {size : Nat} {text : String}
      (hflush : b.upstream.flush.1 = .failed text) :
      Fails b .upstreamFlush (.flushing size)

/-- What was done since some state: the payloads of the items that were taken were
written, flushed and counted, and a part of one more payload was written. -/
structure Moved
    (b₀ b : Bridge) (taken : List ClientItem) (part : List UInt8) : Prop where
  passed : ∀ item ∈ taken, ¬ item.IsLast
  written :
    b.upstream.written = b₀.upstream.written ++ (payloads taken).flatten ++ part
  flushes :
    b.upstream.flushes = b₀.upstream.flushes + (payloads taken).countP (· ≠ [])
  counted :
    b.stats.bytesUp = b₀.stats.bytesUp + UInt64.ofNat (payloads taken).flatten.length

/-- What was done since some state, by where the pump stands. -/
inductive Account (b₀ b : Bridge) (sent : List ClientItem) : Inbound → Prop
  | receiving
      {taken : List ClientItem}
      (hsent : sent = taken ++ b.client.inbox)
      (hmoved : Moved b₀ b taken []) :
      Account b₀ b sent .receiving
  | writing
      {taken : List ClientItem} {frame : Frame} {part rest : List UInt8} {size : Nat}
      (hsent : sent = taken ++ .frame frame :: b.client.inbox)
      (hcontent : frame.content = .payload (part ++ rest))
      (hrest : rest ≠ [])
      (hsize : size = (part ++ rest).length)
      (hmoved : Moved b₀ b taken part) :
      Account b₀ b sent (.writing rest size)
  | flushing
      {taken : List ClientItem} {frame : Frame} {data : List UInt8} {size : Nat}
      (hsent : sent = taken ++ .frame frame :: b.client.inbox)
      (hcontent : frame.content = .payload data)
      (hdata : data ≠ [])
      (hsize : size = data.length)
      (hmoved : Moved b₀ b taken data) :
      Account b₀ b sent (.flushing size)
  | ended
      (result : PumpResult) :
      Account b₀ b sent (.ended result)

/-- All payloads of a stream were written, flushed and counted, and what is behind
the end of the stream was not taken. -/
structure Uploaded
    (b₀ b : Bridge) (sent : List ClientItem) (result : PumpResult) : Prop where
  written : b.upstream.written = b₀.upstream.written ++ (payloads sent).flatten
  flushes : b.upstream.flushes = b₀.upstream.flushes + (payloads sent).countP (· ≠ [])
  counted :
    b.stats.bytesUp = b₀.stats.bytesUp + UInt64.ofNat (payloads sent).flatten.length
  ended : (result, b.client.inbox) = streamEnd sent

/-- A call for the payload behind some items failed.  The payloads of these items
were written, flushed and counted; of this one some bytes were written, all of them
if it was flushed, and nothing was counted.  Nothing behind it was taken. -/
structure CutShort
    (b₀ b : Bridge) (sent : List ClientItem) (kind : CallKind)
    (taken : List ClientItem) (data part : List UInt8) : Prop where
  sent :
    ∃ frame, frame.content = .payload data ∧
      sent = taken ++ .frame frame :: b.client.inbox
  passed : ∀ item ∈ taken, ¬ item.IsLast
  place :
    (kind = .upstreamWrite ∧ part <+: data ∧ part ≠ data) ∨
      (kind = .upstreamFlush ∧ part = data ∧ data ≠ [])
  written :
    b.upstream.written = b₀.upstream.written ++ (payloads taken).flatten ++ part
  flushes :
    b.upstream.flushes =
      b₀.upstream.flushes + (payloads taken).countP (· ≠ []) +
        if kind = .upstreamFlush then 1 else 0
  counted :
    b.stats.bytesUp = b₀.stats.bytesUp + UInt64.ofNat (payloads taken).flatten.length

/-- What reached the upstream is the same, and so is what was counted and what was
not taken. -/
structure SameUpload (b c : Bridge) : Prop where
  written : c.upstream.written = b.upstream.written
  flushes : c.upstream.flushes = b.upstream.flushes
  counted : c.stats.bytesUp = b.stats.bytesUp
  unread : c.client.inbox = b.client.inbox

section Steps

variable {b₀ b b' : Bridge} {sent taken : List ClientItem} {part : List UInt8}
  {p p' : Inbound}

/-- What an end does by itself does not touch what was written. -/
theorem Moved.stimulate
    (x : Stimulus)
    (h : Moved b₀ b taken part) :
    Moved b₀ (b.stimulate x) taken part := by
  constructor
  · exact h.passed
  · rw [Bridge.stimulate_written, h.written]
  · rw [Bridge.stimulate_upstreamFlushes, h.flushes]
  · rw [Bridge.stimulate_stats, h.counted]

theorem Moved.next
    {c : ClientEnd}
    (h : Moved b₀ b taken part) :
    Moved b₀ { b with client := c } taken part :=
  ⟨h.passed, h.written, h.flushes, h.counted⟩

/-- An item without bytes is passed over. -/
theorem Moved.skip
    {item : ClientItem} {c : ClientEnd}
    (h : Moved b₀ b taken [])
    (hlast : ¬ item.IsLast)
    (hempty : payloads [item] = [] ∨ payloads [item] = [[]]) :
    Moved b₀ { b with client := c } (taken ++ [item]) [] := by
  have hflatten : (payloads (taken ++ [item])).flatten = (payloads taken).flatten := by
    rw [payloads_append h.passed]
    rcases hempty with hempty | hempty <;> simp [hempty]
  have hcount :
      (payloads (taken ++ [item])).countP (· ≠ []) = (payloads taken).countP (· ≠ []) := by
    rw [payloads_append h.passed]
    rcases hempty with hempty | hempty <;> simp [hempty]
  constructor
  · intro other hother
    rcases List.mem_append.mp hother with hother | hother
    · exact h.passed other hother
    · rw [List.mem_singleton.mp hother]
      exact hlast
  · rw [hflatten]
    exact h.written
  · rw [hcount]
    exact h.flushes
  · rw [hflatten]
    exact h.counted

/-- What the client does by itself leaves the account as it was. -/
theorem Account.stimulate
    (x : Stimulus)
    (h : Account b₀ b sent p) :
    Account b₀ (b.stimulate x) (sent ++ x.fromClient) p := by
  cases h with
  | receiving hsent hmoved =>
      refine .receiving ?_ (hmoved.stimulate x)
      rw [hsent, Bridge.stimulate_clientInbox, List.append_assoc]
  | writing hsent hcontent hrest hsize hmoved =>
      refine .writing ?_ hcontent hrest hsize (hmoved.stimulate x)
      rw [hsent, Bridge.stimulate_clientInbox, List.append_assoc, List.cons_append]
  | flushing hsent hcontent hdata hsize hmoved =>
      refine .flushing ?_ hcontent hdata hsize (hmoved.stimulate x)
      rw [hsent, Bridge.stimulate_clientInbox, List.append_assoc, List.cons_append]
  | ended result =>
      exact .ended result

/-- An item begins a payload, is passed over, or ends the pump. -/
theorem Account.afterItem
    {item : ClientItem} {rest : List ClientItem}
    (h : Account b₀ b sent .receiving)
    (hinbox : b.client.inbox = item :: rest) :
    Account b₀ { b with client := b.client.next.2 } sent (afterEvent (.item item)) := by
  cases h with
  | @receiving taken hsent hmoved =>
      rw [hinbox] at hsent
      have hskipped : sent = taken ++ [item] ++ b.client.next.2.inbox := by
        rw [hsent, ClientEnd.next_snd, hinbox, List.append_cons]
        rfl
      cases item with
      | failure text =>
          exact .ended _
      | frame frame =>
          simp only [afterEvent]
          cases hcontent : frame.content with
          | payload data =>
              by_cases hdata : data = []
              · simp only [if_pos hdata]
                subst hdata
                refine .receiving hskipped (hmoved.skip ?_ (Or.inr ?_))
                · simp [ClientItem.IsLast, hcontent]
                · simp [payloads, hcontent]
              · simp only [if_neg hdata]
                have hbegun : frame.content = .payload ([] ++ data) := hcontent
                refine .writing ?_ hbegun hdata rfl hmoved.next
                rw [hskipped, List.append_assoc, List.singleton_append]
          | control =>
              refine .receiving hskipped (hmoved.skip ?_ (Or.inl ?_))
              · simp [ClientItem.IsLast, hcontent]
              · simp [payloads, hcontent]
          | close =>
              exact .ended _

/-- A write moves bytes from the rest of a payload to what was written. -/
theorem Account.afterWrite
    {rest : List UInt8} {size n : Nat}
    (h : Account b₀ b sent (.writing rest size))
    (hwrite : (b.upstream.write rest).1 = .done n) :
    Account b₀ { b with upstream := (b.upstream.write rest).2 } sent
      (afterWrite rest size n) := by
  cases h with
  | @writing taken frame part _ _ hsent hcontent hrest hsize hmoved =>
      have hmoved' :
          Moved b₀ { b with upstream := (b.upstream.write rest).2 } taken
            (part ++ rest.take n) := by
        constructor
        · exact hmoved.passed
        · rw [UpstreamEnd.write_written_of_done hwrite, hmoved.written, List.append_assoc _ part]
        · rw [UpstreamEnd.write_flushes, hmoved.flushes]
        · exact hmoved.counted
      have hdata : part ++ rest = part ++ rest.take n ++ rest.drop n := by
        rw [List.append_assoc, List.take_append_drop]
      unfold Inbound.afterWrite
      by_cases hzero : n = 0
      · rw [if_pos hzero]
        exact .ended _
      · by_cases hdrop : rest.drop n = []
        · rw [if_neg hzero, if_pos hdrop]
          rw [hdrop, List.append_nil] at hdata
          refine .flushing hsent (hcontent.trans (congrArg _ hdata)) ?_
            (hsize.trans (congrArg _ hdata)) hmoved'
          rw [← hdata]
          exact List.append_ne_nil_of_right_ne_nil _ hrest
        · rw [if_neg hzero, if_neg hdrop]
          exact .writing hsent (hcontent.trans (congrArg _ hdata)) hdrop
            (hsize.trans (congrArg _ hdata)) hmoved'

/-- A payload that was flushed is counted, with the item that it came in. -/
theorem Account.afterFlush
    {size : Nat}
    (h : Account b₀ b sent (.flushing size))
    (hflush : b.upstream.flush.1 = .done ()) :
    Account b₀ ({ b with upstream := b.upstream.flush.2 }.record .inbound size) sent
      .receiving := by
  cases h with
  | @flushing taken frame data _ hsent hcontent hdata hsize hmoved =>
      have hpayloads : payloads (taken ++ [.frame frame]) = payloads taken ++ [data] := by
        rw [payloads_append hmoved.passed]
        simp [payloads, hcontent]
      have hblocked : b.upstream.flush.1 ≠ .blocked := by
        rw [hflush]
        simp
      refine .receiving (hsent.trans (List.append_cons _ _ _)) ?_
      constructor
      · intro item hitem
        rcases List.mem_append.mp hitem with hitem | hitem
        · exact hmoved.passed item hitem
        · rw [List.mem_singleton.mp hitem]
          simp [ClientItem.IsLast, hcontent]
      · simp [hpayloads, hmoved.written]
      · simp [hpayloads, hdata, UpstreamEnd.flush_flushes_of_ne_blocked hblocked,
          hmoved.flushes, Nat.add_assoc]
      · rw [Bridge.record_inbound_bytesUp, hmoved.counted, hpayloads, hsize,
          List.flatten_append, List.length_append, UInt64.ofNat_add, UInt64.add_assoc]
        simp

/-- A pump that nobody interrupts runs or has ended. -/
theorem Account.ended_or_running
    (h : Account b₀ b sent p) :
    (∃ result, p = .ended result) ∨ p.isRunning = true := by
  cases h with
  | receiving =>
      exact Or.inr rfl
  | writing =>
      exact Or.inr rfl
  | flushing =>
      exact Or.inr rfl
  | ended result =>
      exact Or.inl ⟨result, rfl⟩

/-- A step keeps the account. -/
theorem Account.step
    (h : Account b₀ b sent p)
    (hchange : Change b p p' b') :
    Account b₀ b' sent p' := by
  cases hchange with
  | @event event hnext =>
      cases event with
      | ended =>
          exact .ended _
      | item item =>
          exact h.afterItem (ClientEnd.next_eq_item_iff.mp hnext)
  | write hwrite =>
      exact h.afterWrite hwrite
  | writeFailed hwrite =>
      exact .ended _
  | flush hflush =>
      exact h.afterFlush hflush
  | flushFailed hflush =>
      exact .ended _

end Steps

section Ends

variable {b₀ b b' c : Bridge} {sent taken others : List ClientItem}
  {data part more begun : List UInt8} {p : Inbound} {kind : CallKind} {result : PumpResult}

/-- A call that fails ends the pump with an error of the upstream, and cuts the
stream short where the pump stands. -/
theorem Account.cutShort
    (h : Account b₀ b sent p)
    (hfails : Fails b kind p) :
    ∃ text b' taken data part,
      p.step b = some (.ended (.error (.upstream text)), b') ∧
        CutShort b₀ b' sent kind taken data part := by
  cases hfails with
  | @write rest size text hwrite =>
      cases h with
      | @writing taken frame part _ _ hsent hcontent hrest hsize hmoved =>
          refine ⟨text, _, taken, part ++ rest, part, step_of_change (.writeFailed hwrite), ?_⟩
          constructor
          · exact ⟨frame, hcontent, hsent⟩
          · exact hmoved.passed
          · exact Or.inl ⟨rfl, List.prefix_append _ _, by simpa using hrest⟩
          · rw [UpstreamEnd.write_written_of_failed hwrite, hmoved.written]
          · simp [hmoved.flushes]
          · exact hmoved.counted
  | @writeZero rest size hwrite =>
      cases h with
      | @writing taken frame part _ _ hsent hcontent hrest hsize hmoved =>
          refine ⟨"write zero", _, taken, part ++ rest, part, step_of_change (.write hwrite), ?_⟩
          constructor
          · exact ⟨frame, hcontent, hsent⟩
          · exact hmoved.passed
          · exact Or.inl ⟨rfl, List.prefix_append _ _, by simpa using hrest⟩
          · simp [UpstreamEnd.write_written_of_done hwrite, hmoved.written]
          · simp [hmoved.flushes]
          · exact hmoved.counted
  | @flush size text hflush =>
      cases h with
      | @flushing taken frame data _ hsent hcontent hdata hsize hmoved =>
          have hblocked : b.upstream.flush.1 ≠ .blocked := by
            rw [hflush]
            simp
          refine ⟨text, _, taken, data, data, step_of_change (.flushFailed hflush), ?_⟩
          constructor
          · exact ⟨frame, hcontent, hsent⟩
          · exact hmoved.passed
          · exact Or.inr ⟨rfl, rfl, hdata⟩
          · simp [hmoved.written]
          · simp [UpstreamEnd.flush_flushes_of_ne_blocked hblocked, hmoved.flushes]
          · exact hmoved.counted

/-- At the end of a stream, all of it was moved. -/
theorem Moved.uploaded
    {rest : List ClientItem} {c : ClientEnd}
    (h : Moved b₀ b taken [])
    (hnone : payloads rest = [])
    (hend : (result, c.inbox) = streamEnd rest) :
    Uploaded b₀ { b with client := c } (taken ++ rest) result := by
  have hall : payloads (taken ++ rest) = payloads taken := by
    rw [payloads_append h.passed, hnone, List.append_nil]
  constructor
  · rw [hall, h.written, List.append_nil]
  · rw [hall, h.flushes]
  · rw [hall, h.counted]
  · rw [streamEnd_append h.passed, hend]

/-- An item that ends the pump is the end of the stream. -/
theorem streamEnd_of_afterEvent
    {item : ClientItem}
    (hended : afterEvent (.item item) = .ended result)
    (rest : List ClientItem) :
    payloads (item :: rest) = [] ∧ streamEnd (item :: rest) = (result, rest) := by
  cases item with
  | failure text =>
      cases hended
      exact ⟨rfl, rfl⟩
  | frame frame =>
      simp only [afterEvent] at hended
      cases hcontent : frame.content with
      | payload data =>
          rw [hcontent] at hended
          by_cases hdata : data = []
          · simp [hdata] at hended
          · simp [hdata] at hended
      | control =>
          rw [hcontent] at hended
          cases hended
      | close =>
          rw [hcontent] at hended
          cases hended
          simp [payloads, streamEnd, hcontent]

/-- The pump ends with the client's stream, its failure or a close frame. -/
theorem Account.uploaded_of_event
    {event : ClientEvent}
    (h : Account b₀ b sent .receiving)
    (hnext : b.client.next.1 = .done event)
    (hended : afterEvent event = .ended result) :
    Uploaded b₀ { b with client := b.client.next.2 } sent result := by
  cases h with
  | @receiving taken hsent hmoved =>
      subst hsent
      cases event with
      | ended =>
          cases hended
          obtain ⟨hinbox, -⟩ := ClientEnd.next_eq_ended_iff.mp hnext
          refine hmoved.uploaded ?_ ?_
          · rw [hinbox]
            rfl
          · rw [ClientEnd.next_snd, hinbox]
            rfl
      | item item =>
          have hinbox := ClientEnd.next_eq_item_iff.mp hnext
          obtain ⟨hnone, hend⟩ := streamEnd_of_afterEvent hended b.client.inbox.tail
          rw [← hinbox] at hnone hend
          refine hmoved.uploaded hnone ?_
          rw [hend, ClientEnd.next_snd]

/-- If no call fails, the pump only ends where the stream does. -/
theorem Account.uploaded
    (h : Account b₀ b sent p)
    (hstep : p.step b = some (.ended result, b'))
    (hfails : ∀ kind, ¬ Fails b kind p) :
    Uploaded b₀ b' sent result := by
  generalize hended : Inbound.ended result = p' at hstep
  cases change_of_step hstep with
  | event hnext =>
      exact h.uploaded_of_event hnext hended.symm
  | @write rest size n hwrite =>
      unfold Inbound.afterWrite at hended
      by_cases hzero : n = 0
      · subst hzero
        exact absurd (.writeZero hwrite) (hfails _)
      · by_cases hdrop : rest.drop n = []
        · simp [hzero, hdrop] at hended
        · simp [hzero, hdrop] at hended
  | writeFailed hwrite =>
      exact absurd (.write hwrite) (hfails _)
  | flush hflush =>
      cases hended
  | flushFailed hflush =>
      exact absurd (.flush hflush) (hfails _)

/-- Of two streams cut short at calls of one kind, the one with more items had more
written. -/
theorem CutShort.length_written_lt
    (h : CutShort b₀ b sent kind taken data part)
    (h' : CutShort b₀ c sent kind others more begun)
    (hlt : taken.length < others.length) :
    b.upstream.written.length < c.upstream.written.length := by
  obtain ⟨frame, hcontent, hsent⟩ := h.sent
  obtain ⟨frame', -, hsent'⟩ := h'.sent
  have hfront : taken ++ [.frame frame] <+: sent :=
    ⟨b.client.inbox, by rw [hsent, List.append_assoc, List.singleton_append]⟩
  have hothers : others <+: sent := ⟨_, hsent'.symm⟩
  -- The frame that was cut here was passed over there, with all of its bytes.
  have hbegins : taken ++ [.frame frame] <+: others :=
    List.prefix_of_prefix_length_le hfront hothers (by simpa using Nat.succ_le_of_lt hlt)
  obtain ⟨between, rfl⟩ := hbegins
  have hpayloads :
      payloads (taken ++ [.frame frame] ++ between) =
        payloads taken ++ data :: payloads between := by
    rw [List.append_assoc, payloads_append h.passed]
    simp [payloads, hcontent]
  rw [h.written, h'.written, hpayloads]
  simp only [List.length_append, List.flatten_append, List.flatten_cons]
  rcases h.place with ⟨rfl, hbegin, hne⟩ | ⟨rfl, rfl, hdata⟩
  · have hshort : part.length < data.length :=
      Nat.lt_of_le_of_ne hbegin.length_le fun heq => hne (hbegin.eq_of_length heq)
    omega
  · -- All of this payload was written, but the other one is not empty.
    rcases h'.place with ⟨hkind, -, -⟩ | ⟨-, rfl, hbegun⟩
    · cases hkind
    · have hpos := List.length_pos_iff.mpr hbegun
      omega

/-- Two streams cut short at calls of one kind, with as many bytes written, were cut
at the same place. -/
theorem CutShort.same
    (h : CutShort b₀ b sent kind taken data part)
    (h' : CutShort b₀ c sent kind others more begun)
    (hlength : c.upstream.written.length = b.upstream.written.length) :
    SameUpload b c := by
  have htaken : taken.length = others.length := by
    rcases Nat.lt_trichotomy taken.length others.length with hlt | heq | hgt
    · have := h.length_written_lt h' hlt
      omega
    · exact heq
    · have := h'.length_written_lt h hgt
      omega
  obtain ⟨frame, hcontent, hsent⟩ := h.sent
  obtain ⟨frame', hcontent', hsent'⟩ := h'.sent
  obtain ⟨rfl, hrest⟩ := List.append_inj (hsent.symm.trans hsent') htaken
  obtain ⟨hframe, hinbox⟩ := List.cons.inj hrest
  cases hframe
  rw [hcontent] at hcontent'
  cases hcontent'
  have hwritten := h.written
  have hwritten' := h'.written
  have hpart : part.length = begun.length := by
    simp only [hwritten, hwritten', List.length_append] at hlength
    omega
  have hsame : part = begun := by
    rcases h.place with ⟨rfl, hbegin, -⟩ | ⟨rfl, rfl, -⟩
    · rcases h'.place with ⟨-, hbegin', -⟩ | ⟨hkind, -, -⟩
      · exact List.prefix_iff_eq_take.mp hbegin |>.trans
          (hpart ▸ (List.prefix_iff_eq_take.mp hbegin').symm)
      · cases hkind
    · rcases h'.place with ⟨hkind, -, -⟩ | ⟨-, rfl, -⟩
      · cases hkind
      · rfl
  constructor
  · rw [hwritten, hwritten', hsame]
  · rw [h.flushes, h'.flushes]
  · rw [h.counted, h'.counted]
  · exact hinbox.symm

/-- Two complete uploads of one stream cannot be told apart. -/
theorem Uploaded.same
    {result' : PumpResult}
    (h : Uploaded b₀ b sent result)
    (h' : Uploaded b₀ c sent result') :
    result' = result ∧ SameUpload b c := by
  have hend : (result', c.client.inbox) = (result, b.client.inbox) :=
    h'.ended.trans h.ended.symm
  obtain ⟨hresult, hinbox⟩ := Prod.mk.inj hend
  refine ⟨hresult, ?_, ?_, ?_, hinbox⟩
  · rw [h.written, h'.written]
  · rw [h.flushes, h'.flushes]
  · rw [h.counted, h'.counted]

end Ends

section Runs

variable {b₀ b : Bridge} {events : List Pump.Event} {p : Inbound}

/-- Every step is progress: it leaves less work, whatever it does. -/
theorem work_lt_of_step
    (p : Inbound) (b : Bridge) (p' : Inbound) (b' : Bridge)
    (hstep : p.step b = some (p', b')) :
    p'.remaining + b'.pending < p.remaining + b.pending :=
  (change_of_step hstep).work_lt

/-- The loop of the pump makes one step after the other. -/
theorem iterates_runFor :
    Pump.Iterates step runFor := by
  constructor
  · intro p b
    rfl
  · intro fuel p b hstep
    simp only [runFor, hstep]
  · intro fuel p b p' b' hstep
    simp only [runFor, hstep]

/-- The account holds after every run. -/
theorem account_of_run
    (hrun : Pump.run? step (.receiving, b₀) events = some (p, b)) :
    Account b₀ b (b₀.client.inbox ++ Pump.fromClient events) p := by
  refine Pump.run_induction
    (P := fun events p b => Account b₀ b (b₀.client.inbox ++ Pump.fromClient events) p)
    ?_ ?_ ?_ hrun
  · have hsent : b₀.client.inbox ++ Pump.fromClient [] = [] ++ b₀.client.inbox :=
      List.append_nil _
    refine .receiving hsent ?_
    constructor
    · exact fun _ hitem => absurd hitem List.not_mem_nil
    · simp [payloads]
    · simp [payloads]
    · simp [payloads]
  · intro events p b p' b' h hstep
    rw [Pump.fromClient_concat_step]
    exact h.step (change_of_step hstep)
  · intro events p b x h
    rw [Pump.fromClient_concat_stimulus, ← List.append_assoc]
    exact h.stimulate x

/-- Without stimuli, the pump goes on until it ends or waits for something. -/
theorem run_ends_or_waits
    (hrun : Pump.run? step (.receiving, b₀) events = some (p, b)) :
    ∃ steps,
      Pump.run? step (p, b) (List.replicate steps .step) = some (p.run b) ∧
        ((∃ result, (p.run b).1 = .ended result) ∨ Waits (p.run b).2 (p.run b).1) := by
  obtain ⟨steps, hsteps, hnone⟩ :=
    Pump.exists_run?_runFor work_lt_of_step iterates_runFor
      (Nat.le_refl (p.remaining + b.pending))
  refine ⟨steps, hsteps, ?_⟩
  have haccount := account_of_run (Pump.run?_append.mpr ⟨(p, b), hrun, hsteps⟩)
  rcases haccount.ended_or_running with hended | hrunning
  · exact Or.inl hended
  · exact Or.inr (waits_of_step_eq_none hnone hrunning)

/-- The pump to the upstream, in every run on its own:

* it makes only so many steps, and stops only at its end or where it waits for the
  client or for a call that blocks;
* if no call fails, it ends where the client's stream does, with all payloads before
  that written in order, one flush for each that is not empty, and all of them
  counted;
* if a call fails, it ends with an error of the upstream, and the stream is cut
  short at the payload of this call;
* a frame without payload and an empty one is only taken off the queue;
* two runs with the same items come to the same, if no call fails or if the same
  call fails after the same number of bytes. -/
theorem upload_end_to_end
    (hrun : Pump.run? step (.receiving, b₀) events = some (p, b)) :
    (events.countP Pump.Event.isStep ≤
        1 + b₀.pending +
          (clientWork (Pump.fromClient events) + upstreamWork (Pump.fromUpstream events)) ∧
      ∃ steps,
        Pump.run? step (p, b) (List.replicate steps .step) = some (p.run b) ∧
          ((∃ result, (p.run b).1 = .ended result) ∨ Waits (p.run b).2 (p.run b).1)) ∧
    (∀ result b',
      p.step b = some (.ended result, b') →
      (∀ kind, ¬ Fails b kind p) →
      Uploaded b₀ b' (b₀.client.inbox ++ Pump.fromClient events) result) ∧
    (∀ kind,
      Fails b kind p →
      ∃ text b' taken data part,
        p.step b = some (.ended (.error (.upstream text)), b') ∧
          CutShort b₀ b' (b₀.client.inbox ++ Pump.fromClient events) kind taken data part) ∧
    (∀ frame rest,
      p = .receiving →
      b.client.inbox = .frame frame :: rest →
      frame.content = .control ∨ frame.content = .payload [] →
      p.step b = some (.receiving, { b with client.inbox := rest })) ∧
    ∀ others q c,
      Pump.run? step (.receiving, b₀) others = some (q, c) →
      Pump.fromClient others = Pump.fromClient events →
      ∀ result b' result' c',
        p.step b = some (.ended result, b') →
        q.step c = some (.ended result', c') →
        ((∀ kind, ¬ Fails b kind p) →
          (∀ kind, ¬ Fails c kind q) →
          result' = result ∧ SameUpload b' c') ∧
        ∀ kind,
          Fails b kind p →
          Fails c kind q →
          c'.upstream.written.length = b'.upstream.written.length →
          SameUpload b' c' := by
  have haccount := account_of_run hrun
  refine ⟨⟨?_, run_ends_or_waits hrun⟩, ?_, ?_, ?_, ?_⟩
  · have hbound := Pump.countP_isStep_add_le work_lt_of_step hrun
    simp only [remaining] at hbound
    omega
  · intro result b' hstep hfails
    exact haccount.uploaded hstep hfails
  · intro kind hfails
    exact haccount.cutShort hfails
  · rintro frame rest rfl hinbox hcontent
    have hnext : b.client.next = (.done (.item (.frame frame)), { b.client with inbox := rest }) := by
      simp [ClientEnd.next, hinbox]
    rcases hcontent with hcontent | hcontent
    · simp [step, hnext, afterEvent, hcontent]
    · simp [step, hnext, afterEvent, hcontent]
  · intro others q c hrun' hsent result b' result' c' hstep hstep'
    have haccount' := account_of_run hrun'
    rw [hsent] at haccount'
    constructor
    · intro hfails hfails'
      exact (haccount.uploaded hstep hfails).same (haccount'.uploaded hstep' hfails')
    · intro kind hfails hfails' hlength
      obtain ⟨_, _, _, _, _, hcut, h⟩ := haccount.cutShort hfails
      obtain ⟨_, _, _, _, _, hcut', h'⟩ := haccount'.cutShort hfails'
      rw [hcut] at hstep
      rw [hcut'] at hstep'
      cases hstep
      cases hstep'
      exact h.same h' hlength

/-- Writes take two bytes at most, until one takes nothing in the middle of the third
payload that is not empty. -/
def stalled : List Pump.Event :=
  [.stimulus (.clientItems
      [.frame (.binary [1, 2, 3]), .frame (.ping []), .frame (.text "é"),
        .frame (.binary []), .frame (.binary [7, 8, 9]), .frame (.close none)]),
   .stimulus (.limit .perWrite (some 2)),
   .step, .step, .step, .step, .step, .step, .step, .step, .step, .step, .step,
   .stimulus (.mode .upstreamWrite .zero)]

theorem upload_end_to_end_stalled :
    ∃ b text b' taken data part,
      Pump.run? step (.receiving, { bufferSize := 1 }) stalled = some (.writing [9] 3, b) ∧
        step (.writing [9] 3) b = some (.ended (.error (.upstream text)), b') ∧
        CutShort { bufferSize := 1 } b' (Pump.fromClient stalled) .upstreamWrite taken data part ∧
        b'.upstream.written = [1, 2, 3, 0xc3, 0xa9, 7, 8] ∧
        b'.upstream.flushes = 2 ∧
        b'.stats.bytesUp = 5 ∧
        b'.client.inbox = [.frame (.close none)] := by
  obtain ⟨b, hrun⟩ :
      ∃ b, Pump.run? step (.receiving, { bufferSize := 1 }) stalled =
        some (.writing [9] 3, b) := ⟨_, rfl⟩
  have hfails : Fails b .upstreamWrite (.writing [9] 3) := by
    cases hrun
    exact .writeZero rfl
  obtain ⟨-, -, hcuts, -⟩ := upload_end_to_end hrun
  obtain ⟨text, b', taken, data, part, hstep, hcut⟩ := hcuts .upstreamWrite hfails
  refine ⟨b, text, b', taken, data, part, hrun, hstep, hcut, ?_⟩
  cases hrun
  cases hstep
  exact ⟨rfl, rfl, rfl, rfl⟩

end Runs

end Inbound
end FrameBridge
