import FrameBridge.Proofs.Session.Run

/-!
# A session settles

Without a stimulus, a session that was started makes only so many moves: each
move leaves less work than there was.  Making moves as long as one is possible
therefore ends, and it ends where no move is possible.

The work is that of the items in the queues, of the pumps, and of the steps of
closing that are left.
-/

namespace FrameBridge

section Work

/-- What the pump to the upstream does with an item is less work than the
item. -/
theorem remaining_afterEvent_lt
    (item : ClientItem) (rest : List ClientItem) :
    (Inbound.afterEvent (.item item)).remaining + clientWork rest <
      1 + clientWork (item :: rest) := by
  simp only [clientWork]
  cases item with
  | failure text =>
      simp only [ClientItem.work, Inbound.afterEvent, Inbound.remaining]
      omega
  | frame frame =>
      simp only [ClientItem.work, Inbound.afterEvent]
      cases frame.content with
      | payload data =>
          by_cases hdata : data = []
          · simp only [if_pos hdata, Inbound.remaining]
            omega
          · simp only [if_neg hdata, Inbound.remaining]
            omega
      | control =>
          simp only [Inbound.remaining]
          omega
      | close =>
          simp only [Inbound.remaining]
          omega

/-- A write leaves less of a payload. -/
theorem remaining_afterWrite_lt
    (rest : List UInt8) (size n : Nat) :
    (Inbound.afterWrite rest size n).remaining <
      (Inbound.writing rest size).remaining := by
  unfold Inbound.afterWrite
  by_cases hzero : n = 0
  · simp only [if_pos hzero, Inbound.remaining]
    omega
  · by_cases hdrop : rest.drop n = []
    · simp only [if_neg hzero, if_pos hdrop, Inbound.remaining]
      omega
    · have hlength : n < rest.length := by
        simpa using hdrop
      simp only [if_neg hzero, if_neg hdrop, Inbound.remaining, List.length_drop]
      omega

/-- Each step of the pump to the upstream leaves less work. -/
theorem Inbound.Change.work_lt
    {p p' : Inbound} {b b' : Bridge}
    (hchange : Inbound.Change b p p' b') :
    p'.remaining + b'.pending < p.remaining + b.pending := by
  simp only [Bridge.pending]
  cases hchange with
  | @event event hnext =>
      cases event with
      | ended =>
          obtain ⟨hinbox, -⟩ := ClientEnd.next_eq_ended_iff.mp hnext
          simp [hinbox, afterEvent, remaining]
      | item item =>
          have hinbox := ClientEnd.next_eq_item_iff.mp hnext
          have hless := remaining_afterEvent_lt item b.client.inbox.tail
          rw [← hinbox] at hless
          simp only [ClientEnd.next_snd, remaining] at hless ⊢
          omega
  | @write rest size n hwrite =>
      have hless := remaining_afterWrite_lt rest size n
      simp only [UpstreamEnd.write_inbox]
      omega
  | writeFailed hwrite =>
      simp only [UpstreamEnd.write_inbox, remaining]
      omega
  | flush hflush =>
      simp [remaining]
  | flushFailed hflush =>
      simp [remaining]

/-- A read takes its bytes off the queue. -/
theorem upstreamWork_read
    {u : UpstreamEnd} {limit : Nat} {bytes : List UInt8}
    (hread : (u.read limit).1 = .done bytes) :
    upstreamWork (u.read limit).2.inbox + 3 * bytes.length ≤
      upstreamWork u.inbox := by
  unfold UpstreamEnd.read at hread ⊢
  split at hread
  · rename_i hinbox
    split at hread
    · cases hread
      simp_all
    · cases hread
  · cases hread
  · rename_i chunk rest hinbox
    cases hread
    simp only [hinbox]
    by_cases hleft : chunk.drop limit = []
    · simp only [if_pos hleft, upstreamWork, UpstreamItem.work, List.length_take]
      omega
    · simp only [if_neg hleft, upstreamWork, UpstreamItem.work, List.length_take,
        List.length_drop]
      omega

/-- Reading changes no item but the first, which it takes or shortens. -/
theorem upstreamWork_read_le
    (u : UpstreamEnd) (limit : Nat) :
    upstreamWork (u.read limit).2.inbox ≤ upstreamWork u.inbox := by
  cases hread : (u.read limit).1 with
  | done bytes =>
      have := upstreamWork_read hread
      omega
  | _ =>
      unfold UpstreamEnd.read at hread ⊢
      split at hread
      · split at hread <;> simp_all
      · simp_all [upstreamWork]
      · simp_all

/-- Each step of the pump to the client leaves less work. -/
theorem Outbound.Change.work_lt
    {q q' : Outbound} {b b' : Bridge}
    (hchange : Outbound.Change b q q' b') :
    q'.remaining + b'.pending < q.remaining + b.pending := by
  simp only [Bridge.pending]
  cases hchange with
  | readEnd hread =>
      have hless := upstreamWork_read_le b.upstream b.readLimit
      simp only [remaining]
      omega
  | read hread hne =>
      have hless := upstreamWork_read hread
      have hpos := List.length_pos_iff.mpr hne
      simp only [remaining]
      omega
  | readFailed hread =>
      have hless := upstreamWork_read_le b.upstream b.readLimit
      simp only [remaining]
      omega
  | hand hhand =>
      simp [remaining]
  | handFailed hhand =>
      simp [remaining]
  | flush hflush =>
      simp [remaining]
  | flushFailed hflush =>
      simp [remaining]

end Work

namespace Session

/-- No move is possible. -/
def Quiet (s : Session) : Prop :=
  ∀ m, s.step m = none

/-- The work that is left to a session without a stimulus. -/
def work (s : Session) : Nat :=
  s.bridge.pending +
    match s.phase with
    | .waiting => 0
    | .relaying inbound outbound => inbound.remaining + outbound.remaining + 10
    | .closingClient .clearing _ => 7
    | .closingClient .handing _ => 6
    | .closingClient .flushing _ => 5
    | .closingClient .closing _ => if s.bridge.slot = none then 3 else 4
    | .closingUpstream _ => 1
    | .closed => 0

section Moves

variable {s s' : Session} {m : Move} {moves : List Move}

/-- No move leads back to before the start. -/
theorem Change.ne_waiting
    (hchange : Change s m s') :
    s'.phase ≠ .waiting := by
  cases hchange <;> simp_all

theorem remaining_inbound_pos
    {p : Inbound}
    (hrunning : p.isRunning = true) :
    1 ≤ p.remaining := by
  cases p with
  | ended result => cases hrunning
  | interrupted => cases hrunning
  | _ => simp only [Inbound.remaining]; omega

theorem remaining_outbound_pos
    {q : Outbound}
    (hrunning : q.isRunning = true) :
    1 ≤ q.remaining := by
  cases q with
  | ended result => cases hrunning
  | interrupted => cases hrunning
  | _ => simp only [Outbound.remaining]; omega

/-- Every move but the start leaves less work. -/
theorem Change.work_lt
    (hchange : Change s m s')
    (hstarted : s.phase ≠ .waiting) :
    s'.work < s.work := by
  unfold work
  cases hchange with
  | start hphase =>
      exact absurd hphase hstarted
  | pumpInbound hphase hpump =>
      have hless := hpump.work_lt
      simp only [hphase, fire_bridge, fire_phase]
      omega
  | pumpOutbound hphase hpump =>
      have hless := hpump.work_lt
      simp only [hphase, fire_bridge, fire_phase]
      omega
  | interruptInbound hphase hfired hrunning =>
      have hpos := remaining_inbound_pos hrunning
      have hzero : Inbound.remaining .interrupted = 0 := rfl
      simp only [hphase, hzero]
      omega
  | interruptOutbound hphase hfired hrunning =>
      have hpos := remaining_outbound_pos hrunning
      have hzero : Outbound.remaining .interrupted = 0 := rfl
      simp only [hphase, hzero]
      omega
  | beginClosing hphase hin hout =>
      simp only [hphase]
      exact Nat.add_lt_add_left (by omega) s.bridge.pending
  | clear hphase hhand =>
      simp [hphase, Bridge.pending]
  | clearFailed hphase hhand =>
      simp only [hphase, Bridge.pending, Bridge.handOver_inbox,
        Bridge.handOver_upstream]
      split <;> omega
  | hand hphase hhand =>
      simp [hphase, Bridge.pending]
  | handFailed hphase hhand =>
      simp only [hphase, Bridge.pending, Bridge.handOver_inbox,
        Bridge.handOver_upstream]
      split <;> omega
  | flush hphase hflush =>
      simp only [hphase, Bridge.pending, ClientEnd.flush_inbox]
      split <;> omega
  | empty hphase hslot hhand =>
      have hempty := (Bridge.handOver_of_done hhand).1
      simp [hphase, hslot, hempty, Bridge.pending]
  | emptyFailed hphase hslot hhand =>
      simp [hphase, hslot, Bridge.pending]
  | close hphase hslot hclose =>
      simp [hphase, hslot, Bridge.pending]
  | shutdown hphase hshutdown =>
      simp [hphase, Bridge.pending]
  | @expireClient step since hphase hblocked hclock =>
      simp only [hphase, leaveClient_phase, leaveClient_bridge]
      cases step with
      | closing =>
          simp only
          split <;> omega
      | _ =>
          simp only
          omega
  | expireUpstream hphase hblocked hclock =>
      simp [hphase, Bridge.pending]

/-- The bound on the moves leaves room for all work that is left. -/
theorem work_le_remaining
    (s : Session) :
    s.work ≤ s.remaining := by
  unfold work remaining
  refine Nat.add_le_add_left ?_ _
  cases s.phase with
  | closingClient step since =>
      cases step with
      | closing =>
          simp only
          split <;> omega
      | _ =>
          simp only
          omega
  | _ =>
      exact Nat.le_refl _

/-- A session that was started makes no more moves than it has work. -/
theorem length_add_work_le
    (hstarted : s.phase ≠ .waiting)
    (hrun : s.run? (moves.map .move) = some s') :
    moves.length + s'.work ≤ s.work := by
  induction moves generalizing s with
  | nil =>
      cases hrun
      simp
  | cons m moves ih =>
      obtain ⟨t, hact, hrest⟩ := run?_cons.mp hrun
      have hchange : Change s m t := change_of_step hact
      have hless := hchange.work_lt hstarted
      have hmore := ih hchange.ne_waiting hrest
      rw [List.length_cons]
      omega

/-- Whatever is tried first, if nothing that is tried is possible, no move is. -/
theorem quiet_of_next?
    (hstarted : s.phase ≠ .waiting)
    (hnext : s.next? = none) :
    s.Quiet := by
  unfold next? at hnext
  rw [List.findSome?_eq_none_iff] at hnext
  intro m
  cases m with
  | start =>
      cases hstep : s.step .start with
      | none => rfl
      | some t =>
          cases change_of_step hstep with
          | start hphase => exact absurd hphase hstarted
  | pump direction =>
      cases direction <;> exact hnext _ (by simp [Session.moves])
  | interrupt direction =>
      cases direction <;> exact hnext _ (by simp [Session.moves])
  | _ =>
      exact hnext _ (by simp [Session.moves])

/-- With enough fuel, settling makes moves up to a point where none is
possible. -/
theorem quiet_settleFor
    {fuel : Nat}
    (hstarted : s.phase ≠ .waiting)
    (hfuel : s.work ≤ fuel) :
    (∃ moves : List Move,
      s.run? (moves.map .move) = some (settleFor fuel s)) ∧
    (settleFor fuel s).Quiet := by
  induction fuel generalizing s with
  | zero =>
      refine ⟨⟨[], rfl⟩, fun m => ?_⟩
      cases hstep : s.step m with
      | none => exact hstep
      | some t =>
          have hless := (change_of_step hstep).work_lt hstarted
          omega
  | succ fuel ih =>
      unfold settleFor
      cases hnext : s.next? with
      | none =>
          exact ⟨⟨[], rfl⟩, quiet_of_next? hstarted hnext⟩
      | some t =>
          obtain ⟨m, -, hstep⟩ := List.exists_of_findSome?_eq_some hnext
          have hchange := change_of_step hstep
          have hless := hchange.work_lt hstarted
          obtain ⟨⟨moves, hrun⟩, hquiet⟩ := ih hchange.ne_waiting (by omega)
          exact ⟨⟨m :: moves, run?_cons.mpr ⟨t, hstep, hrun⟩⟩, hquiet⟩

/-- A session that was started settles by its own moves, and then no move is
possible. -/
theorem quiet_settle
    (hstarted : s.phase ≠ .waiting) :
    (∃ moves : List Move, s.run? (moves.map .move) = some s.settle) ∧
    s.settle.Quiet :=
  quiet_settleFor hstarted s.work_le_remaining

end Moves

end Session
end FrameBridge
