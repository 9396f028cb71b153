import FrameBridge.Proofs.Session.Cause
import FrameBridge.Proofs.Session.Settling

/-!
# A session does not hang

At a point where no move is possible, a session is open only if both of its
pumps still run, and if it closes, the phase of closing that it is in began less
than five seconds ago.  Time alone therefore takes a session from one phase of
closing to the next, and to the end.
-/

namespace FrameBridge

/-- When a phase of closing began. -/
def Phase.since? : Phase → Option Nat
  | closingClient _ since => some since
  | closingUpstream since => some since
  | _ => none

namespace Session

/-- An event begins to close the client, at some time. -/
def EntersClient (since : Nat) (s : Session) (event : Event) : Prop :=
  event = .move .beginClosing ∧ s.clock = since

/-- An event ends the closing of the client and begins to shut the upstream
down, at some time. -/
def EntersUpstream (since : Nat) (s : Session) (event : Event) : Prop :=
  s.clock = since ∧
  (∃ step start, s.phase = .closingClient step start) ∧
  ∃ next, s.act event = some next ∧ next.phase = .closingUpstream since

/-- A phase of closing was begun by an event of the run, at the time that the
phase shows. -/
def Entered (s₀ : Session) (events : List Event) : Phase → Prop
  | .closingClient _ since =>
      s₀.Occurs events fun _ t event => EntersClient since t event
  | .closingUpstream since =>
      s₀.Occurs events fun _ t event => EntersUpstream since t event
  | _ => True

section Quiet

variable {s : Session}

/-- If no move is possible, an open session has two running pumps and no
reason to close. -/
theorem Quiet.reason_none
    {p : Inbound} {q : Outbound}
    (hquiet : s.Quiet)
    (hlatched : s.Latched)
    (hphase : s.phase = .relaying p q) :
    s.latch.reason = none := by
  cases hreason : s.latch.reason with
  | none =>
      rfl
  | some reason =>
      have hfired : s.latch.fired = true := by
        rw [hlatched.fired, hreason]
        rfl
      have hin := hquiet (.interrupt .inbound)
      have hout := hquiet (.interrupt .outbound)
      have hbegin := hquiet .beginClosing
      simp only [step, interrupt, beginClosing, hphase, hfired, Bool.true_and]
        at hin hout hbegin
      cases hp : p.isRunning with
      | true =>
          simp [hp] at hin
      | false =>
          cases hq : q.isRunning with
          | true => simp [hq] at hout
          | false => simp [hp, hq] at hbegin

/-- If no move is possible, the phase of closing has not taken too long. -/
theorem Quiet.clock_lt
    {since : Nat}
    (hquiet : s.Quiet)
    (hsince : s.phase.since? = some since) :
    s.clock < since + closingLimit := by
  by_cases hclock : since + closingLimit ≤ s.clock
  · have hexpire := hquiet .expire
    cases hphase : s.phase with
    | closingClient step start =>
        rw [hphase] at hsince
        cases hsince
        have hblocked : s.closeClient = none := hquiet .closeClient
        simp [Session.step, expire, hphase, hblocked, hclock] at hexpire
    | closingUpstream start =>
        rw [hphase] at hsince
        cases hsince
        have hblocked : s.closeUpstream = none := hquiet .closeUpstream
        simp [Session.step, expire, hphase, hblocked, hclock] at hexpire
    | _ =>
        rw [hphase] at hsince
        cases hsince
  · omega

end Quiet

section Times

variable {s₀ s s' : Session} {events : List Event} {event : Event}

/-- Time does not go back. -/
theorem Next.clock_le
    (hnext : Next s event s') :
    s.clock ≤ s'.clock := by
  cases hnext with
  | move hchange =>
      cases hchange <;> simp [enter]
  | stimulus x =>
      exact Nat.le_refl _
  | advance ms =>
      exact Nat.le_add_right _ _

/-- No phase of closing began later than now. -/
theorem Next.since_le
    (hnext : Next s event s')
    (h : ∀ since, s.phase.since? = some since → since ≤ s.clock) :
    ∀ since, s'.phase.since? = some since → since ≤ s'.clock := by
  intro since hsince
  cases hnext with
  | move hchange =>
      cases hchange with
      | empty hphase hslot hhand =>
          exact h since hsince
      | _ =>
          simp_all [Phase.since?, enter]
  | stimulus x =>
      exact h since hsince
  | advance ms =>
      exact Nat.le_trans (h since hsince) (Nat.le_add_right _ _)

theorem Entered.concat
    {phase : Phase}
    (h : Entered s₀ events phase) :
    Entered s₀ (events ++ [event]) phase := by
  cases phase with
  | closingClient step since => exact h.append
  | closingUpstream since => exact h.append
  | _ => trivial

/-- Every event keeps track of when the phase began. -/
theorem Entered.next
    (hrun : s₀.run? events = some s)
    (h : Entered s₀ events s.phase)
    (hact : s.act event = some s') :
    Entered s₀ (events ++ [event]) s'.phase := by
  cases next_of_act hact with
  | move hchange =>
      cases hchange with
      | pumpInbound hphase hpump =>
          rw [fire_phase]
          trivial
      | pumpOutbound hphase hpump =>
          rw [fire_phase]
          trivial
      | beginClosing hphase hin hout =>
          exact (occurs_concat_iff hrun).mpr (Or.inr ⟨rfl, rfl⟩)
      | clear hphase hhand =>
          rw [hphase] at h
          exact h.append
      | clearFailed hphase hhand =>
          rw [hphase] at h
          exact h.append
      | hand hphase hhand =>
          rw [hphase] at h
          exact h.append
      | handFailed hphase hhand =>
          rw [hphase] at h
          exact h.append
      | flush hphase hflush =>
          rw [hphase] at h
          exact h.append
      | empty hphase hslot hhand =>
          exact h.concat
      | emptyFailed hphase hslot hhand =>
          exact (occurs_concat_iff hrun).mpr
            (Or.inr ⟨rfl, ⟨_, _, hphase⟩, _, hact, rfl⟩)
      | close hphase hslot hclose =>
          exact (occurs_concat_iff hrun).mpr
            (Or.inr ⟨rfl, ⟨_, _, hphase⟩, _, hact, rfl⟩)
      | expireClient hphase hblocked hclock =>
          exact (occurs_concat_iff hrun).mpr
            (Or.inr ⟨rfl, ⟨_, _, hphase⟩, _, hact, rfl⟩)
      | _ =>
          trivial
  | stimulus x =>
      exact h.concat
  | advance ms =>
      exact h.concat

end Times

section Deadlines

variable {s s' : Session} {event : Event}

/-- Either the client has been closing since before some time, or the session
has left that phase. -/
def ClientBy (time : Nat) (s : Session) : Prop :=
  match s.phase with
  | .closingClient _ since => since ≤ time
  | .closingUpstream since => since ≤ s.clock
  | .closed => True
  | _ => False

/-- Either the upstream has been shutting down since before some time, or the
session is done. -/
def UpstreamBy (time : Nat) (s : Session) : Prop :=
  match s.phase with
  | .closingUpstream since => since ≤ time
  | .closed => True
  | _ => False

/-- A session that closes now has been in its phase since before now. -/
theorem clientBy_of_state
    (hstate : s.phase.state = .closing ∨ s.phase.state = .closed)
    (hsince : ∀ since, s.phase.since? = some since → since ≤ s.clock) :
    s.ClientBy s.clock := by
  unfold ClientBy
  rcases hstate with hclosing | hclosed
  · rcases Phase.closing_of_state hclosing with ⟨step, since, hphase⟩ | ⟨since, hphase⟩
    · rw [hphase] at hsince ⊢
      exact hsince since rfl
    · rw [hphase] at hsince ⊢
      exact hsince since rfl
  · rw [Phase.closed_of_state hclosed]
    trivial

/-- A client that has been closing since some time never begins anew. -/
theorem ClientBy.next
    {time : Nat}
    (h : s.ClientBy time)
    (hnext : Next s event s') :
    s'.ClientBy time := by
  have hclock := hnext.clock_le
  unfold ClientBy at h ⊢
  cases hnext with
  | move hchange =>
      cases hchange with
      | empty hphase hslot hhand =>
          exact h
      | _ =>
          simp_all
  | stimulus x =>
      exact h
  | advance ms =>
      simp only [advance_phase]
      split at h <;> simp_all
      omega

/-- An upstream that has been shutting down since some time never begins anew. -/
theorem UpstreamBy.next
    {time : Nat}
    (h : s.UpstreamBy time)
    (hnext : Next s event s') :
    s'.UpstreamBy time := by
  unfold UpstreamBy at h ⊢
  cases hnext with
  | move hchange =>
      cases hchange with
      | empty hphase hslot hhand =>
          exact h
      | _ =>
          simp_all
  | stimulus x =>
      exact h
  | advance ms =>
      exact h

/-- A session that closes at some time has closed the client, if no move is
possible five seconds later. -/
theorem upstreamBy_of_quiet
    {time : Nat}
    (h : s.ClientBy time)
    (hquiet : s.Quiet)
    (hclock : time + closingLimit ≤ s.clock) :
    s.UpstreamBy s.clock := by
  unfold ClientBy at h
  unfold UpstreamBy
  cases hphase : s.phase with
  | closingClient step since =>
      have hsince : s.phase.since? = some since := by
        rw [hphase]
        rfl
      have hlt := hquiet.clock_lt hsince
      rw [hphase] at h
      simp only at h
      omega
  | closingUpstream since =>
      rw [hphase] at h
      exact h
  | closed =>
      trivial
  | _ =>
      rw [hphase] at h
      exact h

/-- A session that shuts the upstream down at some time is done, if no move is
possible five seconds later. -/
theorem closed_of_quiet
    {time : Nat}
    (h : s.UpstreamBy time)
    (hquiet : s.Quiet)
    (hclock : time + closingLimit ≤ s.clock) :
    s.phase = .closed := by
  unfold UpstreamBy at h
  cases hphase : s.phase with
  | closingUpstream since =>
      have hsince : s.phase.since? = some since := by
        rw [hphase]
        rfl
      have hlt := hquiet.clock_lt hsince
      rw [hphase] at h
      simp only at h
      omega
  | closed =>
      rfl
  | _ =>
      rw [hphase] at h
      cases h

end Deadlines

section Runs

variable {bufferSize : Nat} {latencyMicros : UInt64} {metrics : Metrics}
  {events : List Event} {s : Session}

/-- A phase of closing was entered by an event of the run. -/
theorem entered_of_run
    {s₀ : Session}
    (hwaiting : s₀.phase = .waiting)
    (hrun : s₀.run? events = some s) :
    Entered s₀ events s.phase := by
  refine run_induction (P := fun events s => Entered s₀ events s.phase)
    ?_ ?_ hrun
  · rw [hwaiting]
    trivial
  · intro events t event t' ht h hact
    exact h.next ht hact

theorem since_le_of_run
    (hrun : (fresh bufferSize latencyMicros metrics).run? events = some s) :
    ∀ since, s.phase.since? = some since → since ≤ s.clock :=
  run_invariant (P := fun s => ∀ since, s.phase.since? = some since → since ≤ s.clock)
    (fun _ _ _ h hnext => hnext.since_le h) hrun nofun

/-- Once a pump has ended, the latch has a reason. -/
theorem reason_of_occurs_ends
    (hrun : (fresh bufferSize latencyMicros metrics).run? events = some s)
    (hended :
      (fresh bufferSize latencyMicros metrics).Occurs events fun _ t event =>
        ∃ direction result, Ends direction result t event) :
    ∃ reason, s.latch.reason = some reason := by
  obtain ⟨before, event, after, t, rfl, hbefore, direction, result, hends⟩ := hended
  obtain ⟨u, hact, hrest⟩ := run?_cons.mp (run?_after hrun hbefore)
  obtain ⟨reason, hreason⟩ := exists_reason_of_ends hends hact
  exact ⟨reason, reason_of_run hrest hreason⟩

/--
In every run:

* at a point where no move is possible, the session is not open if a pump has
  ended, whatever call the other pump was about to make;
* at a point where no move is possible, the phase of closing that the session is
  in began less than five seconds ago;
* so a session that closes is done once five seconds and another five seconds
  have passed, each until a point where no move is possible;
* such points are always reached: a session that was started makes only so many
  moves without a stimulus, and settling makes them.
-/
theorem session_never_hangs
    (hrun : (fresh bufferSize latencyMicros metrics).run? events = some s) :
    (s.Quiet →
      ((fresh bufferSize latencyMicros metrics).Occurs events fun _ t event =>
        ∃ direction result, Ends direction result t event) →
      s.bridge.stats.state ≠ .opened) ∧
    (s.Quiet →
      s.bridge.stats.state = .closing →
      ∃ since, s.clock < since + closingLimit ∧
        (((∃ step, s.phase = .closingClient step since) ∧
            (fresh bufferSize latencyMicros metrics).Occurs events
              fun _ t event => EntersClient since t event) ∨
          (s.phase = .closingUpstream since ∧
            (fresh bufferSize latencyMicros metrics).Occurs events
              fun _ t event => EntersUpstream since t event))) ∧
    (∀ first second t u,
      s.bridge.stats.state = .closing ∨ s.bridge.stats.state = .closed →
      s.run? first = some t → t.Quiet → s.clock + closingLimit ≤ t.clock →
      t.run? second = some u → u.Quiet → t.clock + closingLimit ≤ u.clock →
      u.bridge.stats.state = .closed) ∧
    (s.phase ≠ .waiting →
      (∀ (moves : List Move) t,
        s.run? (moves.map .move) = some t → moves.length ≤ s.remaining) ∧
      (∃ moves : List Move, s.run? (moves.map .move) = some s.settle) ∧
      s.settle.Quiet) := by
  have hstate := state_of_run hrun
  refine ⟨?_, ?_, ?_, ?_⟩
  · intro hquiet hended hopened
    obtain ⟨reason, hreason⟩ := reason_of_occurs_ends hrun hended
    rw [hstate] at hopened
    obtain ⟨p, q, hphase⟩ := Phase.relaying_of_state hopened
    have hnone := hquiet.reason_none (latched_of_run hrun) hphase
    rw [hreason] at hnone
    cases hnone
  · intro hquiet hclosing
    have hentered := entered_of_run rfl hrun
    rw [hstate] at hclosing
    rcases Phase.closing_of_state hclosing with ⟨step, since, hphase⟩ | ⟨since, hphase⟩
    · rw [hphase] at hentered
      have hlt := hquiet.clock_lt (by rw [hphase]; rfl)
      exact ⟨since, hlt, Or.inl ⟨⟨step, hphase⟩, hentered⟩⟩
    · rw [hphase] at hentered
      have hlt := hquiet.clock_lt (by rw [hphase]; rfl)
      exact ⟨since, hlt, Or.inr ⟨hphase, hentered⟩⟩
  · intro first second t u hclosing hfirst hquiet hclock hsecond hquiet' hclock'
    rw [hstate] at hclosing
    have hclient := clientBy_of_state hclosing (since_le_of_run hrun)
    have hclient' : t.ClientBy s.clock :=
      run_invariant (fun _ _ _ h hnext => ClientBy.next h hnext) hfirst hclient
    have hupstream : t.UpstreamBy t.clock :=
      upstreamBy_of_quiet hclient' hquiet hclock
    have hupstream' : u.UpstreamBy t.clock :=
      run_invariant (fun _ _ _ h hnext => UpstreamBy.next h hnext) hsecond hupstream
    have hclosed := closed_of_quiet hupstream' hquiet' hclock'
    have hrun' : (fresh bufferSize latencyMicros metrics).run?
        (events ++ (first ++ second)) = some u :=
      run?_append.mpr ⟨s, hrun, run?_append.mpr ⟨t, hfirst, hsecond⟩⟩
    rw [state_of_run hrun', hclosed]
    rfl
  · intro hstarted
    refine ⟨?_, quiet_settle hstarted⟩
    intro moves t hmoves
    have hlength := length_add_work_le hstarted hmoves
    have hwork := s.work_le_remaining
    omega

/-- The upstream ends while the client is silent, and the client then takes no
frame: closing it still waits at the end of the five seconds. -/
def unready : List Event :=
  [.move .start,
   .stimulus (.mode .clientReady .blocked),
   .stimulus .upstreamEnd,
   .move (.pump .outbound),
   .move (.interrupt .inbound),
   .move .beginClosing,
   .move .closeClient,
   .advance 4999]

theorem session_never_hangs_unready :
    ∃ s, (fresh 4096 0 {}).run? unready = some s ∧
      s.Quiet ∧
      s.bridge.stats.state = .closing ∧
      s.clock = 4999 ∧
      ∃ since, s.clock < since + closingLimit ∧
        (((∃ step, s.phase = .closingClient step since) ∧
            (fresh 4096 0 {}).Occurs unready
              fun _ t event => EntersClient since t event) ∨
          (s.phase = .closingUpstream since ∧
            (fresh 4096 0 {}).Occurs unready
              fun _ t event => EntersUpstream since t event)) := by
  obtain ⟨s, hrun⟩ : ∃ s, (fresh 4096 0 {}).run? unready = some s := ⟨_, rfl⟩
  have hquiet : s.Quiet := by
    cases hrun
    intro m
    cases m with
    | pump direction => cases direction <;> rfl
    | interrupt direction => cases direction <;> rfl
    | _ => rfl
  have hclosing : s.bridge.stats.state = .closing := by
    cases hrun
    rfl
  have hclock : s.clock = 4999 := by
    cases hrun
    rfl
  exact
    ⟨s, hrun, hquiet, hclosing, hclock,
      (session_never_hangs hrun).2.1 hquiet hclosing⟩

end Runs

end Session
end FrameBridge
