import FrameBridge.Proofs.Session.Integrity
import FrameBridge.Proofs.Session.Progress

/-!
# Closing happens once and in order

The client takes at most one close frame, and nothing after it.  Each end is
closed at most once, the client before the upstream.  A session that is done has
closed each end exactly once, unless it gave up on the call: because the call
blocked when its five seconds were over, or, for the client, because a frame
that was left in the slot could not be handed over.
-/

namespace FrameBridge

/-- The closing of the client is over. -/
def Phase.ClientOver : Phase → Prop
  | closingUpstream _ => True
  | closed => True
  | _ => False

/-- A call is counted exactly once when it is over, but for a failure to make
it. -/
structure CountedOnce (ended failed : Prop) (count : Nat) : Prop where
  ended_of_failed : failed → ended
  zero : ¬ ended ∨ failed → count = 0
  one : ended → ¬ failed → count = 1

namespace CountedOnce

variable {ended ended' failed fails : Prop} {count count' : Nat}

/-- An event that does not concern the call keeps the count. -/
theorem keep
    (h : CountedOnce ended failed count)
    (hended : ended' ↔ ended)
    (hcount : count' = count)
    (hfails : ¬ fails) :
    CountedOnce ended' (failed ∨ fails) count' := by
  have hfailed : failed ∨ fails ↔ failed := or_iff_left hfails
  rw [hended, hcount, hfailed]
  exact h

/-- An event that ends the call and counts it. -/
theorem done
    (h : CountedOnce ended failed count)
    (hended : ¬ ended)
    (hended' : ended')
    (hcount : count' = count + 1)
    (hfails : ¬ fails) :
    CountedOnce ended' (failed ∨ fails) count' := by
  have hfailed : ¬ (failed ∨ fails) := by
    rintro (hfailed | hfails')
    · exact hended (h.ended_of_failed hfailed)
    · exact hfails hfails'
  have hzero := h.zero (Or.inl hended)
  refine ⟨fun _ => hended', ?_, ?_⟩
  · rintro (hnot | hyes)
    · exact absurd hended' hnot
    · exact absurd hyes hfailed
  · intro _ _
    omega

/-- An event that fails to make the call. -/
theorem fail
    (h : CountedOnce ended failed count)
    (hended : ¬ ended)
    (hended' : ended')
    (hcount : count' = count)
    (hfails : fails) :
    CountedOnce ended' (failed ∨ fails) count' := by
  refine ⟨fun _ => hended', ?_, ?_⟩
  · intro _
    rw [hcount]
    exact h.zero (Or.inl hended)
  · intro _ hnot
    exact absurd (Or.inr hfails) hnot

theorem le_one
    (h : CountedOnce ended failed count) :
    count ≤ 1 := by
  by_cases hfailed : failed
  · rw [h.zero (Or.inr hfailed)]
    omega
  · by_cases hended : ended
    · exact Nat.le_of_eq (h.one hended hfailed)
    · rw [h.zero (Or.inl hended)]
      omega

/-- Once the call is over, it is not counted exactly if it failed. -/
theorem eq_zero_iff
    (h : CountedOnce ended failed count)
    (hended : ended) :
    count = 0 ↔ failed := by
  constructor
  · intro hzero
    by_cases hfailed : failed
    · exact hfailed
    · have hone := h.one hended hfailed
      omega
  · intro hfailed
    exact h.zero (Or.inr hfailed)

end CountedOnce

namespace Session

/-- Closing the client is given up: its next call blocks, and the phase has
taken five seconds. -/
def GivesUpClient (s : Session) (event : Event) : Prop :=
  event = .move .expire ∧
  ∃ step since,
    s.phase = .closingClient step since ∧
    s.closeClient = none ∧
    since + closingLimit ≤ s.clock

/-- Closing the client's end finds a frame in the slot and fails to hand it
over. -/
def FailsToEmpty (s : Session) (event : Event) : Prop :=
  event = .move .closeClient ∧
  (∃ since, s.phase = .closingClient .closing since) ∧
  (∃ frame, s.bridge.slot = some frame) ∧
  ∃ text, s.bridge.handOver.1 = .failed text

/-- Shutting the upstream down is given up: it blocks, and the phase that began
at some time has taken five seconds. -/
def GivesUpUpstream (since : Nat) (s : Session) (event : Event) : Prop :=
  event = .move .expire ∧
  s.phase = .closingUpstream since ∧
  s.bridge.upstream.shutdown.1 = .blocked ∧
  since + closingLimit ≤ s.clock

/-- Time passes only when no move is possible. -/
def Prompt (s₀ : Session) (events : List Event) : Prop :=
  ∀ before ms after t,
    events = before ++ .advance ms :: after →
    s₀.run? before = some t →
    t.Quiet

section Counts

variable {s₀ s s' : Session} {events : List Event} {event : Event}

theorem shutdown_blocked
    {since : Nat}
    (hphase : s.phase = .closingUpstream since)
    (hblocked : s.closeUpstream = none) :
    s.bridge.upstream.shutdown.1 = .blocked := by
  unfold closeUpstream at hblocked
  rw [hphase] at hblocked
  simp only at hblocked
  split at hblocked
  · rename_i hshutdown
    exact congrArg Prod.fst hshutdown
  · cases hblocked

/-- Every event keeps the account of how often the client's end was closed. -/
theorem closes_next
    (hrun : s₀.run? events = some s)
    (h :
      CountedOnce s.phase.ClientOver
        (s₀.Occurs events fun _ t e => GivesUpClient t e ∨ FailsToEmpty t e)
        s.bridge.client.closes)
    (hnext : Next s event s') :
    CountedOnce s'.phase.ClientOver
      (s₀.Occurs (events ++ [event])
        fun _ t e => GivesUpClient t e ∨ FailsToEmpty t e)
      s'.bridge.client.closes := by
  rw [occurs_concat_iff hrun]
  cases hnext with
  | move hchange =>
      cases hchange with
      | pumpInbound hphase hpump =>
          refine h.keep ?_ ?_ ?_
          · rw [fire_phase, hphase]
            rfl
          · cases hpump <;> simp
          · simp [GivesUpClient, FailsToEmpty]
      | pumpOutbound hphase hpump =>
          refine h.keep ?_ ?_ ?_
          · rw [fire_phase, hphase]
            rfl
          · cases hpump <;> simp
          · simp [GivesUpClient, FailsToEmpty]
      | emptyFailed hphase hslot hhand =>
          refine h.fail ?_ trivial ?_ ?_
          · rw [hphase]
            exact id
          · simp
          · exact Or.inr ⟨rfl, ⟨_, hphase⟩, ⟨_, hslot⟩, _, hhand⟩
      | close hphase hslot hclose =>
          refine h.done ?_ trivial ?_ ?_
          · rw [hphase]
            exact id
          · exact ClientEnd.close_closes_of_ne_blocked hclose
          · simp [GivesUpClient, FailsToEmpty, hslot]
      | expireClient hphase hblocked hclock =>
          refine h.fail ?_ trivial rfl ?_
          · rw [hphase]
            exact id
          · exact Or.inl ⟨rfl, _, _, hphase, hblocked, hclock⟩
      | _ =>
          refine h.keep ?_ ?_ ?_
          · simp_all [Phase.ClientOver]
          · simp [enter]
          · simp_all [GivesUpClient, FailsToEmpty]
  | stimulus x =>
      refine h.keep Iff.rfl ?_ ?_
      · simp
      · simp [GivesUpClient, FailsToEmpty]
  | advance ms =>
      refine h.keep Iff.rfl rfl ?_
      simp [GivesUpClient, FailsToEmpty]

/-- Every event keeps the account of how often the upstream was shut down. -/
theorem shutdowns_next
    (hrun : s₀.run? events = some s)
    (h :
      CountedOnce (s.phase = .closed)
        (s₀.Occurs events fun _ t e => ∃ since, GivesUpUpstream since t e)
        s.bridge.upstream.shutdowns)
    (hnext : Next s event s') :
    CountedOnce (s'.phase = .closed)
      (s₀.Occurs (events ++ [event])
        fun _ t e => ∃ since, GivesUpUpstream since t e)
      s'.bridge.upstream.shutdowns := by
  rw [occurs_concat_iff hrun]
  cases hnext with
  | move hchange =>
      cases hchange with
      | pumpInbound hphase hpump =>
          refine h.keep ?_ ?_ ?_
          · simp [hphase]
          · cases hpump <;> simp
          · simp [GivesUpUpstream]
      | pumpOutbound hphase hpump =>
          refine h.keep ?_ ?_ ?_
          · simp [hphase]
          · cases hpump <;> simp
          · simp [GivesUpUpstream]
      | shutdown hphase hshutdown =>
          refine h.done ?_ rfl ?_ ?_
          · simp [hphase]
          · exact UpstreamEnd.shutdown_shutdowns_of_ne_blocked hshutdown
          · simp [GivesUpUpstream]
      | expireUpstream hphase hblocked hclock =>
          refine h.fail ?_ rfl rfl ?_
          · simp [hphase]
          · exact ⟨_, rfl, hphase, shutdown_blocked hphase hblocked, hclock⟩
      | _ =>
          refine h.keep ?_ ?_ ?_
          · simp_all
          · simp [enter]
          · simp_all [GivesUpUpstream]
  | stimulus x =>
      refine h.keep Iff.rfl ?_ ?_
      · simp
      · simp [GivesUpUpstream]
  | advance ms =>
      refine h.keep Iff.rfl rfl ?_
      simp [GivesUpUpstream]

end Counts

section Frames

/-- Behind binary frames, a frame that is not one of them is the last. -/
theorem split_of_binary_append
    {pieces : List (List UInt8)} {close before after : List Frame} {frame : Frame}
    (hclose : close.length ≤ 1)
    (hne : ∀ data, frame ≠ .binary data)
    (h : before ++ frame :: after = pieces.map .binary ++ close) :
    before = pieces.map .binary ∧ after = [] := by
  have hout : ∀ rest, before ++ frame :: rest ≠ pieces.map .binary := by
    intro rest heq
    have hmem : frame ∈ pieces.map .binary := by
      rw [← heq]
      exact List.mem_append_right _ List.mem_cons_self
    obtain ⟨data, -, hdata⟩ := List.mem_map.mp hmem
    exact hne data hdata.symm
  match close, hclose with
  | [], _ =>
      rw [List.append_nil] at h
      exact absurd h (hout after)
  | [last], _ =>
      rcases List.eq_nil_or_concat after with rfl | ⟨rest, final, rfl⟩
      · obtain ⟨hbefore, -⟩ := List.append_inj' h rfl
        exact ⟨hbefore, rfl⟩
      · have hsplit :
            (before ++ frame :: rest) ++ [final] =
              pieces.map .binary ++ [last] := by
          simpa using h
        obtain ⟨heq, -⟩ := List.append_inj' hsplit rfl
        exact absurd heq (hout rest)

variable {s s' : Session} {event : Event} {events : List Event}

theorem taken_beginning_handOver
    (b : Bridge) :
    b.client.taken <+: b.handOver.2.client.taken := by
  cases hhand : b.handOver.1 with
  | done value =>
      rw [(Bridge.handOver_of_done hhand).2]
      exact List.prefix_append _ _
  | failed text =>
      simp [(Bridge.handOver_of_failed hhand).1]
  | blocked =>
      simp [Bridge.handOver_of_blocked hhand]

/-- What the client took stays the beginning of what it takes. -/
theorem Next.taken_beginning
    (hnext : Next s event s') :
    s.bridge.client.taken <+: s'.bridge.client.taken := by
  have hhanded := taken_beginning_handOver s.bridge
  cases hnext with
  | move hchange =>
      cases hchange with
      | pumpInbound hphase hpump =>
          cases hpump <;> simp
      | pumpOutbound hphase hpump =>
          cases hpump with
          | hand hhand => simpa using hhanded
          | handFailed hhand => simpa using hhanded
          | _ => simp
      | clear hphase hhand => exact hhanded
      | clearFailed hphase hhand => exact hhanded
      | hand hphase hhand => exact hhanded
      | handFailed hphase hhand => exact hhanded
      | empty hphase hslot hhand => exact hhanded
      | emptyFailed hphase hslot hhand => exact hhanded
      | _ => simp [enter]
  | stimulus x =>
      simp
  | advance ms =>
      exact List.prefix_rfl

/-- Frames that were taken stay taken. -/
theorem taken_beginning_of_run
    (hrun : s.run? events = some s') :
    s.bridge.client.taken <+: s'.bridge.client.taken :=
  run_invariant (P := fun t => s.bridge.client.taken <+: t.bridge.client.taken)
    (fun _ _ _ h hnext => h.trans hnext.taken_beginning) hrun List.prefix_rfl

end Frames

section Runs

variable {bufferSize : Nat} {latencyMicros : UInt64} {metrics : Metrics}
  {events : List Event} {s : Session}

/-- A close frame is the last frame that the client took, and the only one of
its kind. -/
theorem closeFrame_last
    {status : Option (UInt16 × String)} {before after : List Frame}
    (hrun : (fresh bufferSize latencyMicros metrics).run? events = some s)
    (htaken : s.bridge.client.taken = before ++ .close status :: after) :
    after = [] ∧ ∀ other, Frame.close other ∉ before := by
  obtain ⟨close, hclose, done, extra, -, -, -, hframes, -, -⟩ :=
    (downloads_of_run hrun).closing
  have hlength : close.length ≤ 1 := by
    rcases hclose with rfl | rfl <;> simp
  have hsplit :
      before ++ .close status :: (after ++ s.bridge.slot.toList) =
        (done ++ extra).map .binary ++ close := by
    rw [← hframes, htaken]
    simp
  obtain ⟨hbefore, hafter⟩ := split_of_binary_append hlength (by simp) hsplit
  refine ⟨(List.append_eq_nil_iff.mp hafter).1, ?_⟩
  intro other hother
  rw [hbefore] at hother
  obtain ⟨data, -, hdata⟩ := List.mem_map.mp hother
  cases hdata

/-- The client is closed once, unless the session gave up on it or failed to hand
over a frame that was left. -/
theorem closes_of_run
    (hrun : (fresh bufferSize latencyMicros metrics).run? events = some s) :
    CountedOnce s.phase.ClientOver
      ((fresh bufferSize latencyMicros metrics).Occurs events
        fun _ t e => GivesUpClient t e ∨ FailsToEmpty t e)
      s.bridge.client.closes := by
  refine run_induction
    (P := fun events s =>
      CountedOnce s.phase.ClientOver
        ((fresh bufferSize latencyMicros metrics).Occurs events
          fun _ t e => GivesUpClient t e ∨ FailsToEmpty t e)
        s.bridge.client.closes)
    ⟨fun h => absurd h not_occurs_nil, fun _ => rfl, False.elim⟩ ?_ hrun
  intro events t event t' ht h hact
  exact closes_next ht h (next_of_act hact)

/-- The upstream is shut down once, unless the session gave up on it. -/
theorem shutdowns_of_run
    (hrun : (fresh bufferSize latencyMicros metrics).run? events = some s) :
    CountedOnce (s.phase = .closed)
      ((fresh bufferSize latencyMicros metrics).Occurs events
        fun _ t e => ∃ since, GivesUpUpstream since t e)
      s.bridge.upstream.shutdowns := by
  refine run_induction
    (P := fun events s =>
      CountedOnce (s.phase = .closed)
        ((fresh bufferSize latencyMicros metrics).Occurs events
          fun _ t e => ∃ since, GivesUpUpstream since t e)
        s.bridge.upstream.shutdowns)
    ⟨fun h => absurd h not_occurs_nil, fun _ => rfl, ?_⟩ ?_ hrun
  · intro hclosed
    cases hclosed
  · intro events t event t' ht h hact
    exact shutdowns_next ht h (next_of_act hact)

/--
In every run:

* the client takes at most one close frame, and nothing after it;
* each end is closed at most once, and not as long as the session is open;
* a move that shuts the upstream down comes only after an event that ended the
  closing of the client;
* the client of a session that is done was closed exactly once, unless that was
  given up or a frame in the slot could not be handed over;
* the upstream of a session that is done was shut down exactly once, unless that
  was given up.  If time passes only when no move is possible, it then blocked
  whenever time passed in its phase.
-/
theorem teardown_once_in_order
    (hrun : (fresh bufferSize latencyMicros metrics).run? events = some s) :
    (∀ before status after,
      s.bridge.client.taken = before ++ .close status :: after →
      after = [] ∧ ∀ other, Frame.close other ∉ before) ∧
    (∀ first rest t status,
      events = first ++ rest →
      (fresh bufferSize latencyMicros metrics).run? first = some t →
      Frame.close status ∈ t.bridge.client.taken →
      s.bridge.client.taken = t.bridge.client.taken) ∧
    (s.bridge.client.closes ≤ 1 ∧ s.bridge.upstream.shutdowns ≤ 1) ∧
    (s.bridge.stats.state = .init ∨ s.bridge.stats.state = .opened →
      s.bridge.client.closes = 0 ∧ s.bridge.upstream.shutdowns = 0) ∧
    (∀ before after t,
      events = before ++ .move .closeUpstream :: after →
      (fresh bufferSize latencyMicros metrics).run? before = some t →
      ∃ since, t.phase = .closingUpstream since ∧
        (fresh bufferSize latencyMicros metrics).Occurs before
          fun _ u event => EntersUpstream since u event) ∧
    (s.bridge.stats.state = .closed →
      (s.bridge.client.closes = 0 ↔
        (fresh bufferSize latencyMicros metrics).Occurs events
          fun _ t event => GivesUpClient t event ∨ FailsToEmpty t event) ∧
      (s.bridge.upstream.shutdowns = 0 ↔
        (fresh bufferSize latencyMicros metrics).Occurs events
          fun _ t event => ∃ since, GivesUpUpstream since t event)) ∧
    ((fresh bufferSize latencyMicros metrics).Prompt events →
      s.bridge.stats.state = .closed →
      s.bridge.upstream.shutdowns = 0 →
      ∃ since,
        ((fresh bufferSize latencyMicros metrics).Occurs events
          fun _ t event => EntersUpstream since t event) ∧
        ((fresh bufferSize latencyMicros metrics).Occurs events
          fun _ t event => GivesUpUpstream since t event) ∧
        ∀ before ms after t,
          events = before ++ .advance ms :: after →
          (fresh bufferSize latencyMicros metrics).run? before = some t →
          t.phase = .closingUpstream since →
          t.bridge.upstream.shutdown.1 = .blocked) := by
  have hstate := state_of_run hrun
  have hcloses := closes_of_run hrun
  have hshutdowns := shutdowns_of_run hrun
  have hclosed : s.bridge.stats.state = .closed → s.phase = .closed := by
    intro hdone
    rw [hstate] at hdone
    exact Phase.closed_of_state hdone
  refine
    ⟨fun before status after => closeFrame_last hrun, ?_,
      ⟨hcloses.le_one, hshutdowns.le_one⟩, ?_, ?_, ?_, ?_⟩
  · rintro first rest t status rfl hfirst hclose
    obtain ⟨more, hmore⟩ := taken_beginning_of_run (run?_after hrun hfirst)
    obtain ⟨before, after, hsplit⟩ := List.append_of_mem hclose
    have htaken :
        s.bridge.client.taken = before ++ .close status :: (after ++ more) := by
      rw [← hmore, hsplit]
      simp
    have hnone := (closeFrame_last hrun htaken).1
    rw [← hmore, (List.append_eq_nil_iff.mp hnone).2, List.append_nil]
  · intro hearly
    rw [hstate] at hearly
    have hended : ¬ s.phase.ClientOver := by
      cases hphase : s.phase <;>
        simp [hphase, Phase.state, Phase.ClientOver] at hearly ⊢
    have hnot : s.phase ≠ .closed := by
      intro hphase
      simp [hphase, Phase.state] at hearly
    exact ⟨hcloses.zero (Or.inl hended), hshutdowns.zero (Or.inl hnot)⟩
  · rintro before after t rfl hbefore
    obtain ⟨u, hact, -⟩ := run?_cons.mp (run?_after hrun hbefore)
    have hentered := entered_of_run rfl hbefore
    have hchange : Change t .closeUpstream u := change_of_step hact
    cases hchange with
    | @shutdown since hphase hshutdown =>
        rw [hphase] at hentered
        exact ⟨since, hphase, hentered⟩
  · intro hdone
    have hphase := hclosed hdone
    have hended : s.phase.ClientOver := by
      rw [hphase]
      trivial
    exact ⟨hcloses.eq_zero_iff hended, hshutdowns.eq_zero_iff hphase⟩
  · intro hprompt hdone hzero
    have hgiven := (hshutdowns.eq_zero_iff (hclosed hdone)).mp hzero
    obtain ⟨before, event, after, t, hsplit, hbefore, since, hgives⟩ := hgiven
    have hentered := entered_of_run rfl hbefore
    rw [hgives.2.1] at hentered
    refine ⟨since, ?_, ⟨before, event, after, t, hsplit, hbefore, hgives⟩, ?_⟩
    · rw [hsplit]
      exact hentered.append
    · intro first ms rest u hadvance hfirst hphase
      exact shutdown_blocked hphase
        (hprompt first ms rest u hadvance hfirst .closeUpstream)

/-- The client leaves while a frame for it waits in the slot, the frame cannot
be handed over when the session closes, and shutting the upstream down blocks
for five seconds. -/
def abandoned : List Event :=
  [.move .start,
   .stimulus (.mode .clientReady .blocked),
   .stimulus (.mode .upstreamShutdown .blocked),
   .stimulus (.upstreamItem (.chunk [7])),
   .move (.pump .outbound),
   .stimulus .clientEnd,
   .move (.pump .inbound),
   .move (.interrupt .outbound),
   .move .beginClosing,
   .stimulus (.mode .clientReady .failing),
   .move .closeClient,
   .move .closeClient,
   .advance 5000,
   .move .expire]

theorem teardown_once_in_order_abandoned :
    ∃ s, (fresh 4096 0 {}).run? abandoned = some s ∧
      s.bridge.stats.state = .closed ∧
      s.bridge.client.closes = 0 ∧
      s.bridge.upstream.shutdowns = 0 ∧
      ((fresh 4096 0 {}).Occurs abandoned
        fun _ t event => GivesUpClient t event ∨ FailsToEmpty t event) ∧
      (fresh 4096 0 {}).Occurs abandoned
        fun _ t event => ∃ since, GivesUpUpstream since t event := by
  obtain ⟨s, hrun⟩ : ∃ s, (fresh 4096 0 {}).run? abandoned = some s := ⟨_, rfl⟩
  have hdone : s.bridge.stats.state = .closed := by
    cases hrun
    rfl
  have hcloses : s.bridge.client.closes = 0 := by
    cases hrun
    rfl
  have hshutdowns : s.bridge.upstream.shutdowns = 0 := by
    cases hrun
    rfl
  obtain ⟨-, -, -, -, -, hcounts, -⟩ := teardown_once_in_order hrun
  obtain ⟨hclient, hupstream⟩ := hcounts hdone
  exact
    ⟨s, hrun, hdone, hcloses, hshutdowns, hclient.mp hcloses,
      hupstream.mp hshutdowns⟩

end Runs

end Session
end FrameBridge
