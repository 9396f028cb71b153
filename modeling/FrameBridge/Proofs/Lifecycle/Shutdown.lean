import FrameBridge.Proofs.Lifecycle.Receivers

/-!
# Every trigger is accounted for

What is due to a receiver grows with each trigger and shrinks by what it is told,
so over a run the triggers since its subscription are the signals that it got,
those that it was told it missed, and those that are still pending.  Since this
counter is all that a receiver sees, a run without the actions of the others
looks the same to it.
-/

namespace FrameBridge
namespace Shutdown

/-- Does things in order, and notes what each of them returned; none if there is
no handle for one of them. -/
def run? : Shutdown → List Action → Option (List (Action × Reply) × Shutdown)
  | s, [] => some ([], s)
  | s, action :: actions => do
      let (reply, next) ← s.apply action
      let (history, last) ← next.run? actions
      some ((action, reply) :: history, last)

/-- The number of triggers, by whatever handle. -/
def triggers (history : List (Action × Reply)) : Nat :=
  history.countP fun
    | (.trigger _, _) => true
    | _ => false

def subscriptions (history : List (Action × Reply)) : Nat :=
  history.countP fun
    | (.subscribe _, _) => true
    | _ => false

/-- The number of receivers that were dropped. -/
def drops (history : List (Action × Reply)) : Nat :=
  history.countP fun
    | (.drop _, .dropped true) => true
    | _ => false

/-- The number of signals that a receiver got. -/
def signals (receiver : Nat) (history : List (Action × Reply)) : Nat :=
  history.countP fun
    | (.receive r, .received .signal) => r == receiver
    | _ => false

/-- The number of signals that a receiver is told it missed. -/
def lag (receiver : Nat) : Action × Reply → Nat
  | (.receive r, .received (.lagged n)) => if r = receiver then n else 0
  | _ => 0

/-- The number of signals that a receiver was told it missed, all in all. -/
def missed (receiver : Nat) : List (Action × Reply) → Nat
  | [] => 0
  | done :: history => lag receiver done + missed receiver history

/-- The action is one of some receiver. -/
def Action.isOf (receiver : Nat) : Action → Bool
  | .drop r | .receive r => r == receiver
  | _ => false

/-- The action is one of a handle, or one of some receiver. -/
def Action.concerns (receiver : Nat) : Action → Bool
  | .drop r | .receive r => r == receiver
  | _ => true

/-- The actions of a receiver, with what they returned. -/
def own (receiver : Nat) (history : List (Action × Reply)) : List (Action × Reply) :=
  history.filter fun done => done.1.isOf receiver

section Runs

variable {s s' : Shutdown} {action : Action} {actions : List Action}
  {history before after : List (Action × Reply)} {r : Nat}

/-- A run is a change and the run of the other actions. -/
theorem run_cons_iff :
    s.run? (action :: actions) = some (history, s') ↔
      ∃ reply next rest,
        Change s action reply next ∧
        next.run? actions = some (rest, s') ∧
        history = (action, reply) :: rest := by
  constructor
  · intro hrun
    obtain ⟨⟨reply, next⟩, happly, hrun⟩ := Option.bind_eq_some_iff.mp hrun
    obtain ⟨⟨rest, last⟩, hrest, hlast⟩ := Option.bind_eq_some_iff.mp hrun
    cases hlast
    exact ⟨reply, next, rest, apply_eq_some_iff.mp happly, hrest, rfl⟩
  · rintro ⟨reply, next, rest, hchange, hrest, rfl⟩
    simp [run?, apply_eq_some_iff.mpr hchange, hrest]

/-- What every change keeps holds after a run. -/
theorem run_invariant
    {P : Shutdown → Prop}
    (hkeep : ∀ {s action reply s'}, P s → Change s action reply s' → P s')
    (hstart : P s)
    (hrun : s.run? actions = some (history, s')) :
    P s' := by
  induction actions generalizing s history with
  | nil =>
      cases hrun
      exact hstart
  | cons action actions ih =>
      obtain ⟨reply, next, rest, hchange, hrest, -⟩ := run_cons_iff.mp hrun
      exact ih (hkeep hstart hchange) hrest

/-- The state after a beginning of the history. -/
theorem run_split
    (hrun : s.run? actions = some (before ++ after, s')) :
    ∃ middle first last,
      s.run? first = some (before, middle) ∧ middle.run? last = some (after, s') := by
  induction before generalizing s actions with
  | nil =>
      exact ⟨s, [], actions, rfl, hrun⟩
  | cons done before ih =>
      cases actions with
      | nil =>
          cases hrun
      | cons action actions =>
          obtain ⟨reply, next, rest, hchange, hrest, hhistory⟩ := run_cons_iff.mp hrun
          obtain ⟨rfl, rfl⟩ := List.cons.inj hhistory
          obtain ⟨middle, first, last, hfirst, hlast⟩ := ih hrest
          exact
            ⟨middle, action :: first, last,
              run_cons_iff.mpr ⟨reply, next, before, hchange, hfirst, rfl⟩, hlast⟩

/-- A receiver that is gone does not come back. -/
theorem gone_run
    (hsound : s.Sound)
    (hgone : s.due? r = none)
    (hgiven : r < s.receivers.length)
    (hrun : s.run? actions = some (history, s')) :
    s'.due? r = none := by
  have hstays :=
    run_invariant
      (P := fun s => s.Sound ∧ s.due? r = none ∧ r < s.receivers.length)
      (fun ⟨hsound, hgone, hgiven⟩ hchange =>
        ⟨hsound.change hchange, gone_change hsound hchange hgone hgiven,
          Nat.lt_of_lt_of_le hgiven (mono_change hchange).2⟩)
      ⟨hsound, hgone, hgiven⟩ hrun
  exact hstays.2.1

theorem sound_start :
    Sound {} := by
  intro r position hposition
  rw [position_of_length_le (Nat.zero_le r)] at hposition
  cases hposition

/-- No run moves a receiver past the signals. -/
theorem sound_run
    (hrun : run? {} actions = some (history, s)) :
    s.Sound :=
  run_invariant Sound.change sound_start hrun

/-- One handle is always left. -/
theorem handles_pos_run
    (hrun : run? {} actions = some (history, s)) :
    0 < s.handles :=
  run_invariant (fun hpos hchange => Nat.lt_of_lt_of_le hpos (mono_change hchange).1)
    Nat.zero_lt_one hrun

end Runs

section Counting

variable {s s' : Shutdown} {action : Action} {reply : Reply} {actions : List Action}
  {done : Action × Reply} {history before since : List (Action × Reply)} {r n m handle : Nat}

theorem triggers_cons :
    triggers (done :: history) = triggers [done] + triggers history := by
  show triggers ([done] ++ history) = _
  exact List.countP_append

theorem subscriptions_cons :
    subscriptions (done :: history) = subscriptions [done] + subscriptions history := by
  show subscriptions ([done] ++ history) = _
  exact List.countP_append

theorem drops_cons :
    drops (done :: history) = drops [done] + drops history := by
  show drops ([done] ++ history) = _
  exact List.countP_append

theorem signals_cons :
    signals r (done :: history) = signals r [done] + signals r history := by
  show signals r ([done] ++ history) = _
  exact List.countP_append

theorem missed_cons :
    missed r (done :: history) = missed r [done] + missed r history := by
  simp [missed]

theorem told_other
    {q : Nat}
    (hne : q ≠ r) :
    signals r [(.receive q, reply)] = 0 ∧ missed r [(.receive q, reply)] = 0 := by
  cases reply with
  | number | dropped =>
      exact ⟨rfl, rfl⟩
  | received got =>
      cases got <;> simp [signals, missed, lag, hne]

/-- What is due to a receiver grows with a trigger, and shrinks by what the
receiver is told. -/
theorem Seen.balance
    {due due' : Option Nat}
    (hseen : Seen r due action reply due')
    (hdue : due = some n)
    (hdue' : due' = some m) :
    n + triggers [(action, reply)] =
      signals r [(action, reply)] + missed r [(action, reply)] + m := by
  cases hseen with
  | subscribed =>
      cases hdue
  | triggered =>
      subst hdue
      cases hdue'
      simp [triggers, signals, missed, lag]
  | dropped =>
      cases hdue'
  | received =>
      subst hdue
      cases hdue'
      match n with
      | 0 | 1 => simp [triggers, signals, missed, lag, got, left]
      | n + 2 => simp [triggers, signals, missed, lag, got, left]
  | subscribedOther | added | droppedOther =>
      cases hdue.symm.trans hdue'
      simp [triggers, signals, missed, lag]
  | receivedOther hne =>
      cases hdue.symm.trans hdue'
      rw [(told_other hne).1, (told_other hne).2]
      simp [triggers]

/-- Along a run, what was due and what was sent is got, missed or still due. -/
theorem balance_run
    (hsound : s.Sound)
    (hrun : s.run? actions = some (history, s'))
    (hdue : s.due? r = some n)
    (hend : s'.due? r = some m) :
    n + triggers history = signals r history + missed r history + m := by
  induction actions generalizing s history n with
  | nil =>
      cases hrun
      cases hdue.symm.trans hend
      simp [triggers, signals, missed]
  | cons action actions ih =>
      obtain ⟨reply, next, rest, hchange, hrest, rfl⟩ := run_cons_iff.mp hrun
      have hsound' := hsound.change hchange
      cases hdue' : next.due? r with
      | none =>
          -- a receiver that is dropped would be gone to the end
          have hgiven : r < next.receivers.length :=
            Nat.lt_of_lt_of_le (lt_length_of_due hdue) (mono_change hchange).2
          cases hend.symm.trans (gone_run hsound' hdue' hgiven hrest)
      | some k =>
          have hstep := (seen_of_change hsound hchange r).balance hdue hdue'
          have hlater := ih hsound' hrest hdue'
          rw [triggers_cons, signals_cons, missed_cons]
          omega

/-- A receiver is there until its own drop. -/
theorem Seen.eq_none_iff
    {due' : Option Nat}
    (hseen : Seen r (some n) action reply due') :
    due' = none ↔ action = .drop r := by
  cases hseen with
  | triggered | received | subscribedOther | added | receivedOther =>
      exact iff_of_false nofun nofun
  | dropped =>
      exact iff_of_true rfl rfl
  | droppedOther hne =>
      refine iff_of_false nofun fun hdrop => ?_
      cases hdrop
      exact hne rfl

/-- Only its own drop ends a receiver. -/
theorem kept_run
    (hsound : s.Sound)
    (hrun : s.run? actions = some (history, s'))
    (hdue : s.due? r = some n) :
    s'.Live r ↔ ∀ reply, (.drop r, reply) ∉ history := by
  induction actions generalizing s history n with
  | nil =>
      cases hrun
      exact iff_of_true (live_iff.mpr ⟨n, hdue⟩) fun _ => List.not_mem_nil
  | cons action actions ih =>
      obtain ⟨reply, next, rest, hchange, hrest, rfl⟩ := run_cons_iff.mp hrun
      have hsound' := hsound.change hchange
      have hseen := seen_of_change hsound hchange r
      rw [hdue] at hseen
      cases hdue' : next.due? r with
      | none =>
          obtain rfl := hseen.eq_none_iff.mp hdue'
          have hgiven : r < next.receivers.length :=
            Nat.lt_of_lt_of_le (lt_length_of_due hdue) (mono_change hchange).2
          refine iff_of_false ?_ fun hkept => hkept reply List.mem_cons_self
          rw [live_iff, gone_run hsound' hdue' hgiven hrest]
          exact fun ⟨_, hnone⟩ => nomatch hnone
      | some k =>
          have hother : action ≠ .drop r := by
            intro hdrop
            cases hdue'.symm.trans (hseen.eq_none_iff.mpr hdrop)
          rw [ih hsound' hrest hdue']
          refine forall_congr' fun reply' => not_congr ?_
          rw [List.mem_cons]
          refine (or_iff_right fun heq => hother ?_).symm
          exact (Prod.mk.inj heq).1.symm

/-- Right after its subscription nothing is due to a receiver. -/
theorem run_since_subscribed
    (hrun : run? {} actions = some (before ++ (.subscribe handle, .number r) :: since, s)) :
    ∃ (middle : Shutdown) (last : List Action),
      middle.Sound ∧ middle.due? r = some 0 ∧ middle.run? last = some (since, s) := by
  obtain ⟨middle, first, last, hfirst, hlast⟩ := run_split hrun
  cases last with
  | nil =>
      cases hlast
  | cons action last =>
      obtain ⟨reply, next, rest, hchange, hrest, heq⟩ := run_cons_iff.mp hlast
      cases heq
      exact ⟨next, last, (sound_run hfirst).change hchange, due_of_subscribed hchange, hrest⟩

/-- From its subscription on, a receiver accounts for every signal. -/
theorem conserved_run
    (hrun : run? {} actions = some (before ++ (.subscribe handle, .number r) :: since, s))
    (hlive : s.Live r) :
    triggers since = signals r since + missed r since + s.pending r := by
  obtain ⟨middle, last, hsound, hstart, hlast⟩ := run_since_subscribed hrun
  obtain ⟨m, hdue⟩ := live_iff.mp hlive
  have hbalance := balance_run hsound hlast hstart hdue
  rw [pending_eq, hdue]
  exact (Nat.zero_add _).symm.trans hbalance

/-- A receiver that is there was there before, or has subscribed since. -/
theorem subscribed_run
    (hsound : s.Sound)
    (hrun : s.run? actions = some (history, s'))
    (hend : s'.due? r = some m) :
    (∃ n, s.due? r = some n) ∨
      ∃ before handle since, history = before ++ (.subscribe handle, .number r) :: since := by
  induction actions generalizing s history with
  | nil =>
      cases hrun
      exact .inl ⟨m, hend⟩
  | cons action actions ih =>
      obtain ⟨reply, next, rest, hchange, hrest, rfl⟩ := run_cons_iff.mp hrun
      rcases ih (hsound.change hchange) hrest with ⟨n, hdue⟩ | ⟨before, handle, since, rfl⟩
      · have hseen := seen_of_change hsound hchange r
        generalize s.due? r = due at hseen ⊢
        cases due with
        | some k =>
            exact .inl ⟨k, rfl⟩
        | none =>
            rw [hdue] at hseen
            cases hseen with
            | subscribed =>
                exact .inr ⟨[], _, rest, rfl⟩
      · exact .inr ⟨(action, reply) :: before, handle, since, rfl⟩

/-- Subscriptions add a receiver, and drops take one away. -/
theorem live_change
    (hsound : s.Sound)
    (hchange : Change s action reply s') :
    s'.receiverCount + drops [(action, reply)] =
      s.receiverCount + subscriptions [(action, reply)] := by
  cases hchange with
  | subscribe =>
      simp [receiverCount, subscribe, drops, subscriptions]
  | addHandle =>
      rfl
  | trigger =>
      rw [receiverCount, frame_trigger.2]
      rfl
  | @drop q =>
      cases hposition : s.position? q with
      | none =>
          simp [drop, hposition, drops, subscriptions]
      | some position =>
          have hcount := receiverCount_set none hposition
          simpa [drop, hposition, drops, subscriptions] using hcount
  | @receive q =>
      rcases hsound.gone_or_behind q with hgone | ⟨position, n, hposition, hsent⟩
      · simp [receive_of_gone hgone, drops, subscriptions]
      · have hcount := receiverCount_set (some (s.sent - left n)) hposition
        simpa [receive_of_position hposition hsent, moveTo, drops, subscriptions] using hcount

/-- Receivers come by subscriptions and go by drops. -/
theorem live_run
    (hsound : s.Sound)
    (hrun : s.run? actions = some (history, s')) :
    s'.receiverCount + drops history = s.receiverCount + subscriptions history := by
  induction actions generalizing s history with
  | nil =>
      cases hrun
      rfl
  | cons action actions ih =>
      obtain ⟨reply, next, rest, hchange, hrest, rfl⟩ := run_cons_iff.mp hrun
      have hstep := live_change hsound hchange
      have hlater := ih (hsound.change hchange) hrest
      rw [drops_cons, subscriptions_cons]
      omega

end Counting

section OtherReceivers

/-- Two shutdowns look alike to a receiver. -/
structure Alike (r : Nat) (s t : Shutdown) : Prop where
  sound : s.Sound
  sound' : t.Sound
  handles_eq : t.handles = s.handles
  length_eq : t.receivers.length = s.receivers.length
  due_eq : t.due? r = s.due? r

variable {s s' t : Shutdown} {action : Action} {reply : Reply} {actions : List Action}
  {done : Action × Reply} {history : List (Action × Reply)} {r : Nat}

/-- Actions of others cannot be told. -/
theorem Alike.skip
    (halike : Alike r s t)
    (hchange : Change s action reply s')
    (hother : action.concerns r = false) :
    Alike r s' t := by
  have hsound := halike.sound.change hchange
  cases hchange with
  | subscribe | addHandle | trigger =>
      cases hother
  | drop =>
      have hne := beq_eq_false_iff_ne.mp hother
      refine
        ⟨hsound, halike.sound', halike.handles_eq.trans frame_drop.1.symm,
          halike.length_eq.trans frame_drop.2.1.symm, ?_⟩
      rw [due_drop, if_neg hne]
      exact halike.due_eq
  | receive =>
      have hne := beq_eq_false_iff_ne.mp hother
      refine
        ⟨hsound, halike.sound', halike.handles_eq.trans frame_receive.1.symm,
          halike.length_eq.trans frame_receive.2.symm, ?_⟩
      rw [due_receive halike.sound, if_neg hne]
      exact halike.due_eq

/-- The same action of a handle or the receiver keeps two shutdowns alike, and the
receiver gets the same. -/
theorem Alike.both
    (halike : Alike r s t)
    (hchange : Change s action reply s')
    (hconcerns : action.concerns r = true) :
    ∃ reply' t',
      Change t action reply' t' ∧
      Alike r s' t' ∧
      (action.isOf r = true → reply' = reply) := by
  have hsound := halike.sound.change hchange
  cases hchange with
  | @subscribe handle hhandle =>
      have hchange' : Change t (.subscribe handle) _ _ :=
        .subscribe (halike.handles_eq ▸ hhandle)
      refine
        ⟨_, _, hchange', ⟨hsound, halike.sound'.change hchange', halike.handles_eq, ?_, ?_⟩,
          fun hown => absurd hown Bool.false_ne_true⟩
      · simp [subscribe, halike.length_eq]
      · rw [due_subscribe, due_subscribe, halike.length_eq, halike.due_eq]
  | @addHandle handle hhandle =>
      have hchange' : Change t (.addHandle handle) _ _ :=
        .addHandle (halike.handles_eq ▸ hhandle)
      exact
        ⟨_, _, hchange',
          ⟨hsound, halike.sound'.change hchange', congrArg (· + 1) halike.handles_eq,
            halike.length_eq, halike.due_eq⟩,
          fun hown => absurd hown Bool.false_ne_true⟩
  | @trigger handle hhandle =>
      have hchange' : Change t (.trigger handle) _ _ :=
        .trigger (halike.handles_eq ▸ hhandle)
      refine
        ⟨_, _, hchange', ⟨hsound, halike.sound'.change hchange', ?_, ?_, ?_⟩,
          fun hown => absurd hown Bool.false_ne_true⟩
      · rw [frame_trigger.1, frame_trigger.1, halike.handles_eq]
      · rw [frame_trigger.2, frame_trigger.2, halike.length_eq]
      · rw [due_trigger halike.sound, due_trigger halike.sound', halike.due_eq]
  | @drop q =>
      have hchange' : Change t (.drop q) _ _ :=
        .drop
      refine
        ⟨_, _, hchange', ⟨hsound, halike.sound'.change hchange', ?_, ?_, ?_⟩, fun hown => ?_⟩
      · rw [frame_drop.1, frame_drop.1, halike.handles_eq]
      · rw [frame_drop.2.1, frame_drop.2.1, halike.length_eq]
      · rw [due_drop, due_drop, halike.due_eq]
      · obtain rfl : q = r := beq_iff_eq.mp hown
        rw [← isSome_due, ← isSome_due, halike.due_eq]
  | @receive q =>
      have hchange' : Change t (.receive q) _ _ :=
        .receive
      refine
        ⟨_, _, hchange', ⟨hsound, halike.sound'.change hchange', ?_, ?_, ?_⟩, fun hown => ?_⟩
      · rw [frame_receive.1, frame_receive.1, halike.handles_eq]
      · rw [frame_receive.2, frame_receive.2, halike.length_eq]
      · rw [due_receive halike.sound, due_receive halike.sound', halike.due_eq]
      · obtain rfl : q = r := beq_iff_eq.mp hown
        rw [got_receive halike.sound, got_receive halike.sound', halike.due_eq]

theorem Action.concerns_of_isOf
    (hown : action.isOf r = true) :
    action.concerns r = true := by
  cases action with
  | subscribe | addHandle | trigger =>
      rfl
  | drop | receive =>
      exact hown

theorem own_cons :
    own r (done :: history) =
      if done.1.isOf r = true then done :: own r history else own r history :=
  List.filter_cons

/-- A run without the actions of other receivers looks the same to a receiver. -/
theorem Alike.run
    (halike : Alike r s t)
    (hrun : s.run? actions = some (history, s')) :
    ∃ history' t',
      t.run? (actions.filter (Action.concerns r)) = some (history', t') ∧
      Alike r s' t' ∧
      own r history' = own r history := by
  induction actions generalizing s t history with
  | nil =>
      cases hrun
      exact ⟨[], t, rfl, halike, rfl⟩
  | cons action actions ih =>
      obtain ⟨reply, next, rest, hchange, hrest, rfl⟩ := run_cons_iff.mp hrun
      by_cases hconcerns : action.concerns r = true
      · obtain ⟨reply', next', hchange', halike', hreply⟩ := halike.both hchange hconcerns
        obtain ⟨history', t', hrun', hend, hsame⟩ := ih halike' hrest
        refine ⟨(action, reply') :: history', t', ?_, hend, ?_⟩
        · rw [List.filter_cons_of_pos hconcerns]
          exact run_cons_iff.mpr ⟨reply', next', history', hchange', hrun', rfl⟩
        · rw [own_cons, own_cons, hsame]
          split
          · rw [hreply ‹_›]
          · rfl
      · have halike' := halike.skip hchange (Bool.eq_false_iff.mpr hconcerns)
        obtain ⟨history', t', hrun', hend, hsame⟩ := ih halike' hrest
        refine ⟨history', t', ?_, hend, ?_⟩
        · rw [List.filter_cons_of_neg hconcerns]
          exact hrun'
        · rw [own_cons, if_neg (mt Action.concerns_of_isOf hconcerns), hsame]

end OtherReceivers

section Results

/-- What a run leaves, for handles and receivers.  Those receivers are live that
subscribed and were not dropped, and a trigger returns their number.  A receiver
has got, was told that it missed, or has still to be told of each signal since its
subscription, and without the actions of all others it gets the same.  A wait ends
exactly if a signal is pending. -/
structure Accounted (actions : List Action) (history : List (Action × Reply)) (s : Shutdown) :
    Prop where
  told :
    ∀ handle < s.handles,
      ∃ next, s.apply (.trigger handle) = some (.number s.receiverCount, next)
  live : s.receiverCount + drops history = subscriptions history
  subscribed :
    ∀ r, s.Live r →
      ∃ before handle since, history = before ++ (.subscribe handle, .number r) :: since
  kept :
    ∀ r before handle since, history = before ++ (.subscribe handle, .number r) :: since →
      (s.Live r ↔ ∀ reply, (.drop r, reply) ∉ since)
  conserved :
    ∀ r, s.Live r →
      ∀ before handle since, history = before ++ (.subscribe handle, .number r) :: since →
        triggers since = signals r since + missed r since + s.pending r
  empty_iff : ∀ r, s.Live r → ((s.receive r).1 = .empty ↔ s.pending r = 0)
  undisturbed :
    ∀ r, ∃ history' s',
      run? {} (actions.filter (Action.concerns r)) = some (history', s') ∧
      own r history' = own r history ∧
      (s'.Live r ↔ s.Live r) ∧
      s'.pending r = s.pending r
  unheard :
    s.receiverCount = 0 →
      ∀ handle < s.handles, s.apply (.trigger handle) = some (.number 0, s)
  fresh : s.subscribe.2.pending s.subscribe.1 = 0
  waits : ∀ r, s.Live r → ((s.wait? r).isSome = true ↔ 0 < s.pending r)

variable {s : Shutdown} {actions : List Action} {history : List (Action × Reply)}

/-- Every trigger is accounted for after every run, whatever handles and
receivers there are. -/
theorem no_signal_lost
    (hrun : run? {} actions = some (history, s)) :
    Accounted actions history s where
  told handle hhandle :=
    ⟨_, apply_eq_some_iff.mpr (.trigger hhandle)⟩
  live :=
    (live_run sound_start hrun).trans (Nat.zero_add _)
  subscribed r hlive := by
    obtain ⟨n, hdue⟩ := live_iff.mp hlive
    rcases subscribed_run sound_start hrun hdue with ⟨m, hstart⟩ | hsubscribed
    · rw [due_eq_none_iff.mpr (position_of_length_le (Nat.zero_le r))] at hstart
      cases hstart
    · exact hsubscribed
  kept r before handle since hhistory := by
    obtain ⟨middle, last, hsound, hstart, hlast⟩ := run_since_subscribed (hhistory ▸ hrun)
    exact kept_run hsound hlast hstart
  conserved r hlive before handle since hhistory :=
    conserved_run (hhistory ▸ hrun) hlive
  empty_iff r hlive :=
    receive_empty_iff (sound_run hrun) hlive
  undisturbed r := by
    have hstart : Alike r {} {} := ⟨sound_start, sound_start, rfl, rfl, rfl⟩
    obtain ⟨history', s', hrun', hend, hsame⟩ := hstart.run hrun
    refine ⟨history', s', hrun', hsame, ?_, ?_⟩
    · rw [live_iff, live_iff, hend.due_eq]
    · rw [pending_eq, pending_eq, hend.due_eq]
  unheard hnobody handle hhandle := by
    rw [apply_trigger, if_pos hhandle, trigger, if_pos hnobody, hnobody]
  fresh := by
    have hnew : s.subscribe.2.due? s.subscribe.1 = some 0 :=
      due_subscribe.trans (if_pos rfl)
    rw [pending_eq, hnew]
    rfl
  waits r hlive :=
    wait_isSome_iff (sound_run hrun) (handles_pos_run hrun) hlive

/-- A trigger comes before anybody has subscribed.  Two receivers subscribe, by
different handles, and the first one looks late, after three more triggers. -/
def busy : List Action :=
  [.trigger 0, .subscribe 0, .addHandle 0, .trigger 1, .subscribe 1, .trigger 0, .trigger 1,
    .receive 0, .drop 1, .trigger 1]

/-- What comes after the first has subscribed. -/
def busySince : List (Action × Reply) :=
  [(.addHandle 0, .number 1), (.trigger 1, .number 1), (.subscribe 1, .number 1),
    (.trigger 0, .number 2), (.trigger 1, .number 2), (.receive 0, .received (.lagged 2)),
    (.drop 1, .dropped true), (.trigger 1, .number 1)]

theorem run_busy :
    run? {} busy =
      some
        ((.trigger 0, .number 0) :: (.subscribe 0, .number 0) :: busySince,
          { sent := 4, receivers := [some 2, none], handles := 2 }) :=
  rfl

/-- The first was told of two of four signals, and a wait of its own ends. -/
theorem no_signal_lost_busy :
    ∃ history s,
      run? {} busy = some (history, s) ∧
      triggers busySince = signals 0 busySince + missed 0 busySince + s.pending 0 ∧
      triggers busySince = 4 ∧
      missed 0 busySince = 2 ∧
      s.receiverCount = 1 ∧
      (s.wait? 0).isSome = true := by
  have haccounted := no_signal_lost run_busy
  refine ⟨_, _, run_busy, ?_, rfl, rfl, rfl, ?_⟩
  · exact haccounted.conserved 0 rfl [(.trigger 0, .number 0)] 0 busySince rfl
  · exact (haccounted.waits 0 rfl).mpr (by decide)

end Results
end Shutdown
end FrameBridge
