import FrameBridge.Lifecycle.Shutdown
import Mathlib.Data.List.Basic

/-!
# What is due to a receiver

To a receiver the shutdown is a counter of its own: a trigger adds one, and the
receiver takes one off when it gets a signal, and as many as it missed when it is
told so.  The counter begins at zero with the subscription.  Handles do not show
in it, nor do other receivers.
-/

namespace FrameBridge
namespace Shutdown

/-- The receiver was not dropped. -/
def Live (s : Shutdown) (receiver : Nat) : Prop :=
  (s.position? receiver).isSome = true

/-- The number of signals that a receiver has not been told of, if it was not
dropped. -/
def due? (s : Shutdown) (receiver : Nat) : Option Nat :=
  (s.position? receiver).map fun position => s.sent - position

/-- No receiver is ahead of the signals. -/
def Sound (s : Shutdown) : Prop :=
  ∀ receiver position, s.position? receiver = some position → position ≤ s.sent

/-- What a receiver gets if so many signals are due to it. -/
def got : Option Nat → Received
  | none => .gone
  | some 0 => .empty
  | some 1 => .signal
  | some (n + 2) => .lagged (n + 1)

/-- How many signals are due after that. -/
def left : Nat → Nat
  | 0 | 1 => 0
  | _ + 2 => 1

/-- What an action returns, and the state after it. -/
inductive Change (s : Shutdown) : Action → Reply → Shutdown → Prop where
  | subscribe {handle} (hhandle : handle < s.handles) :
      Change s (.subscribe handle) (.number s.receivers.length) s.subscribe.2
  | addHandle {handle} (hhandle : handle < s.handles) :
      Change s (.addHandle handle) (.number s.handles) s.addHandle.2
  | trigger {handle} (hhandle : handle < s.handles) :
      Change s (.trigger handle) (.number s.receiverCount) s.trigger.2
  | drop {q} :
      Change s (.drop q) (.dropped (s.position? q).isSome) (s.drop q).2
  | receive {q} :
      Change s (.receive q) (.received (s.receive q).1) (s.receive q).2

/-- An action with its reply, and what is due to a receiver before and after
it. -/
inductive Seen (r : Nat) : Option Nat → Action → Reply → Option Nat → Prop where
  | subscribed {handle} : Seen r none (.subscribe handle) (.number r) (some 0)
  | triggered {due handle n} : Seen r due (.trigger handle) (.number n) (due.map (· + 1))
  | dropped {due} : Seen r due (.drop r) (.dropped due.isSome) none
  | received {due} : Seen r due (.receive r) (.received (got due)) (due.map left)
  | subscribedOther {due handle n} (hne : n ≠ r) : Seen r due (.subscribe handle) (.number n) due
  | added {due handle n} : Seen r due (.addHandle handle) (.number n) due
  | droppedOther {due q reply} (hne : q ≠ r) : Seen r due (.drop q) reply due
  | receivedOther {due q reply} (hne : q ≠ r) : Seen r due (.receive q) reply due

section Positions

variable {s : Shutdown} {r q p n : Nat}

theorem lt_length_of_position
    (hposition : s.position? r = some p) :
    r < s.receivers.length :=
  (List.getElem?_eq_some_iff.mp (Option.join_eq_some_iff.mp hposition)).1

theorem position_of_length_le
    (hlength : s.receivers.length ≤ r) :
    s.position? r = none := by
  rw [position?, List.getElem?_eq_none hlength]
  rfl

/-- A new receiver stands behind all signals, and the others stay where they are. -/
theorem position_subscribe :
    s.subscribe.2.position? r =
      if r = s.receivers.length then some s.sent else s.position? r := by
  rcases Nat.lt_trichotomy r s.receivers.length with hlt | rfl | hgt
  · rw [if_neg (Nat.ne_of_lt hlt), position?, subscribe, List.getElem?_append_left hlt]
    rfl
  · rw [if_pos rfl, position?, subscribe, List.getElem?_concat_length]
    rfl
  · rw [if_neg (Nat.ne_of_gt hgt), position_of_length_le (Nat.le_of_lt hgt)]
    exact position_of_length_le (by simpa [subscribe] using Nat.succ_le_of_lt hgt)

theorem position_trigger :
    s.trigger.2.position? r = s.position? r := by
  unfold trigger
  split <;> rfl

theorem position_set
    (entry : Option Nat) (hlive : s.position? q = some p) :
    ({ s with receivers := s.receivers.set q entry } : Shutdown).position? r =
      if q = r then entry else s.position? r := by
  rw [position?, List.getElem?_set, if_pos (lt_length_of_position hlive)]
  split <;> rfl

/-- Dropping a receiver takes away its position only. -/
theorem position_drop :
    (s.drop q).2.position? r = if q = r then none else s.position? r := by
  unfold drop
  split
  · exact position_set none ‹_›
  · split
    · subst_vars
      assumption
    · rfl

theorem receive_of_gone
    (hgone : s.position? q = none) :
    s.receive q = (.gone, s) := by
  rw [receive, hgone]

/-- A receiver that nothing is due to stays where it is, and any other moves up
to what is left for it. -/
theorem receive_of_position
    (hposition : s.position? q = some p)
    (hsent : s.sent = p + n) :
    s.receive q = (got (some n), s.moveTo q (s.sent - left n)) := by
  match n with
  | 0 =>
      obtain rfl : p = s.sent := hsent.symm
      have hstays : s.receivers.set q (some s.sent) = s.receivers := by
        obtain ⟨_, hentry⟩ := List.getElem?_eq_some_iff.mp (Option.join_eq_some_iff.mp hposition)
        rw [← hentry, List.set_getElem_self]
      simp [receive, hposition, got, left, moveTo, hstays]
  | 1 =>
      have hlater : ¬ s.sent ≤ p := by omega
      simp only [receive, hposition, if_neg hlater, if_pos hsent, got, left, Nat.sub_zero]
  | n + 2 =>
      have hlater : ¬ s.sent ≤ p := by omega
      have hmore : ¬ s.sent = p + 1 := by omega
      have hmissed : s.sent - p - 1 = n + 1 := by omega
      simp only [receive, hposition, if_neg hlater, if_neg hmore, got, left, hmissed]

theorem receiverCount_pos
    (hlive : s.position? r = some p) :
    0 < s.receiverCount :=
  List.countP_pos_iff.mpr
    ⟨some p, List.mem_of_getElem? (Option.join_eq_some_iff.mp hlive), rfl⟩

theorem receiverCount_set
    (entry : Option Nat) (hlive : s.position? q = some p) :
    ({ s with receivers := s.receivers.set q entry } : Shutdown).receiverCount + 1 =
      s.receiverCount + if entry.isSome then 1 else 0 := by
  have hpos : 0 < s.receivers.countP Option.isSome := receiverCount_pos hlive
  obtain ⟨hlength, hentry⟩ := List.getElem?_eq_some_iff.mp (Option.join_eq_some_iff.mp hlive)
  have hwas : s.receivers[q].isSome = true := by
    rw [hentry]
    rfl
  simp only [receiverCount, List.countP_set hlength, if_pos hwas]
  omega

end Positions

section Frames

variable {s : Shutdown} {q : Nat}

theorem frame_trigger :
    s.trigger.2.handles = s.handles ∧ s.trigger.2.receivers = s.receivers := by
  unfold trigger
  split <;> exact ⟨rfl, rfl⟩

theorem frame_drop :
    (s.drop q).2.handles = s.handles ∧
      (s.drop q).2.receivers.length = s.receivers.length ∧
      (s.drop q).2.sent = s.sent := by
  unfold drop
  split
  · exact ⟨rfl, List.length_set, rfl⟩
  · exact ⟨rfl, rfl, rfl⟩

theorem frame_receive :
    (s.receive q).2.handles = s.handles ∧
      (s.receive q).2.receivers.length = s.receivers.length := by
  unfold receive
  split
  · exact ⟨rfl, rfl⟩
  · split
    · exact ⟨rfl, rfl⟩
    · split <;> exact ⟨rfl, List.length_set⟩

end Frames

section Due

variable {s : Shutdown} {r q p n : Nat}

theorem due_eq_none_iff :
    s.due? r = none ↔ s.position? r = none :=
  Option.map_eq_none_iff

theorem isSome_due :
    (s.due? r).isSome = (s.position? r).isSome :=
  Option.isSome_map

/-- A receiver is live exactly if some number of signals is due to it. -/
theorem live_iff :
    s.Live r ↔ ∃ n, s.due? r = some n := by
  rw [Live, ← isSome_due, Option.isSome_iff_exists]

theorem pending_eq :
    s.pending r = (s.due? r).getD 0 := by
  rw [pending, due?]
  cases s.position? r <;> rfl

theorem due_of_position
    (hposition : s.position? r = some p)
    (hsent : s.sent = p + n) :
    s.due? r = some n := by
  rw [due?, hposition, hsent, Option.map_some, Nat.add_sub_cancel_left]

theorem lt_length_of_due
    (hdue : s.due? r = some n) :
    r < s.receivers.length := by
  obtain ⟨position, hposition, -⟩ := Option.map_eq_some_iff.mp hdue
  exact lt_length_of_position hposition

/-- Behind the signals by what is due, for a receiver that is there. -/
theorem Sound.gone_or_behind
    (hsound : s.Sound)
    (r : Nat) :
    s.position? r = none ∨
      ∃ position n, s.position? r = some position ∧ s.sent = position + n := by
  cases hposition : s.position? r with
  | none =>
      exact .inl rfl
  | some position =>
      obtain ⟨n, hsent⟩ := Nat.exists_eq_add_of_le (hsound r position hposition)
      exact .inr ⟨position, n, rfl, hsent⟩

theorem due_subscribe :
    s.subscribe.2.due? r = if r = s.receivers.length then some 0 else s.due? r := by
  rw [due?, position_subscribe]
  split
  · exact congrArg some (Nat.sub_self s.sent)
  · rfl

/-- Without any receiver nothing is sent, and nothing is due. -/
theorem due_trigger
    (hsound : s.Sound) :
    s.trigger.2.due? r = (s.due? r).map (· + 1) := by
  rcases hsound.gone_or_behind r with hgone | ⟨position, n, hposition, hsent⟩
  · rw [due_eq_none_iff.mpr hgone, due_eq_none_iff.mpr (position_trigger.trans hgone)]
    rfl
  · have hheard : s.receiverCount ≠ 0 := Nat.ne_of_gt (receiverCount_pos hposition)
    have hsent' : s.trigger.2.sent = position + (n + 1) := by
      rw [trigger, if_neg hheard]
      exact congrArg (· + 1) hsent
    rw [due_of_position hposition hsent,
      due_of_position (position_trigger.trans hposition) hsent', Option.map_some]

theorem due_drop :
    (s.drop q).2.due? r = if q = r then none else s.due? r := by
  rw [due?, position_drop, frame_drop.2.2]
  split <;> rfl

/-- What a receiver gets depends only on how many signals are due to it. -/
theorem got_receive
    (hsound : s.Sound) :
    (s.receive q).1 = got (s.due? q) := by
  rcases hsound.gone_or_behind q with hgone | ⟨position, n, hposition, hsent⟩
  · rw [receive_of_gone hgone, due_eq_none_iff.mpr hgone, got]
  · rw [receive_of_position hposition hsent, due_of_position hposition hsent]

theorem left_le
    (n : Nat) :
    left n ≤ n := by
  unfold left
  split <;> omega

/-- A receiver that looks for a signal leaves what is due to others. -/
theorem due_receive
    (hsound : s.Sound) :
    (s.receive q).2.due? r = if q = r then (s.due? r).map left else s.due? r := by
  rcases hsound.gone_or_behind q with hgone | ⟨position, n, hposition, hsent⟩
  · rw [receive_of_gone hgone]
    split
    · subst_vars
      rw [due_eq_none_iff.mpr hgone]
      rfl
    · rfl
  · have hleft : left n ≤ s.sent := by
      have hle := left_le n
      omega
    rw [receive_of_position hposition hsent, due?, moveTo, position_set _ hposition]
    split
    · subst_vars
      rw [due_of_position hposition hsent]
      exact congrArg some (Nat.sub_sub_self hleft)
    · rfl

end Due

section Changes

variable {s s' : Shutdown} {action : Action} {reply : Reply} {r q handle : Nat}

theorem apply_trigger :
    s.apply (.trigger handle) =
      if handle < s.handles then some (.number s.receiverCount, s.trigger.2) else none := by
  have hnumber : s.trigger.1 = s.receiverCount := by
    unfold trigger
    split
    · exact Eq.symm ‹_›
    · rfl
  rw [← hnumber]
  rfl

theorem apply_drop :
    s.apply (.drop q) = some (.dropped (s.position? q).isSome, (s.drop q).2) := by
  have hwasThere : (s.drop q).1 = (s.position? q).isSome := by
    unfold drop
    split <;> simp [*]
  rw [← hwasThere]
  rfl

/-- All that an action can do: a reply and a state after it are possible exactly if
they are among the changes. -/
theorem apply_eq_some_iff :
    s.apply action = some (reply, s') ↔ Change s action reply s' := by
  constructor
  · intro happly
    cases action with
    | subscribe handle =>
        obtain ⟨hhandle, happly⟩ := Option.ite_none_right_eq_some.mp happly
        cases happly
        exact .subscribe hhandle
    | addHandle handle =>
        obtain ⟨hhandle, happly⟩ := Option.ite_none_right_eq_some.mp happly
        cases happly
        exact .addHandle hhandle
    | trigger handle =>
        rw [apply_trigger] at happly
        obtain ⟨hhandle, happly⟩ := Option.ite_none_right_eq_some.mp happly
        obtain ⟨rfl, rfl⟩ := Prod.mk.inj (Option.some.inj happly)
        exact .trigger hhandle
    | drop q =>
        rw [apply_drop] at happly
        obtain ⟨rfl, rfl⟩ := Prod.mk.inj (Option.some.inj happly)
        exact .drop
    | receive q =>
        obtain ⟨rfl, rfl⟩ := Prod.mk.inj (Option.some.inj happly)
        exact .receive
  · intro hchange
    cases hchange with
    | subscribe hhandle =>
        exact if_pos hhandle
    | addHandle hhandle =>
        exact if_pos hhandle
    | trigger hhandle =>
        rw [apply_trigger, if_pos hhandle]
    | drop =>
        exact apply_drop
    | receive =>
        rfl

/-- Numbers of handles and receivers are given once. -/
theorem mono_change
    (hchange : Change s action reply s') :
    s.handles ≤ s'.handles ∧ s.receivers.length ≤ s'.receivers.length := by
  cases hchange with
  | subscribe =>
      exact ⟨Nat.le_refl _, by simp [subscribe]⟩
  | addHandle =>
      exact ⟨Nat.le_succ _, Nat.le_refl _⟩
  | trigger =>
      obtain ⟨hhandles, hreceivers⟩ := frame_trigger (s := s)
      exact ⟨Nat.le_of_eq hhandles.symm, Nat.le_of_eq (congrArg List.length hreceivers.symm)⟩
  | drop =>
      exact ⟨Nat.le_of_eq frame_drop.1.symm, Nat.le_of_eq frame_drop.2.1.symm⟩
  | receive =>
      exact ⟨Nat.le_of_eq frame_receive.1.symm, Nat.le_of_eq frame_receive.2.symm⟩

/-- No action moves a receiver past the signals. -/
theorem Sound.change
    (hsound : s.Sound)
    (hchange : Change s action reply s') :
    s'.Sound := by
  intro r position hposition
  cases hchange with
  | subscribe =>
      rw [position_subscribe] at hposition
      split at hposition
      · cases hposition
        exact Nat.le_refl _
      · exact hsound r position hposition
  | addHandle =>
      exact hsound r position hposition
  | trigger =>
      rw [position_trigger] at hposition
      have hle := hsound r position hposition
      unfold trigger
      split
      · exact hle
      · exact Nat.le_succ_of_le hle
  | drop =>
      rw [position_drop] at hposition
      split at hposition
      · cases hposition
      · rw [frame_drop.2.2]
        exact hsound r position hposition
  | @receive q =>
      rcases hsound.gone_or_behind q with hgone | ⟨place, n, hplace, hsent⟩
      · rw [receive_of_gone hgone] at hposition ⊢
        exact hsound r position hposition
      · rw [receive_of_position hplace hsent] at hposition ⊢
        rw [moveTo, position_set _ hplace] at hposition
        split at hposition
        · cases hposition
          exact Nat.sub_le _ _
        · exact hsound r position hposition

/-- What an action comes to for a receiver depends on nothing but what is due to
this receiver. -/
theorem seen_of_change
    (hsound : s.Sound)
    (hchange : Change s action reply s')
    (r : Nat) :
    Seen r (s.due? r) action reply (s'.due? r) := by
  cases hchange with
  | subscribe =>
      rw [due_subscribe]
      split
      · subst_vars
        rw [due_eq_none_iff.mpr (position_of_length_le (Nat.le_refl _))]
        exact .subscribed
      · exact .subscribedOther (Ne.symm ‹_›)
  | addHandle =>
      exact .added
  | trigger =>
      rw [due_trigger hsound]
      exact .triggered
  | drop =>
      rw [due_drop]
      split
      · subst_vars
        rw [← isSome_due]
        exact .dropped
      · exact .droppedOther ‹_›
  | receive =>
      rw [due_receive hsound]
      split
      · subst_vars
        rw [got_receive hsound]
        exact .received
      · exact .receivedOther ‹_›

/-- Nothing is due to a receiver when it subscribes. -/
theorem due_of_subscribed
    (hchange : Change s (.subscribe handle) (.number r) s') :
    s'.due? r = some 0 := by
  cases hchange
  rw [due_subscribe, if_pos rfl]

/-- A number that was given stays without a receiver once it has none. -/
theorem gone_change
    (hsound : s.Sound)
    (hchange : Change s action reply s')
    (hgone : s.due? r = none)
    (hgiven : r < s.receivers.length) :
    s'.due? r = none := by
  have hseen := seen_of_change hsound hchange r
  generalize s'.due? r = due' at hseen ⊢
  rw [hgone] at hseen
  cases hseen with
  | subscribed =>
      cases hchange
      exact absurd hgiven (Nat.lt_irrefl _)
  | triggered | dropped | received | subscribedOther | added | droppedOther | receivedOther =>
      rfl

end Changes

section Waiting

variable {s : Shutdown} {r : Nat}

/-- A receiver gets nothing exactly if nothing is pending. -/
theorem receive_empty_iff
    (hsound : s.Sound)
    (hlive : s.Live r) :
    (s.receive r).1 = .empty ↔ s.pending r = 0 := by
  obtain ⟨n, hdue⟩ := live_iff.mp hlive
  rw [got_receive hsound, pending_eq, hdue]
  match n with
  | 0 => simp [got]
  | 1 => simp [got]
  | n + 2 => simp [got]

/-- A wait ends with a signal and with the news of missed ones alike. -/
theorem wait_isSome_iff
    (hsound : s.Sound)
    (hhandles : 0 < s.handles)
    (hlive : s.Live r) :
    (s.wait? r).isSome = true ↔ 0 < s.pending r := by
  have hopen : ¬ s.handles = 0 := Nat.ne_of_gt hhandles
  rcases hsound.gone_or_behind r with hgone | ⟨position, n, hposition, hsent⟩
  · rw [Live, hgone] at hlive
    cases hlive
  · rw [wait?, receive_of_position hposition hsent, pending_eq, due_of_position hposition hsent]
    match n with
    | 0 => simp [got, moveTo, hopen]
    | 1 => simp [got]
    | n + 2 => simp [got]

end Waiting
end Shutdown
end FrameBridge
