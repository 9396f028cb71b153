import FrameBridge.Relay.LatchRun

/-!
# A latch fires once and releases everyone

The reason of a latch and the flag that it has fired are written one after the
other, and the steps of all who share the latch come in any order.  `Change`
says once what a step can do, and `Sound` what every step keeps: the reason is
that of one trigger, which is the only one to publish the flag, and whoever was
released saw this reason.

What a run can change later is little: a reason stays, and so do a winner, the
flag, and what a waiter saw.
-/

namespace FrameBridge

/-- The reason of the trigger was recorded: it returns true, or will. -/
def LatchTrigger.Wins (t : LatchTrigger) : Prop :=
  t.phase = .recorded ∨ t.phase = .returned true

theorem LatchTrigger.not_wins_ready
    (reason : CloseReason) :
    ¬ Wins ⟨reason, .ready⟩ := by
  rintro (h | h) <;> cases h

theorem LatchTrigger.not_wins_returned_false
    (reason : CloseReason) :
    ¬ Wins ⟨reason, .returned false⟩ := by
  rintro (h | h) <;> cases h

namespace LatchRun

/-- A trigger has returned. -/
def Returned (triggers : List LatchTrigger) (i : Nat) (won : Bool) : Prop :=
  ∃ t, triggers[i]? = some t ∧ t.phase = .returned won

/-- A waiter was released, and then saw something as the reason. -/
def Released (waiters : List LatchWaiter) (w : Nat) (seen : Option CloseReason) : Prop :=
  waiters[w]? = some (.released seen)

/-- The one trigger whose reason was recorded. -/
structure Winner (triggers : List LatchTrigger) (i : Nat) (reason : CloseReason) : Prop where
  wins : ∃ t, triggers[i]? = some t ∧ t.reason = reason ∧ t.Wins
  only : ∀ j t, triggers[j]? = some t → t.Wins → j = i

/-- The ways in which a step can go. -/
inductive Change (r : LatchRun) : LatchMove → LatchRun → Prop
  | record
      {i : Nat} {reason : CloseReason}
      (hget : r.triggers[i]? = some ⟨reason, .ready⟩)
      (hunset : r.latch.reason = none) :
      Change r (.trigger i)
        { r with
          latch.reason := some reason
          triggers := r.triggers.set i ⟨reason, .recorded⟩ }
  | lose
      {i : Nat} {reason first : CloseReason}
      (hget : r.triggers[i]? = some ⟨reason, .ready⟩)
      (hset : r.latch.reason = some first) :
      Change r (.trigger i)
        { r with triggers := r.triggers.set i ⟨reason, .returned false⟩ }
  | publish
      {i : Nat} {reason : CloseReason}
      (hget : r.triggers[i]? = some ⟨reason, .recorded⟩) :
      Change r (.trigger i)
        { r with
          latch.fired := true
          triggers := r.triggers.set i ⟨reason, .returned true⟩ }
  | begin
      {w : Nat}
      (hget : r.waiters[w]? = some .ready) :
      Change r (.waiter w)
        { r with waiters := r.waiters.set w .waiting }
  | release
      {w : Nat}
      (hget : r.waiters[w]? = some .waiting)
      (hfired : r.latch.fired = true) :
      Change r (.waiter w)
        { r with waiters := r.waiters.set w (.released r.latch.reason) }

/-- What is true of a latch after every step.  Before there is a reason, no trigger
has made a step.  The flag is published exactly if a trigger has returned true, and
whoever was released was so after this, and saw the reason. -/
structure Sound (r : LatchRun) : Prop where
  untouched :
    r.latch.reason = none →
      ∀ t ∈ r.triggers, t.phase = .ready
  winner : ∀ reason, r.latch.reason = some reason → ∃ i, Winner r.triggers i reason
  fired_iff : r.latch.fired = true ↔ ∃ i, Returned r.triggers i true
  seen : ∀ w seen, Released r.waiters w seen → r.latch.fired = true ∧ seen = r.latch.reason

section Steps

variable {r r' : LatchRun} {m : LatchMove}

theorem step?_trigger
    {i : Nat} {t : LatchTrigger}
    (hget : r.triggers[i]? = some t) :
    r.step? (.trigger i) =
      (t.step? r.latch).map fun next =>
        { r with latch := next.2, triggers := r.triggers.set i next.1 } := by
  cases hnext : t.step? r.latch <;> simp [step?, hget, hnext]

theorem step?_waiter
    {w : Nat} {waiter : LatchWaiter}
    (hget : r.waiters[w]? = some waiter) :
    r.step? (.waiter w) =
      (waiter.step? r.latch).map fun next =>
        { r with waiters := r.waiters.set w next } := by
  cases hnext : waiter.step? r.latch <;> simp [step?, hget, hnext]

/-- What a trigger does to the latch depends on where it stands. -/
theorem change_of_trigger
    {i : Nat} {t : LatchTrigger}
    (hget : r.triggers[i]? = some t)
    (hstep : r.step? (.trigger i) = some r') :
    Change r (.trigger i) r' := by
  rw [step?_trigger hget, Option.map_eq_some_iff] at hstep
  obtain ⟨next, hnext, rfl⟩ := hstep
  obtain ⟨reason, phase⟩ := t
  cases phase with
  | ready =>
      cases hreason : r.latch.reason with
      | none =>
          simp only [LatchTrigger.step?, Latch.record, hreason] at hnext
          cases hnext
          exact .record hget hreason
      | some first =>
          simp only [LatchTrigger.step?, Latch.record, hreason] at hnext
          cases hnext
          exact .lose hget hreason
  | recorded =>
      cases hnext
      exact .publish hget
  | returned won =>
      cases hnext

theorem change_of_waiter
    {w : Nat} {waiter : LatchWaiter}
    (hget : r.waiters[w]? = some waiter)
    (hstep : r.step? (.waiter w) = some r') :
    Change r (.waiter w) r' := by
  rw [step?_waiter hget, Option.map_eq_some_iff] at hstep
  obtain ⟨next, hnext, rfl⟩ := hstep
  cases waiter with
  | ready =>
      cases hnext
      exact .begin hget
  | waiting =>
      simp only [LatchWaiter.step?, Option.ite_none_right_eq_some] at hnext
      obtain ⟨hfired, hnext⟩ := hnext
      cases hnext
      exact .release hget hfired
  | released seen =>
      cases hnext

/-- Every step goes in one of these ways. -/
theorem change_of_step?
    (hstep : r.step? m = some r') :
    Change r m r' := by
  cases m with
  | trigger i =>
      obtain ⟨t, hget, -⟩ := Option.bind_eq_some_iff.mp hstep
      exact change_of_trigger hget hstep
  | waiter w =>
      obtain ⟨waiter, hget, -⟩ := Option.bind_eq_some_iff.mp hstep
      exact change_of_waiter hget hstep

end Steps

/-- An element stays where it is if another one is replaced. -/
theorem getElem?_set_of_ne_element
    {α : Type} {l : List α} {i j : Nat} {a c : α}
    (hget : l[i]? = some a)
    (hother : l[j]? = some c)
    (hne : c ≠ a)
    (b : α) :
    (l.set j b)[i]? = some a := by
  have hij : j ≠ i := by
    rintro rfl
    rw [hget] at hother
    cases hother
    exact hne rfl
  exact (List.getElem?_set_ne hij).trans hget

section Winners

variable {r r' : LatchRun} {i j : Nat} {t u : LatchTrigger} {reason : CloseReason}
  {m : LatchMove}

/-- The first trigger whose reason is recorded wins. -/
theorem winner_of_first
    (hready : ∀ t ∈ r.triggers, t.phase = .ready)
    (hget : r.triggers[i]? = some t) :
    Winner (r.triggers.set i ⟨reason, .recorded⟩) i reason := by
  obtain ⟨hlt, -⟩ := List.getElem?_eq_some_iff.mp hget
  constructor
  · exact ⟨⟨reason, .recorded⟩, List.getElem?_set_self hlt, rfl, Or.inl rfl⟩
  · intro j u hu hwins
    by_cases hj : i = j
    · exact hj.symm
    · rw [List.getElem?_set_ne hj] at hu
      have hphase := hready u (List.mem_of_getElem? hu)
      rcases hwins with h | h
      · rw [hphase] at h
        cases h
      · rw [hphase] at h
        cases h

/-- A step of a trigger leaves the winner as it is, if the trigger wins after the
step exactly if it did before. -/
theorem Winner.set
    (h : Winner r.triggers i reason)
    (hget : r.triggers[j]? = some t)
    (hreason : u.reason = t.reason)
    (hwins : u.Wins ↔ t.Wins) :
    Winner (r.triggers.set j u) i reason := by
  obtain ⟨hlt, -⟩ := List.getElem?_eq_some_iff.mp hget
  constructor
  · obtain ⟨v, hv, hvreason, hvwins⟩ := h.wins
    by_cases hij : j = i
    · subst hij
      rw [hget] at hv
      cases hv
      exact ⟨u, List.getElem?_set_self hlt, hreason.trans hvreason, hwins.mpr hvwins⟩
    · exact ⟨v, (List.getElem?_set_ne hij).trans hv, hvreason, hvwins⟩
  · intro k v hv hvwins
    by_cases hjk : j = k
    · subst hjk
      rw [List.getElem?_set_self hlt] at hv
      cases hv
      exact h.only j t hget (hwins.mp hvwins)
    · rw [List.getElem?_set_ne hjk] at hv
      exact h.only k v hv hvwins

/-- A trigger that returned true is one whose reason was recorded. -/
theorem Returned.wins
    (h : Returned r.triggers i true) :
    ∃ t, r.triggers[i]? = some t ∧ t.Wins := by
  obtain ⟨t, hget, hphase⟩ := h
  exact ⟨t, hget, Or.inr hphase⟩

/-- A trigger that has returned stays so. -/
theorem Change.returned
    {won : Bool}
    (hchange : Change r m r')
    (h : Returned r.triggers i won) :
    Returned r'.triggers i won := by
  obtain ⟨t, hget, hphase⟩ := h
  have hother :
      ∀ {j u} v, r.triggers[j]? = some u → u.phase ≠ .returned won →
        (r.triggers.set j v)[i]? = some t := by
    intro j u v hu hne
    refine getElem?_set_of_ne_element hget hu ?_ v
    rintro rfl
    exact hne hphase
  cases hchange with
  | record hready hunset =>
      exact ⟨t, hother _ hready nofun, hphase⟩
  | lose hready hset =>
      exact ⟨t, hother _ hready nofun, hphase⟩
  | publish hrecorded =>
      exact ⟨t, hother _ hrecorded nofun, hphase⟩
  | begin hwaiter =>
      exact ⟨t, hget, hphase⟩
  | release hwaiter hfired =>
      exact ⟨t, hget, hphase⟩

end Winners

section Invariant

variable {r r' : LatchRun} {m : LatchMove}

theorem Sound.not_fired_of_unset
    (h : r.Sound)
    (hunset : r.latch.reason = none) :
    r.latch.fired ≠ true := by
  intro hfired
  obtain ⟨i, t, hget, hphase⟩ := h.fired_iff.mp hfired
  rw [h.untouched hunset t (List.mem_of_getElem? hget)] at hphase
  cases hphase

/-- A trigger returns true only with the step that publishes the flag. -/
theorem exists_returned_set
    {i : Nat} {t u : LatchTrigger}
    (hget : r.triggers[i]? = some t)
    (ht : t.phase ≠ .returned true)
    (hu : u.phase ≠ .returned true) :
    (∃ j, Returned (r.triggers.set i u) j true) ↔
      ∃ j, Returned r.triggers j true := by
  obtain ⟨hlt, -⟩ := List.getElem?_eq_some_iff.mp hget
  constructor
  · rintro ⟨j, v, hv, hphase⟩
    by_cases hij : i = j
    · subst hij
      rw [List.getElem?_set_self hlt] at hv
      cases hv
      exact absurd hphase hu
    · rw [List.getElem?_set_ne hij] at hv
      exact ⟨j, v, hv, hphase⟩
  · rintro ⟨j, v, hv, hphase⟩
    refine ⟨j, v, getElem?_set_of_ne_element hv hget ?_ u, hphase⟩
    rintro rfl
    exact ht hphase

/-- Once there is a winner, nobody wins besides. -/
theorem Change.winner
    {i : Nat} {reason : CloseReason}
    (hsound : r.Sound)
    (hchange : Change r m r')
    (h : Winner r.triggers i reason) :
    Winner r'.triggers i reason := by
  cases hchange with
  | record hget hunset =>
      -- Without a reason nobody has made a step yet, so that there is no winner.
      obtain ⟨t, ht, -, hwins⟩ := h.wins
      have hphase := hsound.untouched hunset t (List.mem_of_getElem? ht)
      rcases hwins with hwins | hwins
      · rw [hphase] at hwins
        cases hwins
      · rw [hphase] at hwins
        cases hwins
  | lose hget hset =>
      refine h.set hget rfl ?_
      constructor
      · intro hwins
        exact absurd hwins (LatchTrigger.not_wins_returned_false _)
      · intro hwins
        exact absurd hwins (LatchTrigger.not_wins_ready _)
  | publish hget =>
      refine h.set hget rfl ?_
      constructor
      · intro _
        exact Or.inl rfl
      · intro _
        exact Or.inr rfl
  | begin hget =>
      exact h
  | release hget hfired =>
      exact h

/-- A step keeps the account of the latch. -/
theorem Sound.step
    (h : r.Sound)
    (hchange : Change r m r') :
    r'.Sound := by
  cases hchange with
  | @record i reason hget hunset =>
      constructor
      · intro hnone
        cases hnone
      · intro first hfirst
        cases hfirst
        exact ⟨i, winner_of_first (h.untouched hunset) hget⟩
      · exact h.fired_iff.trans (exists_returned_set hget (by simp) (by simp)).symm
      · intro w seen hreleased
        exact absurd (h.seen w seen hreleased).1 (h.not_fired_of_unset hunset)
  | @lose i reason first hget hset =>
      constructor
      · intro hnone
        rw [hset] at hnone
        cases hnone
      · intro other hother
        obtain ⟨k, hwinner⟩ := h.winner other hother
        exact ⟨k, Change.winner h (.lose hget hset) hwinner⟩
      · exact h.fired_iff.trans (exists_returned_set hget (by simp) (by simp)).symm
      · exact h.seen
  | @publish i reason hget =>
      obtain ⟨hlt, -⟩ := List.getElem?_eq_some_iff.mp hget
      constructor
      · intro hunset
        have hphase := h.untouched hunset _ (List.mem_of_getElem? hget)
        cases hphase
      · intro other hother
        obtain ⟨k, hwinner⟩ := h.winner other hother
        exact ⟨k, Change.winner h (.publish hget) hwinner⟩
      · constructor
        · intro _
          exact ⟨i, _, List.getElem?_set_self hlt, rfl⟩
        · intro _
          rfl
      · intro w seen hreleased
        exact ⟨rfl, (h.seen w seen hreleased).2⟩
  | @begin w hget =>
      obtain ⟨hlt, -⟩ := List.getElem?_eq_some_iff.mp hget
      refine ⟨h.untouched, h.winner, h.fired_iff, fun v seen hreleased => ?_⟩
      by_cases hv : w = v
      · subst hv
        rw [Released, List.getElem?_set_self hlt] at hreleased
        cases hreleased
      · rw [Released, List.getElem?_set_ne hv] at hreleased
        exact h.seen v seen hreleased
  | @release w hget hfired =>
      obtain ⟨hlt, -⟩ := List.getElem?_eq_some_iff.mp hget
      refine ⟨h.untouched, h.winner, h.fired_iff, fun v seen hreleased => ?_⟩
      by_cases hv : w = v
      · subst hv
        rw [Released, List.getElem?_set_self hlt] at hreleased
        cases hreleased
        exact ⟨hfired, rfl⟩
      · rw [Released, List.getElem?_set_ne hv] at hreleased
        exact h.seen v seen hreleased

theorem sound_init
    (reasons : List CloseReason) (waiters : Nat) :
    (init reasons waiters).Sound := by
  have hready : ∀ t ∈ (init reasons waiters).triggers, t.phase = .ready := by
    intro t ht
    obtain ⟨reason, -, rfl⟩ := List.mem_map.mp ht
    rfl
  constructor
  · intro _
    exact hready
  · intro reason hreason
    cases hreason
  · constructor
    · intro hfired
      cases hfired
    · rintro ⟨i, t, hget, hphase⟩
      rw [hready t (List.mem_of_getElem? hget)] at hphase
      cases hphase
  · intro w seen hreleased
    have hmem := List.eq_of_mem_replicate (List.mem_of_getElem? hreleased)
    cases hmem

/-- The account of the latch holds after any steps, in any order. -/
theorem Sound.run
    {moves : List LatchMove}
    (h : r.Sound)
    (hrun : r.run? moves = some r') :
    r'.Sound := by
  induction moves generalizing r with
  | nil =>
      cases hrun
      exact h
  | cons m moves ih =>
      obtain ⟨next, hstep, hrest⟩ := Option.bind_eq_some_iff.mp hrun
      exact ih (h.step (change_of_step? hstep)) hrest

end Invariant

section LaterStates

/-- What stays as it is from one state to another. -/
structure Kept (r r' : LatchRun) : Prop where
  reason : ∀ reason, r.latch.reason = some reason → r'.latch.reason = some reason
  winner : ∀ i reason, Winner r.triggers i reason → Winner r'.triggers i reason
  returned : ∀ i won, Returned r.triggers i won → Returned r'.triggers i won
  released : ∀ w seen, Released r.waiters w seen → Released r'.waiters w seen

variable {r r' r'' : LatchRun} {m : LatchMove}

theorem Kept.refl
    (r : LatchRun) :
    Kept r r :=
  ⟨fun _ h => h, fun _ _ h => h, fun _ _ h => h, fun _ _ h => h⟩

theorem Kept.trans
    (h : Kept r r')
    (h' : Kept r' r'') :
    Kept r r'' where
  reason reason hset := h'.reason reason (h.reason reason hset)
  winner i reason hwinner := h'.winner i reason (h.winner i reason hwinner)
  returned i won hreturned := h'.returned i won (h.returned i won hreturned)
  released w seen hreleased := h'.released w seen (h.released w seen hreleased)

/-- A waiter that was released is not released again, and keeps what it saw. -/
theorem Change.released
    {w : Nat} {seen : Option CloseReason}
    (hchange : Change r m r')
    (h : Released r.waiters w seen) :
    Released r'.waiters w seen := by
  cases hchange with
  | record hget hunset =>
      exact h
  | lose hget hset =>
      exact h
  | publish hget =>
      exact h
  | begin hget =>
      exact getElem?_set_of_ne_element h hget nofun _
  | release hget hfired =>
      exact getElem?_set_of_ne_element h hget nofun _

/-- A step replaces no reason, and takes back nothing that was returned. -/
theorem Change.kept
    (hsound : r.Sound)
    (hchange : Change r m r') :
    Kept r r' where
  reason reason hset := by
    cases hchange with
    | record hget hunset =>
        rw [hset] at hunset
        cases hunset
    | lose hget hfirst =>
        exact hset
    | publish hget =>
        exact hset
    | begin hget =>
        exact hset
    | release hget hfired =>
        exact hset
  winner _ _ hwinner := hchange.winner hsound hwinner
  returned _ _ hreturned := hchange.returned hreturned
  released _ _ hreleased := hchange.released hreleased

/-- No run replaces a reason or takes back what was returned. -/
theorem Sound.kept
    {moves : List LatchMove}
    (h : r.Sound)
    (hrun : r.run? moves = some r') :
    Kept r r' := by
  induction moves generalizing r with
  | nil =>
      cases hrun
      exact .refl _
  | cons m moves ih =>
      obtain ⟨next, hstep, hrest⟩ := Option.bind_eq_some_iff.mp hrun
      have hchange := change_of_step? hstep
      exact (hchange.kept h).trans (ih (h.step hchange) hrest)

end LaterStates

section Firing

variable {r : LatchRun} {i w : Nat} {reason : CloseReason}

/-- A trigger that has returned leaves a reason behind, whichever it was. -/
theorem Sound.reason_of_returned
    {won : Bool}
    (h : r.Sound)
    (hreturned : Returned r.triggers i won) :
    ∃ reason k, r.latch.reason = some reason ∧ Winner r.triggers k reason := by
  obtain ⟨t, hget, hphase⟩ := hreturned
  cases hreason : r.latch.reason with
  | none =>
      rw [h.untouched hreason t (List.mem_of_getElem? hget)] at hphase
      cases hphase
  | some reason =>
      obtain ⟨k, hwinner⟩ := h.winner reason hreason
      exact ⟨reason, k, rfl, hwinner⟩

/-- A winner has returned true, or does so with its next step. -/
theorem Winner.returns
    (h : Winner r.triggers i reason) :
    Returned r.triggers i true ∨ ∃ r', r.step? (.trigger i) = some r' ∧ Returned r'.triggers i true := by
  obtain ⟨⟨_, phase⟩, hget, rfl, hwins⟩ := h.wins
  obtain ⟨hlt, -⟩ := List.getElem?_eq_some_iff.mp hget
  rcases hwins with rfl | rfl
  · refine Or.inr ⟨_, step?_trigger hget, _, List.getElem?_set_self hlt, rfl⟩
  · exact Or.inl ⟨_, hget, rfl⟩

/-- Who waits when the flag is there is released by the next step. -/
theorem releases_of_waiting
    (hfired : r.latch.fired = true)
    (hreason : r.latch.reason = some reason)
    (hwaiting : r.waiters[w]? = some .waiting) :
    ∃ r', r.step? (.waiter w) = some r' ∧ Released r'.waiters w (some reason) := by
  obtain ⟨hlt, -⟩ := List.getElem?_eq_some_iff.mp hwaiting
  refine ⟨{ r with waiters := r.waiters.set w (.released (some reason)) }, ?_, ?_⟩
  · simp [step?_waiter hwaiting, LatchWaiter.step?, hfired, hreason]
  · exact List.getElem?_set_self hlt

/-- Who begins to wait when the flag is there is released by the step after. -/
theorem releases_of_ready
    (hfired : r.latch.fired = true)
    (hreason : r.latch.reason = some reason)
    (hready : r.waiters[w]? = some .ready) :
    ∃ r', r.run? [.waiter w, .waiter w] = some r' ∧ Released r'.waiters w (some reason) := by
  obtain ⟨hlt, -⟩ := List.getElem?_eq_some_iff.mp hready
  have hbegin :
      r.step? (.waiter w) = some { r with waiters := r.waiters.set w .waiting } := by
    simp [step?_waiter hready, LatchWaiter.step?]
  obtain ⟨r', hstep, hreleased⟩ :=
    releases_of_waiting (r := { r with waiters := r.waiters.set w .waiting }) hfired hreason
      (List.getElem?_set_self hlt)
  refine ⟨r', ?_, hreleased⟩
  simp [run?, hbegin, hstep]

/-- Who was released makes no step any more. -/
theorem Released.step?_eq_none
    {seen : Option CloseReason}
    (h : Released r.waiters w seen) :
    r.step? (.waiter w) = none := by
  simp [step?_waiter h, LatchWaiter.step?]

/-- A trigger that is not disturbed fires the latch in one go. -/
theorem run?_trigger_undisturbed
    (hget : r.triggers[i]? = some ⟨reason, .ready⟩) :
    ∃ steps, r.run? (List.replicate steps (.trigger i)) =
      some { r with
        latch := (r.latch.trigger reason).2
        triggers := r.triggers.set i ⟨reason, .returned (r.latch.trigger reason).1⟩ } := by
  obtain ⟨hlt, -⟩ := List.getElem?_eq_some_iff.mp hget
  cases hreason : r.latch.reason with
  | none =>
      refine ⟨2, ?_⟩
      have hrecord :
          r.step? (.trigger i) =
            some { r with
              latch.reason := some reason
              triggers := r.triggers.set i ⟨reason, .recorded⟩ } := by
        simp [step?_trigger hget, LatchTrigger.step?, Latch.record, hreason]
      have hpublish :=
        step?_trigger
          (r := { r with
            latch.reason := some reason
            triggers := r.triggers.set i ⟨reason, .recorded⟩ })
          (List.getElem?_set_self hlt)
      simp [run?, List.replicate, hrecord, hpublish, LatchTrigger.step?, Latch.trigger,
        Latch.record, hreason]
  | some first =>
      refine ⟨1, ?_⟩
      simp [run?, step?_trigger hget, LatchTrigger.step?, Latch.trigger, Latch.record, hreason]

end Firing

section AllRuns

/-- In every run of any triggers and waiters, at most one trigger returns true.
Once one has returned, the reason is that of the winner, which returns true with
its next step if it has not done so, and stays the reason.  Nobody is released
before the flag is published, nobody twice, and whoever is released sees the
reason, then and later.  Once the winner has returned, whoever waits, or begins to
wait, is released when it looks at the latch. -/
theorem fires_once_and_releases
    {reasons : List CloseReason} {waiters : Nat} {moves : List LatchMove} {r : LatchRun}
    (hrun : (init reasons waiters).run? moves = some r) :
    (∀ i j, Returned r.triggers i true → Returned r.triggers j true → i = j) ∧
      (∀ i won, Returned r.triggers i won →
        ∃ reason k,
          (Returned r.triggers k true ∨
            ∃ next, r.step? (.trigger k) = some next ∧ Returned next.triggers k true) ∧
          ∀ more later, r.run? more = some later →
            later.latch.reason = some reason ∧ Winner later.triggers k reason) ∧
      (∀ w seen, Released r.waiters w seen →
        r.latch.fired = true ∧
          ∃ reason k, seen = some reason ∧
            ∀ more later, r.run? more = some later →
              later.latch.reason = some reason ∧
                Winner later.triggers k reason ∧
                Released later.waiters w seen ∧
                later.step? (.waiter w) = none) ∧
      ∀ i, Returned r.triggers i true →
        ∃ reason,
          ∀ more later, r.run? more = some later →
            later.latch.reason = some reason ∧
              (∀ w, later.waiters[w]? = some .waiting →
                ∃ next, later.step? (.waiter w) = some next ∧
                  Released next.waiters w (some reason)) ∧
              ∀ w, later.waiters[w]? = some .ready →
                ∃ next, later.run? [.waiter w, .waiter w] = some next ∧
                  Released next.waiters w (some reason) := by
  have hsound : r.Sound := (sound_init reasons waiters).run hrun
  have hreturned :
      ∀ i won, Returned r.triggers i won →
        ∃ reason k, r.latch.reason = some reason ∧ Winner r.triggers k reason := by
    intro i won h
    exact hsound.reason_of_returned h
  refine ⟨?_, ?_, ?_, ?_⟩
  · intro i j hi hj
    obtain ⟨reason, k, -, hwinner⟩ := hreturned i true hi
    obtain ⟨t, ht, htwins⟩ := hi.wins
    obtain ⟨u, hu, huwins⟩ := hj.wins
    exact (hwinner.only i t ht htwins).trans (hwinner.only j u hu huwins).symm
  · intro i won hi
    obtain ⟨reason, k, hreason, hwinner⟩ := hreturned i won hi
    refine ⟨reason, k, hwinner.returns, ?_⟩
    intro more later hmore
    have hkept := hsound.kept hmore
    exact ⟨hkept.reason reason hreason, hkept.winner k reason hwinner⟩
  · intro w seen hw
    obtain ⟨hfired, hseen⟩ := hsound.seen w seen hw
    obtain ⟨i, hi⟩ := hsound.fired_iff.mp hfired
    obtain ⟨reason, k, hreason, hwinner⟩ := hreturned i true hi
    refine ⟨hfired, reason, k, hseen.trans hreason, ?_⟩
    intro more later hmore
    have hkept := hsound.kept hmore
    have hlater := hkept.released w seen hw
    exact ⟨hkept.reason reason hreason, hkept.winner k reason hwinner, hlater,
      hlater.step?_eq_none⟩
  · intro i hi
    obtain ⟨reason, k, hreason, -⟩ := hreturned i true hi
    refine ⟨reason, ?_⟩
    intro more later hmore
    have hkept := hsound.kept hmore
    have hlater : later.latch.reason = some reason := hkept.reason reason hreason
    have hfired : later.latch.fired = true :=
      (hsound.run hmore).fired_iff.mpr ⟨i, hkept.returned i true hi⟩
    exact ⟨hlater, fun w hw => releases_of_waiting hfired hlater hw,
      fun w hw => releases_of_ready hfired hlater hw⟩

/-- The second trigger returns before the first one has published the flag, and
the second waiter begins when the first was released. -/
theorem fires_once_and_releases_late_waiter :
    ∃ r, (init [.upstreamClosed, .clientError] 2).run?
        [.waiter 0, .trigger 0, .trigger 1, .trigger 0, .waiter 0] = some r ∧
      Returned r.triggers 0 true ∧
      Returned r.triggers 1 false ∧
      Released r.waiters 0 (some .upstreamClosed) ∧
      ∃ reason next, r.latch.reason = some reason ∧
        r.run? [.waiter 1, .waiter 1] = some next ∧
        Released next.waiters 1 (some reason) := by
  refine ⟨_, rfl, ⟨_, rfl, rfl⟩, ⟨_, rfl, rfl⟩, rfl, ?_⟩
  have hrun :
      (init [.upstreamClosed, .clientError] 2).run?
        [.waiter 0, .trigger 0, .trigger 1, .trigger 0, .waiter 0] = some _ := rfl
  obtain ⟨-, -, -, hfires⟩ := fires_once_and_releases hrun
  obtain ⟨reason, hlater⟩ := hfires 0 ⟨_, rfl, rfl⟩
  obtain ⟨hreason, -, hready⟩ := hlater [] _ rfl
  obtain ⟨next, hnext, hreleased⟩ := hready 1 rfl
  exact ⟨reason, next, hreason, hnext, hreleased⟩

end AllRuns

end LatchRun
end FrameBridge
