import FrameBridge.Proofs.Session.Settling
import Mathlib.Data.List.Induction

/-!
# Runs of one pump

A pump is looked at on its own.  Between its steps, the ends do things by
themselves: they send items, and change how the calls of the pump go.  So the
runs are all the ways in which reads and writes can be cut, and in which calls
can block or fail at any point.

Each step leaves less work.  A run therefore has only so many steps, and without
stimuli it comes to a state where no step is possible.
-/

namespace FrameBridge
namespace Pump

/-- Something that happens to a pump and its ends. -/
inductive Event where
  | step
  | stimulus (x : Stimulus)

namespace Event

def fromClient : Event → List ClientItem
  | step => []
  | stimulus x => x.fromClient

def fromUpstream : Event → List UpstreamItem
  | step => []
  | stimulus x => x.fromUpstream

def isStep : Event → Bool
  | step => true
  | stimulus _ => false

end Event

/-- All that the client sends in some events, in order. -/
def fromClient (events : List Event) : List ClientItem :=
  events.flatMap Event.fromClient

/-- All that the upstream sends in some events, in order. -/
def fromUpstream (events : List Event) : List UpstreamItem :=
  events.flatMap Event.fromUpstream

section Sent

variable (events : List Event) (x : Stimulus)

@[simp] theorem fromClient_concat_step :
    fromClient (events ++ [.step]) = fromClient events := by
  simp [fromClient, Event.fromClient]

@[simp] theorem fromClient_concat_stimulus :
    fromClient (events ++ [.stimulus x]) = fromClient events ++ x.fromClient := by
  simp [fromClient, Event.fromClient]

@[simp] theorem fromUpstream_concat_step :
    fromUpstream (events ++ [.step]) = fromUpstream events := by
  simp [fromUpstream, Event.fromUpstream]

@[simp] theorem fromUpstream_concat_stimulus :
    fromUpstream (events ++ [.stimulus x]) = fromUpstream events ++ x.fromUpstream := by
  simp [fromUpstream, Event.fromUpstream]

end Sent

section Work

theorem clientWork_append
    (items more : List ClientItem) :
    clientWork (items ++ more) = clientWork items + clientWork more := by
  induction items with
  | nil =>
      simp [clientWork]
  | cons item items ih =>
      simp [clientWork, ih, Nat.add_assoc]

theorem upstreamWork_append
    (items more : List UpstreamItem) :
    upstreamWork (items ++ more) = upstreamWork items + upstreamWork more := by
  induction items with
  | nil =>
      simp [upstreamWork]
  | cons item items ih =>
      simp [upstreamWork, ih, Nat.add_assoc]

/-- What an end sends adds the work that it causes. -/
theorem pending_stimulate
    (b : Bridge) (x : Stimulus) :
    (b.stimulate x).pending =
      b.pending + clientWork x.fromClient + upstreamWork x.fromUpstream := by
  simp only [Bridge.pending, Bridge.stimulate_clientInbox, Bridge.stimulate_upstreamInbox,
    clientWork_append, upstreamWork_append]
  omega

end Work

variable {σ : Type} {step : σ → Bridge → Option (σ × Bridge)} {s₀ s t : σ × Bridge}
  {events more : List Event}

/-- The state after an event; none if a step is not possible. -/
def act (step : σ → Bridge → Option (σ × Bridge)) (s : σ × Bridge) : Event → Option (σ × Bridge)
  | .step => step s.1 s.2
  | .stimulus x => some (s.1, s.2.stimulate x)

def run?
    (step : σ → Bridge → Option (σ × Bridge)) (s : σ × Bridge)
    (events : List Event) : Option (σ × Bridge) :=
  events.foldlM (act step) s

/-- Steps are made as long as one is possible, and at most a number of them. -/
structure Iterates
    (step : σ → Bridge → Option (σ × Bridge)) (runFor : Nat → σ → Bridge → σ × Bridge) :
    Prop where
  zero : ∀ p b, runFor 0 p b = (p, b)
  stop : ∀ fuel p b, step p b = none → runFor (fuel + 1) p b = (p, b)
  go :
    ∀ fuel p b p' b',
      step p b = some (p', b') →
      runFor (fuel + 1) p b = runFor fuel p' b'

section Runs

theorem run?_append :
    run? step s₀ (events ++ more) = some s ↔
      ∃ t, run? step s₀ events = some t ∧ run? step t more = some s := by
  simp only [run?, List.foldlM_append, Option.bind_eq_bind, Option.bind_eq_some_iff]

theorem run?_concat
    {event : Event} :
    run? step s₀ (events ++ [event]) = some s ↔
      ∃ t, run? step s₀ events = some t ∧ act step t event = some s := by
  rw [run?_append]
  simp only [run?, List.foldlM_cons, List.foldlM_nil, Option.bind_eq_bind,
    Option.pure_def, Option.bind_fun_some]

/-- What holds at first and is kept by steps and stimuli holds after every run. -/
theorem run_induction
    {P : List Event → σ → Bridge → Prop}
    (hnil : P [] s₀.1 s₀.2)
    (hstep :
      ∀ events p b p' b',
        P events p b →
        step p b = some (p', b') →
        P (events ++ [.step]) p' b')
    (hstimulus :
      ∀ events p b x,
        P events p b →
        P (events ++ [.stimulus x]) p (b.stimulate x))
    (hrun : run? step s₀ events = some s) :
    P events s.1 s.2 := by
  induction events using List.reverseRecOn generalizing s with
  | nil =>
      cases hrun
      exact hnil
  | append_singleton events event ih =>
      obtain ⟨t, ht, hact⟩ := run?_concat.mp hrun
      cases event with
      | step =>
          exact hstep events t.1 t.2 s.1 s.2 (ih ht) hact
      | stimulus x =>
          cases hact
          exact hstimulus events t.1 t.2 x (ih ht)

end Runs

section Bounds

variable {remaining : σ → Nat}
  (hless :
    ∀ p b p' b',
      step p b = some (p', b') →
      remaining p' + b'.pending < remaining p + b.pending)
include hless

/-- The steps of a run, with the work that is left, are no more than the work
that there was and that has come. -/
theorem countP_isStep_add_le
    (hrun : run? step s₀ events = some s) :
    events.countP Event.isStep + (remaining s.1 + s.2.pending) ≤
      remaining s₀.1 + s₀.2.pending +
        (clientWork (fromClient events) + upstreamWork (fromUpstream events)) := by
  refine run_induction
    (P := fun events p b =>
      events.countP Event.isStep + (remaining p + b.pending) ≤
        remaining s₀.1 + s₀.2.pending +
          (clientWork (fromClient events) + upstreamWork (fromUpstream events)))
    ?_ ?_ ?_ hrun
  · simp
  · intro events p b p' b' ih hstep
    have hwork := hless p b p' b' hstep
    simp only [fromClient_concat_step, fromUpstream_concat_step, List.countP_append,
      List.countP_singleton, Event.isStep, if_true]
    omega
  · intro events p b x ih
    simp only [fromClient_concat_stimulus, fromUpstream_concat_stimulus, List.countP_append,
      List.countP_singleton, Event.isStep, pending_stimulate, clientWork_append,
      upstreamWork_append, Bool.false_eq_true, if_false]
    omega

/-- If there may be as many steps as there is work, then they are made until none is
possible. -/
theorem exists_run?_runFor
    {runFor : Nat → σ → Bridge → σ × Bridge} {fuel : Nat} {p : σ} {b : Bridge}
    (hiterates : Iterates step runFor)
    (hfuel : remaining p + b.pending ≤ fuel) :
    ∃ n, run? step (p, b) (List.replicate n .step) = some (runFor fuel p b) ∧
      step (runFor fuel p b).1 (runFor fuel p b).2 = none := by
  induction fuel generalizing p b with
  | zero =>
      -- There is no work left, and a step would leave even less.
      rw [hiterates.zero]
      refine ⟨0, rfl, ?_⟩
      cases hstep : step p b with
      | none =>
          rfl
      | some next =>
          have hwork := hless p b next.1 next.2 hstep
          omega
  | succ fuel ih =>
      cases hstep : step p b with
      | none =>
          rw [hiterates.stop fuel p b hstep]
          exact ⟨0, rfl, hstep⟩
      | some next =>
          have hwork := hless p b next.1 next.2 hstep
          obtain ⟨n, hrun, hnone⟩ := ih (p := next.1) (b := next.2) (by omega)
          rw [hiterates.go fuel p b next.1 next.2 hstep]
          refine ⟨n + 1, ?_, hnone⟩
          simp only [run?, List.replicate_succ, List.foldlM_cons, act, hstep]
          exact hrun

end Bounds

end Pump
end FrameBridge
