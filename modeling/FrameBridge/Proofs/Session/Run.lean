import FrameBridge.Proofs.Session.Moves

/-!
# Runs of a session

A run is a list of events: moves of the session, stimuli of its ends, and time
that passes, in any order.  It begins with a session that was not started and
whose ends have not done anything yet, so that all the ends ever do is in the
list.

What happened in a run is stated with `Occurs`: at some point of the run, an
event came in a state.  What is to be shown of every run is shown with
`run_induction`, by what one event can do.
-/

namespace FrameBridge

namespace Stimulus

def fromClient : Stimulus → List ClientItem
  | clientItems items => items
  | _ => []

def fromUpstream : Stimulus → List UpstreamItem
  | upstreamItem item => [item]
  | _ => []

end Stimulus

namespace Bridge

section Stimuli

variable (b : Bridge) (x : Stimulus)

@[simp] theorem stimulate_clientInbox :
    (b.stimulate x).client.inbox = b.client.inbox ++ x.fromClient := by
  cases x with
  | clientItems items => rfl
  | mode kind mode =>
      cases kind <;> exact (List.append_nil _).symm
  | limit kind limit =>
      cases kind <;> exact (List.append_nil _).symm
  | _ => exact (List.append_nil _).symm

@[simp] theorem stimulate_upstreamInbox :
    (b.stimulate x).upstream.inbox = b.upstream.inbox ++ x.fromUpstream := by
  cases x with
  | upstreamItem item => rfl
  | mode kind mode =>
      cases kind <;> exact (List.append_nil _).symm
  | limit kind limit =>
      cases kind <;> exact (List.append_nil _).symm
  | _ => exact (List.append_nil _).symm

/-- A stimulus changes the queues of the ends, how calls to them go and their
limits, and nothing else. -/
theorem stimulate_frame :
    (b.stimulate x).bufferSize = b.bufferSize ∧
      (b.stimulate x).slot = b.slot ∧
      (b.stimulate x).stats = b.stats ∧
      (b.stimulate x).metrics = b.metrics ∧
      (b.stimulate x).client.taken = b.client.taken ∧
      (b.stimulate x).client.closes = b.client.closes ∧
      (b.stimulate x).upstream.written = b.upstream.written ∧
      (b.stimulate x).upstream.shutdowns = b.upstream.shutdowns := by
  cases x with
  | mode kind mode =>
      cases kind <;> exact ⟨rfl, rfl, rfl, rfl, rfl, rfl, rfl, rfl⟩
  | limit kind limit =>
      cases kind <;> exact ⟨rfl, rfl, rfl, rfl, rfl, rfl, rfl, rfl⟩
  | _ =>
      exact ⟨rfl, rfl, rfl, rfl, rfl, rfl, rfl, rfl⟩

@[simp] theorem stimulate_bufferSize :
    (b.stimulate x).bufferSize = b.bufferSize :=
  (b.stimulate_frame x).1

@[simp] theorem stimulate_slot :
    (b.stimulate x).slot = b.slot :=
  (b.stimulate_frame x).2.1

@[simp] theorem stimulate_stats :
    (b.stimulate x).stats = b.stats :=
  (b.stimulate_frame x).2.2.1

@[simp] theorem stimulate_metrics :
    (b.stimulate x).metrics = b.metrics :=
  (b.stimulate_frame x).2.2.2.1

@[simp] theorem stimulate_taken :
    (b.stimulate x).client.taken = b.client.taken :=
  (b.stimulate_frame x).2.2.2.2.1

@[simp] theorem stimulate_closes :
    (b.stimulate x).client.closes = b.client.closes :=
  (b.stimulate_frame x).2.2.2.2.2.1

@[simp] theorem stimulate_written :
    (b.stimulate x).upstream.written = b.upstream.written :=
  (b.stimulate_frame x).2.2.2.2.2.2.1

@[simp] theorem stimulate_shutdowns :
    (b.stimulate x).upstream.shutdowns = b.upstream.shutdowns :=
  (b.stimulate_frame x).2.2.2.2.2.2.2

/-- No end flushes by itself. -/
theorem stimulate_flushes :
    (b.stimulate x).client.flushes = b.client.flushes ∧
      (b.stimulate x).upstream.flushes = b.upstream.flushes := by
  cases x with
  | mode kind mode =>
      cases kind <;> exact ⟨rfl, rfl⟩
  | limit kind limit =>
      cases kind <;> exact ⟨rfl, rfl⟩
  | _ =>
      exact ⟨rfl, rfl⟩

@[simp] theorem stimulate_clientFlushes :
    (b.stimulate x).client.flushes = b.client.flushes :=
  (b.stimulate_flushes x).1

@[simp] theorem stimulate_upstreamFlushes :
    (b.stimulate x).upstream.flushes = b.upstream.flushes :=
  (b.stimulate_flushes x).2

end Stimuli

end Bridge

namespace Session

/-- Something that happens to a session: a move, something that an end does by itself,
or some milliseconds that pass. -/
inductive Event where
  | move (m : Move)
  | stimulus (x : Stimulus)
  | advance (ms : Nat)

namespace Event

def fromClient : Event → List ClientItem
  | stimulus x => x.fromClient
  | _ => []

def fromUpstream : Event → List UpstreamItem
  | stimulus x => x.fromUpstream
  | _ => []

end Event

/-- All that the client sends in some events, in order. -/
def fromClient (events : List Event) : List ClientItem :=
  events.flatMap Event.fromClient

/-- All that the upstream sends in some events, in order. -/
def fromUpstream (events : List Event) : List UpstreamItem :=
  events.flatMap Event.fromUpstream

/-- The session after an event; none if a move is not possible. -/
def act (s : Session) : Event → Option Session
  | .move m => s.step m
  | .stimulus x => some (s.stimulate x)
  | .advance ms => some (s.advance ms)

def run? (s : Session) (events : List Event) : Option Session :=
  events.foldlM act s

/-- A session that was not started, between ends that have not done anything.
How long connecting took and what other sessions counted is arbitrary. -/
def fresh (bufferSize : Nat) (latencyMicros : UInt64) (metrics : Metrics) : Session where
  bridge :=
    { bufferSize := bufferSize
      stats := { latencyMicros := latencyMicros }
      metrics := metrics }

/-- In a run from a session, some event came in some state. -/
def Occurs
    (s₀ : Session) (events : List Event)
    (P : List Event → Session → Event → Prop) : Prop :=
  ∃ before event after s,
    events = before ++ event :: after ∧
    s₀.run? before = some s ∧
    P before s event

/-- The ways in which an event can go. -/
inductive Next (s : Session) : Event → Session → Prop
  | move
      {m : Move} {s' : Session}
      (hchange : Change s m s') :
      Next s (.move m) s'
  | stimulus
      (x : Stimulus) :
      Next s (.stimulus x) (s.stimulate x)
  | advance
      (ms : Nat) :
      Next s (.advance ms) (s.advance ms)

section Runs

/-- Every event goes in one of these ways. -/
theorem next_of_act
    {s s' : Session} {event : Event}
    (hact : s.act event = some s') :
    Next s event s' := by
  cases event with
  | move m =>
      exact .move (change_of_step hact)
  | stimulus x =>
      cases hact
      exact .stimulus x
  | advance ms =>
      cases hact
      exact .advance ms

theorem run?_cons
    {s s' : Session} {event : Event} {events : List Event} :
    s.run? (event :: events) = some s' ↔
      ∃ t, s.act event = some t ∧ t.run? events = some s' := by
  simp only [run?, List.foldlM_cons, Option.bind_eq_bind, Option.bind_eq_some_iff]

theorem run?_append
    {s s' : Session} {before after : List Event} :
    s.run? (before ++ after) = some s' ↔
      ∃ t, s.run? before = some t ∧ t.run? after = some s' := by
  simp only [run?, List.foldlM_append, Option.bind_eq_bind, Option.bind_eq_some_iff]

/-- The rest of a run starts where its beginning ends. -/
theorem run?_after
    {s₀ s t : Session} {before after : List Event}
    (hrun : s₀.run? (before ++ after) = some s)
    (hbefore : s₀.run? before = some t) :
    t.run? after = some s := by
  obtain ⟨u, hu, hafter⟩ := run?_append.mp hrun
  rw [hbefore] at hu
  cases hu
  exact hafter

/-- What holds at first and is kept by every event holds after every run. -/
theorem run_induction
    {s₀ : Session}
    {P : List Event → Session → Prop}
    (hnil : P [] s₀)
    (hnext :
      ∀ events s event s',
        s₀.run? events = some s →
        P events s →
        s.act event = some s' →
        P (events ++ [event]) s')
    {events : List Event} {s : Session}
    (hrun : s₀.run? events = some s) :
    P events s := by
  suffices hsplit :
      ∀ (after before : List Event) (t : Session),
        s₀.run? before = some t → P before t →
        t.run? after = some s → P (before ++ after) s from
    hsplit events [] s₀ rfl hnil hrun
  intro after
  induction after with
  | nil =>
      intro before t _ hP hafter
      cases hafter
      simpa using hP
  | cons event after ih =>
      intro before t hbefore hP hafter
      obtain ⟨u, hact, hafter⟩ := run?_cons.mp hafter
      have hu : s₀.run? (before ++ [event]) = some u :=
        run?_append.mpr ⟨t, hbefore, run?_cons.mpr ⟨u, hact, rfl⟩⟩
      have hPu := hnext before t event u hbefore hP hact
      simpa using ih (before ++ [event]) u hu hPu hafter

/-- What every event keeps is kept by every run. -/
theorem run_invariant
    {P : Session → Prop}
    (hnext : ∀ s event s', P s → Next s event s' → P s')
    {s s' : Session} {events : List Event}
    (hrun : s.run? events = some s')
    (hP : P s) :
    P s' :=
  run_induction (P := fun _ t => P t) hP
    (fun _ t event t' _ ht hact => hnext t event t' ht (next_of_act hact)) hrun

end Runs

section Occurrences

variable {s₀ s : Session} {events more : List Event} {event : Event}
  {P : List Event → Session → Event → Prop}

theorem not_occurs_nil :
    ¬ s₀.Occurs [] P := by
  rintro ⟨before, event, after, s, hsplit, -⟩
  simp at hsplit

/-- What occurred stays so. -/
theorem Occurs.append
    (h : s₀.Occurs events P) :
    s₀.Occurs (events ++ more) P := by
  obtain ⟨before, event, after, s, rfl, hbefore, hP⟩ := h
  exact ⟨before, event, after ++ more, s, by simp, hbefore, hP⟩

/-- What occurred after one more event occurred before it or with it. -/
theorem occurs_concat_iff
    (hrun : s₀.run? events = some s) :
    s₀.Occurs (events ++ [event]) P ↔
      s₀.Occurs events P ∨ P events s event := by
  constructor
  · rintro ⟨before, e, after, t, hsplit, hbefore, hP⟩
    rcases List.eq_nil_or_concat after with rfl | ⟨after, last, rfl⟩
    · obtain ⟨rfl, hevent⟩ := List.append_inj' hsplit rfl
      cases hevent
      rw [hrun] at hbefore
      cases hbefore
      exact Or.inr hP
    · have hsplit' : events ++ [event] = (before ++ e :: after) ++ [last] := by
        simpa using hsplit
      obtain ⟨hevents, -⟩ := List.append_inj' hsplit' rfl
      exact Or.inl ⟨before, e, after, t, hevents, hbefore, hP⟩
  · rintro (h | hP)
    · exact h.append
    · exact ⟨events, event, [], s, rfl, hrun, hP⟩

end Occurrences

section Sent

variable (events : List Event) (event : Event)

@[simp] theorem fromClient_concat :
    fromClient (events ++ [event]) = fromClient events ++ event.fromClient := by
  simp [fromClient]

@[simp] theorem fromUpstream_concat :
    fromUpstream (events ++ [event]) =
      fromUpstream events ++ event.fromUpstream := by
  simp [fromUpstream]

end Sent

end Session
end FrameBridge
