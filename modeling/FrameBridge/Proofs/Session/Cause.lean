import FrameBridge.Proofs.Session.Phases

/-!
# What ends a session

A session closes for the reason of the pump that ended first.  Each reason says
which call ended that pump, and how the call went.
-/

namespace FrameBridge

namespace Session

/-- The call that ends a pump and so gives a session the reason to close. -/
def Cause (s : Session) (direction : Direction) : CloseReason → Prop
  | .clientClosed =>
      direction = .inbound ∧
      s.phase.inbound = .receiving ∧
      (s.bridge.client.next.1 = .done .ended ∨
        ∃ frame,
          s.bridge.client.next.1 = .done (.item (.frame frame)) ∧
          frame.content = .close)
  | .upstreamClosed =>
      direction = .outbound ∧
      s.phase.outbound = .reading ∧
      (s.bridge.upstream.read s.bridge.readLimit).1 = .done []
  | .clientError =>
      (direction = .inbound ∧
        s.phase.inbound = .receiving ∧
        ∃ text, s.bridge.client.next.1 = .done (.item (.failure text))) ∨
      (direction = .outbound ∧
        (∃ size, s.phase.outbound = .handing size) ∧
        ∃ frame text,
          s.bridge.slot = some frame ∧
          (s.bridge.client.ready = .failed text ∨
            s.bridge.client.ready = .done () ∧
              (s.bridge.client.send frame).1 = .failed text)) ∨
      (direction = .outbound ∧
        (∃ size, s.phase.outbound = .flushing size) ∧
        ∃ text, s.bridge.client.flush.1 = .failed text)
  | .upstreamError =>
      (direction = .inbound ∧
        ∃ rest size,
          s.phase.inbound = .writing rest size ∧
          ((s.bridge.upstream.write rest).1 = .done 0 ∨
            ∃ text, (s.bridge.upstream.write rest).1 = .failed text)) ∨
      (direction = .inbound ∧
        (∃ size, s.phase.inbound = .flushing size) ∧
        ∃ text, s.bridge.upstream.flush.1 = .failed text) ∨
      (direction = .outbound ∧
        s.phase.outbound = .reading ∧
        ∃ text, (s.bridge.upstream.read s.bridge.readLimit).1 = .failed text)

/-- An event ends a pump with a result. -/
def Ends
    (direction : Direction) (result : PumpResult)
    (s : Session) (event : Event) : Prop :=
  event = .move (.pump direction) ∧
  ∃ next,
    s.pump direction = some next ∧
    next.phase.result? direction = some result

/-- An event ends a pump with a result, before the latch has a reason. -/
def EndsFirst
    (direction : Direction) (result : PumpResult)
    (s : Session) (event : Event) : Prop :=
  s.latch.reason = none ∧ Ends direction result s event

section Causes

variable {s next : Session} {result : PumpResult}

/-- The call that ends the pump to the upstream fits its result. -/
theorem cause_of_inbound
    {p p' : Inbound} {b : Bridge}
    (hphase : s.phase.inbound = p)
    (hchange : Inbound.Change s.bridge p p' b)
    (hresult : p'.result? = some result) :
    Cause s .inbound (CloseReason.ofResult .inbound result) := by
  cases hchange with
  | @event event hnext =>
      cases event with
      | ended =>
          cases hresult
          exact ⟨rfl, hphase, Or.inl hnext⟩
      | item item =>
          cases item with
          | failure text =>
              cases hresult
              exact Or.inl ⟨rfl, hphase, text, hnext⟩
          | frame frame =>
              simp only [Inbound.afterEvent] at hresult
              split at hresult
              · split at hresult <;> cases hresult
              · cases hresult
              · rename_i hcontent
                cases hresult
                exact ⟨rfl, hphase, Or.inr ⟨frame, hnext, hcontent⟩⟩
  | @write rest size n hwrite =>
      simp only [Inbound.afterWrite] at hresult
      split at hresult
      · rename_i hzero
        subst hzero
        cases hresult
        exact Or.inl ⟨rfl, rest, size, hphase, Or.inl hwrite⟩
      · split at hresult <;> cases hresult
  | @writeFailed rest size text hwrite =>
      cases hresult
      exact Or.inl ⟨rfl, rest, size, hphase, Or.inr ⟨text, hwrite⟩⟩
  | flush hflush =>
      cases hresult
  | @flushFailed size text hflush =>
      cases hresult
      exact Or.inr (Or.inl ⟨rfl, ⟨size, hphase⟩, text, hflush⟩)

/-- The call that ends the pump to the client fits its result. -/
theorem cause_of_outbound
    {q q' : Outbound} {b : Bridge}
    (hphase : s.phase.outbound = q)
    (hchange : Outbound.Change s.bridge q q' b)
    (hresult : q'.result? = some result) :
    Cause s .outbound (CloseReason.ofResult .outbound result) := by
  cases hchange with
  | readEnd hread =>
      cases hresult
      exact ⟨rfl, hphase, hread⟩
  | read hread hne =>
      cases hresult
  | @readFailed text hread =>
      cases hresult
      exact Or.inr (Or.inr ⟨rfl, hphase, text, hread⟩)
  | hand hhand =>
      cases hresult
  | @handFailed size text hhand =>
      cases hresult
      obtain ⟨frame, hslot, hfailed⟩ := Bridge.cause_of_handOver_failed hhand
      exact Or.inr (Or.inl ⟨rfl, ⟨size, hphase⟩, frame, text, hslot, hfailed⟩)
  | flush hflush =>
      cases hresult
  | @flushFailed size text hflush =>
      cases hresult
      exact Or.inr (Or.inr ⟨rfl, ⟨size, hphase⟩, text, hflush⟩)

/-- The call that ends a pump fits the result of the pump. -/
theorem cause_of_pump
    {direction : Direction}
    (hpump : s.pump direction = some next)
    (hresult : next.phase.result? direction = some result) :
    Cause s direction (CloseReason.ofResult direction result) := by
  cases direction with
  | inbound =>
      have hchange : Change s (.pump .inbound) next := change_of_step hpump
      cases hchange with
      | pumpInbound hphase hchange =>
          rw [fire_phase] at hresult
          exact cause_of_inbound (by rw [hphase]; rfl) hchange hresult
  | outbound =>
      have hchange : Change s (.pump .outbound) next := change_of_step hpump
      cases hchange with
      | pumpOutbound hphase hchange =>
          rw [fire_phase] at hresult
          exact cause_of_outbound (by rw [hphase]; rfl) hchange hresult

end Causes

section First

variable {s₀ s s' : Session} {events : List Event} {event : Event}
  {reason : CloseReason}

/-- The end of a pump gives the latch a reason, if it has none yet. -/
theorem exists_reason_of_ends
    {direction : Direction} {result : PumpResult}
    (hends : Ends direction result s event)
    (hact : s.act event = some s') :
    ∃ reason, s'.latch.reason = some reason := by
  obtain ⟨rfl, next, hpump, hresult⟩ := hends
  obtain rfl : next = s' := Option.some.inj (hpump.symm.trans hact)
  cases direction with
  | inbound =>
      have hchange : Change s (.pump .inbound) next := change_of_step hact
      cases hchange with
      | pumpInbound hphase hchange =>
          simp only [Phase.result?, fire_phase, Phase.inbound_relaying] at hresult
          rw [hresult]
          exact ⟨_, Latch.trigger_reason⟩
  | outbound =>
      have hchange : Change s (.pump .outbound) next := change_of_step hact
      cases hchange with
      | pumpOutbound hphase hchange =>
          simp only [Phase.result?, fire_phase, Phase.outbound_relaying] at hresult
          rw [hresult]
          exact ⟨_, Latch.trigger_reason⟩

/-- Whatever event gives the latch its reason ends a pump with a result of that
reason. -/
theorem endsFirst_of_act
    (hact : s.act event = some s')
    (hnone : s.latch.reason = none)
    (hsome : s'.latch.reason = some reason) :
    ∃ direction result,
      EndsFirst direction result s event ∧
      reason = CloseReason.ofResult direction result := by
  have hsame : ¬ s'.latch = s.latch := by
    intro hlatch
    rw [hlatch, hnone] at hsome
    cases hsome
  cases event with
  | move m =>
      have hchange : Change s m s' := change_of_step hact
      cases hchange with
      | @pumpInbound p p' q b hphase hpump =>
          cases hresult : p'.result? with
          | none =>
              rw [hresult] at hsame
              exact absurd rfl hsame
          | some result =>
              rw [hresult, fire_some_latch, Latch.trigger_reason] at hsome
              refine ⟨.inbound, result, ⟨hnone, rfl, _, hact, ?_⟩, ?_⟩
              · simpa [Phase.result?] using hresult
              · simpa [hnone, eq_comm] using hsome
      | @pumpOutbound p q q' b hphase hpump =>
          cases hresult : q'.result? with
          | none =>
              rw [hresult] at hsame
              exact absurd rfl hsame
          | some result =>
              rw [hresult, fire_some_latch, Latch.trigger_reason] at hsome
              refine ⟨.outbound, result, ⟨hnone, rfl, _, hact, ?_⟩, ?_⟩
              · simpa [Phase.result?] using hresult
              · simpa [hnone, eq_comm] using hsome
      | _ =>
          exact absurd rfl hsame
  | stimulus x =>
      cases hact
      exact absurd rfl hsame
  | advance ms =>
      cases hact
      exact absurd rfl hsame

/-- If the latch has a reason, some event gave it. -/
theorem exists_endsFirst
    (hfresh : s₀.latch.reason = none)
    (hrun : s₀.run? events = some s)
    (hreason : s.latch.reason = some reason) :
    s₀.Occurs events fun _ t event =>
      ∃ direction result,
        EndsFirst direction result t event ∧
        reason = CloseReason.ofResult direction result := by
  refine run_induction
    (P := fun events s =>
      s.latch.reason = some reason →
        s₀.Occurs events fun _ t event =>
          ∃ direction result,
            EndsFirst direction result t event ∧
            reason = CloseReason.ofResult direction result)
    ?_ ?_ hrun hreason
  · intro hnil
    rw [hfresh] at hnil
    cases hnil
  · intro events t event t' ht ih hact hsome
    rw [occurs_concat_iff ht]
    cases hbefore : t.latch.reason with
    | none =>
        exact Or.inr (endsFirst_of_act hact hbefore hsome)
    | some first =>
        have hkept := (next_of_act hact).reason hbefore
        rw [hkept] at hsome
        cases hsome
        exact Or.inl (ih hbefore)

end First

end Session
end FrameBridge
