import FrameBridge.Proofs.Session.Calls

/-!
# What a move does

This module says once what a step of a pump and a move of a session can do.
`Inbound.Change`, `Outbound.Change` and `Session.Change` have one constructor
for each way in which a step or a move can go, with what has to hold before it
and the state after it.  Whatever is to be shown of every move is shown by
going through these constructors.
-/

namespace FrameBridge

namespace Inbound

/-- The ways in which a step of the pump to the upstream can go. -/
inductive Change (b : Bridge) : Inbound → Inbound → Bridge → Prop
  | event
      {event : ClientEvent}
      (hnext : b.client.next.1 = .done event) :
      Change b .receiving (afterEvent event)
        { b with client := b.client.next.2 }
  | write
      {rest : List UInt8} {size n : Nat}
      (hwrite : (b.upstream.write rest).1 = .done n) :
      Change b (.writing rest size) (afterWrite rest size n)
        { b with upstream := (b.upstream.write rest).2 }
  | writeFailed
      {rest : List UInt8} {size : Nat} {text : String}
      (hwrite : (b.upstream.write rest).1 = .failed text) :
      Change b (.writing rest size) (.ended (.error (.upstream text)))
        { b with upstream := (b.upstream.write rest).2 }
  | flush
      {size : Nat}
      (hflush : b.upstream.flush.1 = .done ()) :
      Change b (.flushing size) .receiving
        ({ b with upstream := b.upstream.flush.2 }.record .inbound size)
  | flushFailed
      {size : Nat} {text : String}
      (hflush : b.upstream.flush.1 = .failed text) :
      Change b (.flushing size) (.ended (.error (.upstream text)))
        { b with upstream := b.upstream.flush.2 }

/-- Every step goes in one of these ways. -/
theorem change_of_step
    {p p' : Inbound} {b b' : Bridge}
    (hstep : p.step b = some (p', b')) :
    Change b p p' b' := by
  cases p with
  | receiving =>
      simp only [step] at hstep
      split at hstep
      · rename_i event client hnext
        cases hstep
        obtain ⟨hnext, rfl⟩ := Prod.ext_iff.mp hnext
        exact .event hnext
      · cases hstep
  | writing rest size =>
      simp only [step] at hstep
      split at hstep
      · rename_i n upstream hwrite
        cases hstep
        obtain ⟨hwrite, rfl⟩ := Prod.ext_iff.mp hwrite
        exact .write hwrite
      · rename_i text upstream hwrite
        cases hstep
        obtain ⟨hwrite, rfl⟩ := Prod.ext_iff.mp hwrite
        exact .writeFailed hwrite
      · cases hstep
  | flushing size =>
      simp only [step] at hstep
      split at hstep
      · rename_i upstream hflush
        cases hstep
        obtain ⟨hflush, rfl⟩ := Prod.ext_iff.mp hflush
        exact .flush hflush
      · rename_i text upstream hflush
        cases hstep
        obtain ⟨hflush, rfl⟩ := Prod.ext_iff.mp hflush
        exact .flushFailed hflush
      · cases hstep
  | ended result =>
      cases hstep
  | interrupted =>
      cases hstep

/-- A step goes in each of these ways if it can. -/
theorem step_of_change
    {p p' : Inbound} {b b' : Bridge}
    (hchange : Change b p p' b') :
    p.step b = some (p', b') := by
  cases hchange with
  | @event event hnext =>
      have hcall : b.client.next = (.done event, b.client.next.2) := Prod.ext hnext rfl
      rw [step, hcall]
  | @write rest size n hwrite =>
      have hcall : b.upstream.write rest = (.done n, (b.upstream.write rest).2) :=
        Prod.ext hwrite rfl
      rw [step, hcall]
  | @writeFailed rest size text hwrite =>
      have hcall : b.upstream.write rest = (.failed text, (b.upstream.write rest).2) :=
        Prod.ext hwrite rfl
      rw [step, hcall]
  | flush hflush =>
      have hcall : b.upstream.flush = (.done (), b.upstream.flush.2) := Prod.ext hflush rfl
      rw [step, hcall]
  | @flushFailed size text hflush =>
      have hcall : b.upstream.flush = (.failed text, b.upstream.flush.2) :=
        Prod.ext hflush rfl
      rw [step, hcall]

/-- What the pump to the upstream waits for. -/
inductive Waits (b : Bridge) : Inbound → Prop
  | client
      (hinbox : b.client.inbox = [])
      (hended : b.client.ended = false) :
      Waits b .receiving
  | write
      {rest : List UInt8} {size : Nat}
      (hwrite : (b.upstream.write rest).1 = .blocked) :
      Waits b (.writing rest size)
  | flush
      {size : Nat}
      (hflush : b.upstream.flush.1 = .blocked) :
      Waits b (.flushing size)

/-- A pump that runs and cannot make a step waits for something. -/
theorem waits_of_step_eq_none
    {p : Inbound} {b : Bridge}
    (hstep : p.step b = none)
    (hrunning : p.isRunning = true) :
    Waits b p := by
  cases p with
  | receiving =>
      cases hinbox : b.client.inbox with
      | nil =>
          cases hended : b.client.ended with
          | false => exact .client hinbox hended
          | true => simp [step, ClientEnd.next, hinbox, hended] at hstep
      | cons item rest => simp [step, ClientEnd.next, hinbox] at hstep
  | writing rest size =>
      rcases hwrite : b.upstream.write rest with ⟨outcome, upstream⟩
      cases outcome with
      | blocked => exact .write (congrArg Prod.fst hwrite)
      | _ => simp [step, hwrite] at hstep
  | flushing size =>
      rcases hflush : b.upstream.flush with ⟨outcome, upstream⟩
      cases outcome with
      | blocked => exact .flush (congrArg Prod.fst hflush)
      | _ => simp [step, hflush] at hstep
  | ended result =>
      cases hrunning
  | interrupted =>
      cases hrunning

end Inbound

namespace Outbound

/-- The ways in which a step of the pump to the client can go. -/
inductive Change (b : Bridge) : Outbound → Outbound → Bridge → Prop
  | readEnd
      (hread : (b.upstream.read b.readLimit).1 = .done []) :
      Change b .reading (.ended (.ok ()))
        { b with upstream := (b.upstream.read b.readLimit).2 }
  | read
      {bytes : List UInt8}
      (hread : (b.upstream.read b.readLimit).1 = .done bytes)
      (hne : bytes ≠ []) :
      Change b .reading (.handing bytes.length)
        { b with
          upstream := (b.upstream.read b.readLimit).2
          slot := some (.binary bytes) }
  | readFailed
      {text : String}
      (hread : (b.upstream.read b.readLimit).1 = .failed text) :
      Change b .reading (.ended (.error (.upstream text)))
        { b with upstream := (b.upstream.read b.readLimit).2 }
  | hand
      {size : Nat}
      (hhand : b.handOver.1 = .done ()) :
      Change b (.handing size) (.flushing size) b.handOver.2
  | handFailed
      {size : Nat} {text : String}
      (hhand : b.handOver.1 = .failed text) :
      Change b (.handing size) (.ended (.error (.client text)))
        b.handOver.2
  | flush
      {size : Nat}
      (hflush : b.client.flush.1 = .done ()) :
      Change b (.flushing size) .reading
        ({ b with client := b.client.flush.2 }.record .outbound size)
  | flushFailed
      {size : Nat} {text : String}
      (hflush : b.client.flush.1 = .failed text) :
      Change b (.flushing size) (.ended (.error (.client text)))
        { b with client := b.client.flush.2 }

/-- Every step goes in one of these ways. -/
theorem change_of_step
    {p p' : Outbound} {b b' : Bridge}
    (hstep : p.step b = some (p', b')) :
    Change b p p' b' := by
  cases p with
  | reading =>
      simp only [step] at hstep
      split at hstep
      · rename_i upstream hread
        cases hstep
        obtain ⟨hread, rfl⟩ := Prod.ext_iff.mp hread
        exact .readEnd hread
      · rename_i bytes upstream hne hread
        cases hstep
        obtain ⟨hread, rfl⟩ := Prod.ext_iff.mp hread
        exact .read hread hne
      · rename_i text upstream hread
        cases hstep
        obtain ⟨hread, rfl⟩ := Prod.ext_iff.mp hread
        exact .readFailed hread
      · cases hstep
  | handing size =>
      simp only [step] at hstep
      split at hstep
      · rename_i hhand
        cases hstep
        obtain ⟨hhand, rfl⟩ := Prod.ext_iff.mp hhand
        exact .hand hhand
      · rename_i text _ hhand
        cases hstep
        obtain ⟨hhand, rfl⟩ := Prod.ext_iff.mp hhand
        exact .handFailed hhand
      · cases hstep
  | flushing size =>
      simp only [step] at hstep
      split at hstep
      · rename_i client hflush
        cases hstep
        obtain ⟨hflush, rfl⟩ := Prod.ext_iff.mp hflush
        exact .flush hflush
      · rename_i text client hflush
        cases hstep
        obtain ⟨hflush, rfl⟩ := Prod.ext_iff.mp hflush
        exact .flushFailed hflush
      · cases hstep
  | ended result =>
      cases hstep
  | interrupted =>
      cases hstep

/-- A step goes in each of these ways if it can. -/
theorem step_of_change
    {q q' : Outbound} {b b' : Bridge}
    (hchange : Change b q q' b') :
    q.step b = some (q', b') := by
  cases hchange with
  | readEnd hread =>
      have hcall :
          b.upstream.read b.readLimit = (.done [], (b.upstream.read b.readLimit).2) :=
        Prod.ext hread rfl
      rw [step, hcall]
  | @read bytes hread hne =>
      have hcall :
          b.upstream.read b.readLimit = (.done bytes, (b.upstream.read b.readLimit).2) :=
        Prod.ext hread rfl
      obtain ⟨first, rest, rfl⟩ := List.exists_cons_of_ne_nil hne
      rw [step, hcall]
  | @readFailed text hread =>
      have hcall :
          b.upstream.read b.readLimit = (.failed text, (b.upstream.read b.readLimit).2) :=
        Prod.ext hread rfl
      rw [step, hcall]
  | hand hhand =>
      have hcall : b.handOver = (.done (), b.handOver.2) := Prod.ext hhand rfl
      rw [step, hcall]
  | @handFailed size text hhand =>
      have hcall : b.handOver = (.failed text, b.handOver.2) := Prod.ext hhand rfl
      rw [step, hcall]
  | flush hflush =>
      have hcall : b.client.flush = (.done (), b.client.flush.2) := Prod.ext hflush rfl
      rw [step, hcall]
  | @flushFailed size text hflush =>
      have hcall : b.client.flush = (.failed text, b.client.flush.2) := Prod.ext hflush rfl
      rw [step, hcall]

/-- What the pump to the client waits for. -/
inductive Waits (b : Bridge) : Outbound → Prop
  | upstream
      (hinbox : b.upstream.inbox = [])
      (hended : b.upstream.ended = false) :
      Waits b .reading
  | hand
      {size : Nat}
      (hready : b.client.ready = .blocked) :
      Waits b (.handing size)
  | flush
      {size : Nat}
      (hflush : b.client.flush.1 = .blocked) :
      Waits b (.flushing size)

/-- A pump that runs and cannot make a step waits for something. -/
theorem waits_of_step_eq_none
    {q : Outbound} {b : Bridge}
    (hstep : q.step b = none)
    (hrunning : q.isRunning = true) :
    Waits b q := by
  cases q with
  | reading =>
      rcases hread : b.upstream.read b.readLimit with ⟨outcome, upstream⟩
      cases outcome with
      | blocked =>
          unfold UpstreamEnd.read at hread
          split at hread
          · rename_i hinbox
            split at hread
            · cases hread
            · rename_i hended
              exact .upstream hinbox (Bool.eq_false_iff.mpr hended)
          · cases hread
          · cases hread
      | done bytes => cases bytes <;> simp [step, hread] at hstep
      | failed text => simp [step, hread] at hstep
  | handing size =>
      rcases hhand : b.handOver with ⟨outcome, _⟩
      cases outcome with
      | blocked =>
          obtain ⟨-, -, hready⟩ := Bridge.cause_of_handOver_blocked (congrArg Prod.fst hhand)
          exact .hand hready
      | _ => simp [step, hhand] at hstep
  | flushing size =>
      rcases hflush : b.client.flush with ⟨outcome, client⟩
      cases outcome with
      | blocked => exact .flush (congrArg Prod.fst hflush)
      | _ => simp [step, hflush] at hstep
  | ended result =>
      cases hrunning
  | interrupted =>
      cases hrunning

end Outbound

namespace Phase

/-- Where the pump to the upstream stands: before the start it is about to
receive, and when the session closes it has been stopped. -/
def inbound : Phase → Inbound
  | waiting => .receiving
  | relaying inbound _ => inbound
  | _ => .interrupted

/-- Where the pump to the client stands. -/
def outbound : Phase → Outbound
  | waiting => .reading
  | relaying _ outbound => outbound
  | _ => .interrupted

/-- The result of a pump that has ended while the session was relaying. -/
def result? (phase : Phase) : Direction → Option PumpResult
  | .inbound => phase.inbound.result?
  | .outbound => phase.outbound.result?

/-- The state that is shown in a phase. -/
def state : Phase → SessionState
  | waiting => .init
  | relaying _ _ => .opened
  | closingClient _ _ => .closing
  | closingUpstream _ => .closing
  | closed => .closed

section Views

variable (p : Inbound) (q : Outbound) (step : ClientStep) (since : Nat)

@[simp] theorem inbound_waiting :
    waiting.inbound = .receiving := rfl

@[simp] theorem inbound_relaying :
    (relaying p q).inbound = p := rfl

@[simp] theorem inbound_closingClient :
    (closingClient step since).inbound = .interrupted := rfl

@[simp] theorem inbound_closingUpstream :
    (closingUpstream since).inbound = .interrupted := rfl

@[simp] theorem inbound_closed :
    closed.inbound = .interrupted := rfl

@[simp] theorem outbound_waiting :
    waiting.outbound = .reading := rfl

@[simp] theorem outbound_relaying :
    (relaying p q).outbound = q := rfl

@[simp] theorem outbound_closingClient :
    (closingClient step since).outbound = .interrupted := rfl

@[simp] theorem outbound_closingUpstream :
    (closingUpstream since).outbound = .interrupted := rfl

@[simp] theorem outbound_closed :
    closed.outbound = .interrupted := rfl

end Views

end Phase

namespace Session

section Projections

variable (s : Session) (direction : Direction) (result : Option PumpResult)
  (x : Stimulus) (ms : Nat)

@[simp] theorem stimulate_bridge :
    (s.stimulate x).bridge = s.bridge.stimulate x := rfl

@[simp] theorem stimulate_phase :
    (s.stimulate x).phase = s.phase := rfl

@[simp] theorem stimulate_latch :
    (s.stimulate x).latch = s.latch := rfl

@[simp] theorem stimulate_summary :
    (s.stimulate x).summary = s.summary := rfl

@[simp] theorem advance_bridge :
    (s.advance ms).bridge = s.bridge := rfl

@[simp] theorem advance_phase :
    (s.advance ms).phase = s.phase := rfl

@[simp] theorem advance_latch :
    (s.advance ms).latch = s.latch := rfl

@[simp] theorem leaveClient_bridge :
    s.leaveClient.bridge = s.bridge := rfl

@[simp] theorem leaveClient_phase :
    s.leaveClient.phase = .closingUpstream s.clock := rfl

@[simp] theorem leaveClient_latch :
    s.leaveClient.latch = s.latch := rfl

@[simp] theorem leaveClient_clock :
    s.leaveClient.clock = s.clock := rfl

@[simp] theorem leaveClient_summary :
    s.leaveClient.summary = s.summary := rfl

@[simp] theorem finish_phase :
    s.finish.phase = .closed := rfl

@[simp] theorem finish_latch :
    s.finish.latch = s.latch := rfl

@[simp] theorem finish_clock :
    s.finish.clock = s.clock := rfl

@[simp] theorem finish_summary :
    s.finish.summary =
      some
        { reason := s.reason
          bytesUp := s.bridge.stats.bytesUp
          bytesDown := s.bridge.stats.bytesDown } := rfl

@[simp] theorem finish_metrics :
    s.finish.bridge.metrics =
      s.bridge.metrics.add (.sessionDuration s.reason) 1 := rfl

@[simp] theorem finish_client :
    s.finish.bridge.client = s.bridge.client := rfl

@[simp] theorem finish_upstream :
    s.finish.bridge.upstream = s.bridge.upstream := rfl

@[simp] theorem finish_slot :
    s.finish.bridge.slot = s.bridge.slot := rfl

@[simp] theorem finish_bufferSize :
    s.finish.bridge.bufferSize = s.bridge.bufferSize := rfl

@[simp] theorem finish_stats :
    s.finish.bridge.stats = s.bridge.stats.setState .closed := rfl

@[simp] theorem fire_bridge :
    (s.fire direction result).bridge = s.bridge := by
  cases result <;> rfl

@[simp] theorem fire_phase :
    (s.fire direction result).phase = s.phase := by
  cases result <;> rfl

@[simp] theorem fire_clock :
    (s.fire direction result).clock = s.clock := by
  cases result <;> rfl

@[simp] theorem fire_summary :
    (s.fire direction result).summary = s.summary := by
  cases result <;> rfl

end Projections

/-- The ways in which a move can go. -/
inductive Change (s : Session) : Move → Session → Prop
  | start
      (hphase : s.phase = .waiting) :
      Change s .start
        { s.enter .opened with
          phase := .relaying .receiving .reading
          bridge.metrics := s.bridge.metrics.add .sessionsTotal 1 }
  | pumpInbound
      {p p' : Inbound} {q : Outbound} {b : Bridge}
      (hphase : s.phase = .relaying p q)
      (hpump : Inbound.Change s.bridge p p' b) :
      Change s (.pump .inbound)
        ({ s with phase := .relaying p' q, bridge := b }.fire .inbound p'.result?)
  | pumpOutbound
      {p : Inbound} {q q' : Outbound} {b : Bridge}
      (hphase : s.phase = .relaying p q)
      (hpump : Outbound.Change s.bridge q q' b) :
      Change s (.pump .outbound)
        ({ s with phase := .relaying p q', bridge := b }.fire .outbound q'.result?)
  | interruptInbound
      {p : Inbound} {q : Outbound}
      (hphase : s.phase = .relaying p q)
      (hfired : s.latch.fired = true)
      (hrunning : p.isRunning = true) :
      Change s (.interrupt .inbound)
        { s with phase := .relaying .interrupted q }
  | interruptOutbound
      {p : Inbound} {q : Outbound}
      (hphase : s.phase = .relaying p q)
      (hfired : s.latch.fired = true)
      (hrunning : q.isRunning = true) :
      Change s (.interrupt .outbound)
        { s with phase := .relaying p .interrupted }
  | beginClosing
      {p : Inbound} {q : Outbound}
      (hphase : s.phase = .relaying p q)
      (hin : p.isRunning = false)
      (hout : q.isRunning = false) :
      Change s .beginClosing
        { s.enter .closing with phase := .closingClient .clearing s.clock }
  | clear
      {since : Nat}
      (hphase : s.phase = .closingClient .clearing since)
      (hhand : s.bridge.handOver.1 = .done ()) :
      Change s .closeClient
        { s with
          bridge := { s.bridge.handOver.2 with slot := some (closeFrame s.reason) }
          phase := .closingClient .handing since }
  | clearFailed
      {since : Nat} {text : String}
      (hphase : s.phase = .closingClient .clearing since)
      (hhand : s.bridge.handOver.1 = .failed text) :
      Change s .closeClient
        { s with
          bridge := s.bridge.handOver.2
          phase := .closingClient .closing since }
  | hand
      {since : Nat}
      (hphase : s.phase = .closingClient .handing since)
      (hhand : s.bridge.handOver.1 = .done ()) :
      Change s .closeClient
        { s with
          bridge := s.bridge.handOver.2
          phase := .closingClient .flushing since }
  | handFailed
      {since : Nat} {text : String}
      (hphase : s.phase = .closingClient .handing since)
      (hhand : s.bridge.handOver.1 = .failed text) :
      Change s .closeClient
        { s with
          bridge := s.bridge.handOver.2
          phase := .closingClient .closing since }
  | flush
      {since : Nat}
      (hphase : s.phase = .closingClient .flushing since)
      (hflush : s.bridge.client.flush.1 ≠ .blocked) :
      Change s .closeClient
        { s with
          bridge.client := s.bridge.client.flush.2
          phase := .closingClient .closing since }
  | empty
      {since : Nat} {frame : Frame}
      (hphase : s.phase = .closingClient .closing since)
      (hslot : s.bridge.slot = some frame)
      (hhand : s.bridge.handOver.1 = .done ()) :
      Change s .closeClient { s with bridge := s.bridge.handOver.2 }
  | emptyFailed
      {since : Nat} {frame : Frame} {text : String}
      (hphase : s.phase = .closingClient .closing since)
      (hslot : s.bridge.slot = some frame)
      (hhand : s.bridge.handOver.1 = .failed text) :
      Change s .closeClient { s with bridge := s.bridge.handOver.2 }.leaveClient
  | close
      {since : Nat}
      (hphase : s.phase = .closingClient .closing since)
      (hslot : s.bridge.slot = none)
      (hclose : s.bridge.client.close.1 ≠ .blocked) :
      Change s .closeClient
        { s with bridge.client := s.bridge.client.close.2 }.leaveClient
  | shutdown
      {since : Nat}
      (hphase : s.phase = .closingUpstream since)
      (hshutdown : s.bridge.upstream.shutdown.1 ≠ .blocked) :
      Change s .closeUpstream
        { s with bridge.upstream := s.bridge.upstream.shutdown.2 }.finish
  | expireClient
      {step : ClientStep} {since : Nat}
      (hphase : s.phase = .closingClient step since)
      (hblocked : s.closeClient = none)
      (hclock : since + closingLimit ≤ s.clock) :
      Change s .expire s.leaveClient
  | expireUpstream
      {since : Nat}
      (hphase : s.phase = .closingUpstream since)
      (hblocked : s.closeUpstream = none)
      (hclock : since + closingLimit ≤ s.clock) :
      Change s .expire s.finish

/-- Every way in which the next call of closing the client can go. -/
theorem change_of_closeClient
    {s s' : Session}
    (hstep : s.closeClient = some s') :
    Change s .closeClient s' := by
  unfold closeClient at hstep
  split at hstep
  · rename_i since hphase
    split at hstep
    · rename_i bridge hhand
      cases hstep
      obtain ⟨hhand, rfl⟩ := Prod.ext_iff.mp hhand
      exact .clear hphase hhand
    · rename_i text bridge hhand
      cases hstep
      obtain ⟨hhand, rfl⟩ := Prod.ext_iff.mp hhand
      exact .clearFailed hphase hhand
    · cases hstep
  · rename_i since hphase
    split at hstep
    · rename_i bridge hhand
      cases hstep
      obtain ⟨hhand, rfl⟩ := Prod.ext_iff.mp hhand
      exact .hand hphase hhand
    · rename_i text bridge hhand
      cases hstep
      obtain ⟨hhand, rfl⟩ := Prod.ext_iff.mp hhand
      exact .handFailed hphase hhand
    · cases hstep
  · rename_i since hphase
    split at hstep
    · cases hstep
    · rename_i outcome client hne hflush
      cases hstep
      obtain ⟨hflush, rfl⟩ := Prod.ext_iff.mp hflush
      exact .flush hphase
        (fun hblocked => hne (hflush.symm.trans hblocked))
  · rename_i since hphase
    split at hstep
    · rename_i frame hslot
      split at hstep
      · rename_i bridge hhand
        cases hstep
        obtain ⟨hhand, rfl⟩ := Prod.ext_iff.mp hhand
        exact .empty hphase hslot hhand
      · rename_i text bridge hhand
        cases hstep
        obtain ⟨hhand, rfl⟩ := Prod.ext_iff.mp hhand
        exact .emptyFailed hphase hslot hhand
      · cases hstep
    · rename_i hslot
      split at hstep
      · cases hstep
      · rename_i outcome client hne hclose
        cases hstep
        obtain ⟨hclose, rfl⟩ := Prod.ext_iff.mp hclose
        exact .close hphase hslot
          (fun hblocked => hne (hclose.symm.trans hblocked))
  · cases hstep

/-- Every move goes in one of these ways. -/
theorem change_of_step
    {s s' : Session} {move : Move}
    (hstep : s.step move = some s') :
    Change s move s' := by
  cases move with
  | start =>
      simp only [step, start] at hstep
      split at hstep
      · rename_i hphase
        cases hstep
        exact .start hphase
      · cases hstep
  | pump direction =>
      cases direction with
      | inbound =>
          simp only [step, pump] at hstep
          split at hstep
          · rename_i p q hphase
            cases hpump : p.step s.bridge with
            | none =>
                simp [hpump] at hstep
            | some next =>
                simp only [hpump] at hstep
                cases hstep
                exact .pumpInbound hphase (Inbound.change_of_step hpump)
          · cases hstep
      | outbound =>
          simp only [step, pump] at hstep
          split at hstep
          · rename_i p q hphase
            cases hpump : q.step s.bridge with
            | none =>
                simp [hpump] at hstep
            | some next =>
                simp only [hpump] at hstep
                cases hstep
                exact .pumpOutbound hphase (Outbound.change_of_step hpump)
          · cases hstep
  | interrupt direction =>
      simp only [step, interrupt] at hstep
      split at hstep
      · rename_i p q hphase
        split at hstep
        · rename_i hcond
          cases hstep
          obtain ⟨hfired, hrunning⟩ := Bool.and_eq_true_iff.mp hcond
          exact .interruptInbound hphase hfired hrunning
        · cases hstep
      · rename_i p q hphase
        split at hstep
        · rename_i hcond
          cases hstep
          obtain ⟨hfired, hrunning⟩ := Bool.and_eq_true_iff.mp hcond
          exact .interruptOutbound hphase hfired hrunning
        · cases hstep
      · cases hstep
  | beginClosing =>
      simp only [step, beginClosing] at hstep
      split at hstep
      · rename_i p q hphase
        split at hstep
        · cases hstep
        · rename_i hcond
          cases hstep
          obtain ⟨hin, hout⟩ := Bool.or_eq_false_iff.mp (Bool.eq_false_iff.mpr hcond)
          exact .beginClosing hphase hin hout
      · cases hstep
  | closeClient =>
      exact change_of_closeClient hstep
  | closeUpstream =>
      simp only [step, closeUpstream] at hstep
      split at hstep
      · rename_i since hphase
        split at hstep
        · cases hstep
        · rename_i outcome upstream hne hshutdown
          cases hstep
          obtain ⟨hshutdown, rfl⟩ := Prod.ext_iff.mp hshutdown
          exact .shutdown hphase
            (fun hblocked => hne (hshutdown.symm.trans hblocked))
      · cases hstep
  | expire =>
      simp only [step, expire] at hstep
      split at hstep
      · rename_i step since hphase
        split at hstep
        · rename_i hcond
          cases hstep
          simp only [Bool.and_eq_true, Option.isNone_iff_eq_none,
            decide_eq_true_eq] at hcond
          exact .expireClient hphase hcond.1 hcond.2
        · cases hstep
      · rename_i since hphase
        split at hstep
        · rename_i hcond
          cases hstep
          simp only [Bool.and_eq_true, Option.isNone_iff_eq_none,
            decide_eq_true_eq] at hcond
          exact .expireUpstream hphase hcond.1 hcond.2
        · cases hstep
      · cases hstep

end Session
end FrameBridge
