import SerialBus.Proofs.Handshake

/-!
# The deeds of a call

Of all that a call may do, few things matter to later calls: the bus was brought
up, a device was configured, selected or released, a transfer ran into a fault.
These are the deeds of a call, and its reply tells which of them it did
(`Call.deeds`).

What a deed does to a bus is one constructor of `Host.Enacted`, with the guard under
which it happens.  A call does some traffic and then its deeds (`Host.Leads`), so what
traffic and deeds keep, every call keeps.
-/

set_option autoImplicit false

namespace SerialBus

variable {ρ σ κ : Type}

/-! ## Deeds -/

/-- Something that a call does and that matters to later calls. -/
inductive Deed where
  | bringUp
  | configure (device : Device) (mode : Mode) (baudHz : UInt32)
  | select (device : Device)
  | release (device : Device)
  /-- A transfer timed out. -/
  | fault
  deriving DecidableEq, Repr

/-- The deeds of a transfer with a failure or without one. -/
def faults : Option Failure → List Deed
  | some (.timeout _) => [.fault]
  | _ => []

/-- The deeds of a transaction: a timeout of the wait for everything sent to leave the
controller is not one of a transfer. -/
def transactionFaults : Option Failure → List Deed
  | some (.timeout .txEmpty) => []
  | failure => faults failure

/-- The deeds of a call, as its reply tells them. -/
def Call.deeds (reply : Reply) : Call → List Deed
  | .bringUp _ => [.bringUp]
  | .configure device mode baudHz =>
      if reply.failure? = none then [.configure device mode baudHz] else []
  | .select device => if reply.failure? = none then [.select device] else []
  | .openSession _ device mode baudHz =>
      if reply.failure? = none then [.configure device mode baudHz, .select device] else []
  | .deselect device => if reply.isOutOfOrder then [] else [.release device]
  | .closeSession session => if reply.isOutOfOrder then [] else [.release session.device]
  | .abandonSession session => if session.isOpen then [.release session.device] else []
  | .transceive _ _ _ _ | .receive _ _ | .transmit _ _ | .transfer _ _ _
  | .transferInPlace _ _ => faults reply.failure?
  | .transact _ _ => transactionFaults reply.failure?
  | .flush | .drain _ | .prepareDma | .transmitByDma _ _ _ | .receiveByDma _ _ _
  | .clearOverrun => []

/-- The failure of an outcome. -/
def Outcome.failure? : Outcome → Option Failure
  | .ok () => none
  | .error failure => some failure

@[simp] theorem Reply.failure?_outcome (outcome : Outcome) :
    (Reply.outcome outcome).failure? = outcome.failure? := by
  cases outcome <;> rfl

@[simp] theorem Reply.failure?_exchanged (w : Width) (outcome : Outcome)
    (incoming : Option (List w.Word)) :
    (Reply.exchanged w outcome incoming).failure? = outcome.failure? := by
  cases outcome <;> rfl

@[simp] theorem Reply.failure?_transacted (w : Width) (outcome : Outcome)
    (operations : List (Operation w)) :
    (Reply.transacted w outcome operations).failure? = outcome.failure? := by
  cases outcome <;> rfl

theorem faults_cases (failure : Option Failure) :
    faults failure = [] ∨ faults failure = [.fault] := by
  unfold faults
  split
  · exact .inr rfl
  · exact .inl rfl

theorem transactionFaults_cases (failure : Option Failure) :
    transactionFaults failure = [] ∨ transactionFaults failure = [.fault] := by
  unfold transactionFaults
  split
  · exact .inl rfl
  · exact faults_cases _

/-- An event that neither changes a register nor drives a chip-select line. -/
def Event.Quiet : Event ρ → Prop
  | .enable | .write _ _ | .line _ => False
  | _ => True

theorem Event.Quiet.traffic {controller : Controller ρ} {event : Event ρ} (quiet : event.Quiet) :
    event.Traffic controller := by
  cases event with
  | enable | write | line => exact quiet.elim
  | _ => exact trivial

theorem Event.Waiting.quiet {controller : Controller ρ} {event : Event ρ}
    (waiting : event.Waiting controller) : event.Quiet := by
  rcases waiting with clock | ⟨value, rfl⟩
  · cases event with
    | clock => exact trivial
    | _ => exact clock.elim
  · exact trivial

namespace Host

variable (host : Host ρ σ κ)

/-! ## What a deed does to a bus -/

/-- A deed, from a bus that allows it to the bus that it leaves behind. -/
inductive Enacted : Deed → Bus ρ σ κ → Bus ρ σ κ → Prop where
  | bringUp {bus : Bus ρ σ κ} (down : bus.up = false) :
      Enacted .bringUp bus { host.run (host.controller.bringUp host.clockHz) bus with
        up := true
        stage := .idle }
  /-- Only the first time does bringing a bus up do anything. -/
  | bringUpAgain {bus : Bus ρ σ κ} (up : bus.up = true) : Enacted .bringUp bus bus
  | configure {bus : Bus ρ σ κ} {device : Device} {mode : Mode} {baudHz divisor : UInt32}
      (allowed : host.refusal bus.configureBreach = none)
      (legal : host.controller.divisor host.clockHz baudHz = some divisor) :
      Enacted (.configure device mode baudHz) bus
        { host.run (host.controller.configure device mode divisor) bus with
          configured := some device
          stage := .configured }
  | select {bus : Bus ρ σ κ} {device : Device}
      (allowed : host.refusal (bus.selectBreach device) = none) :
      Enacted (.select device) bus
        { host.drive device.line .low (host.run (host.controller.select device) bus) with
          stage := .selected }
  | release {bus : Bus ρ σ κ} {device : Device}
      (allowed : host.refusal bus.deselectBreach = none) :
      Enacted (.release device) bus (host.letGo device bus)
  /-- A session that is abandoned while no device is selected releases nothing. -/
  | releaseNothing {bus : Bus ρ σ κ} {device : Device} {failure : Failure}
      (refused : host.refusal bus.deselectBreach = some failure) :
      Enacted (.release device) bus bus
  | fault {bus : Bus ρ σ κ} (allowed : host.refusal bus.exchangeBreach = none) :
      Enacted .fault bus
        (bus.setStage (if bus.stage = .selected then .faulted else bus.stage))

/-- Deeds, one after the other. -/
inductive Enacts : List Deed → Bus ρ σ κ → Bus ρ σ κ → Prop where
  | nil {bus : Bus ρ σ κ} : Enacts [] bus bus
  | cons {deed : Deed} {deeds : List Deed} {bus mid after : Bus ρ σ κ}
      (first : host.Enacted deed bus mid) (rest : Enacts deeds mid after) :
      Enacts (deed :: deeds) bus after

/-- Traffic followed by deeds.  Units go out only while the order of calls allows it. -/
def Leads (deeds : List Deed) (bus after : Bus ρ σ κ) : Prop :=
  ∃ events, (∀ event ∈ events, event.Traffic host.controller) ∧
    ((∃ value, .write host.controller.transmit value ∈ events) →
      host.refusal bus.exchangeBreach = none) ∧
    host.Enacts deeds (host.after events bus) after

variable {host} {deeds : List Deed} {bus mid after : Bus ρ σ κ} {events : List (Event ρ)}

theorem Leads.nothing : host.Leads [] bus bus :=
  ⟨[], by simp, by simp, .nil⟩

/-- Quiet traffic leads anywhere that the order of calls does not matter. -/
theorem Leads.of_quiet (quiet : ∀ event ∈ events, event.Quiet) :
    host.Leads [] bus (host.after events bus) := by
  refine ⟨events, fun event member => (quiet event member).traffic, ?_, .nil⟩
  rintro ⟨value, member⟩
  exact (quiet _ member).elim

theorem Leads.trans (first : host.Leads [] bus mid) (second : host.Leads deeds mid after) :
    host.Leads deeds bus after := by
  obtain ⟨before, beforeTraffic, beforeAllowed, enacts⟩ := first
  obtain ⟨later, laterTraffic, laterAllowed, enacted⟩ := second
  cases enacts
  refine ⟨before ++ later, ?_, ?_, host.after_after .. ▸ enacted⟩
  · intro event member
    rcases List.mem_append.1 member with member | member
    · exact beforeTraffic event member
    · exact laterTraffic event member
  · rintro ⟨value, member⟩
    rcases List.mem_append.1 member with member | member
    · exact beforeAllowed ⟨value, member⟩
    · exact laterAllowed ⟨value, member⟩

/-- A fault is the same before traffic and after it. -/
theorem Enacts.faults_after {failure : Option Failure} (events : List (Event ρ))
    (enacts : host.Enacts (transactionFaults failure) bus mid) :
    host.Enacts (transactionFaults failure) (host.after events bus) (host.after events mid) := by
  rcases transactionFaults_cases failure with nothing | fault
  · rw [nothing] at enacts ⊢
    cases enacts
    exact .nil
  · rw [fault] at enacts ⊢
    cases enacts with
    | cons first rest =>
        cases rest
        cases first with
        | fault allowed => exact .cons (.fault allowed) .nil

theorem Leads.then_quiet {failure : Option Failure}
    (leads : host.Leads (transactionFaults failure) bus mid)
    (quiet : ∀ event ∈ events, event.Quiet) :
    host.Leads (transactionFaults failure) bus (host.after events mid) := by
  obtain ⟨before, traffic, allowed, enacts⟩ := leads
  refine ⟨before ++ events, ?_, ?_, host.after_after .. ▸ enacts.faults_after events⟩
  · intro event member
    rcases List.mem_append.1 member with member | member
    · exact traffic event member
    · exact (quiet event member).traffic
  · rintro ⟨value, member⟩
    rcases List.mem_append.1 member with member | member
    · exact allowed ⟨value, member⟩
    · exact (quiet _ member).elim

@[simp] theorem refusal_none : host.refusal none = none := by
  unfold refusal
  split
  · rfl
  · rfl

end Host

end SerialBus
