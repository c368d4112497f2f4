import SerialBus.Host.Exchange

/-!
# Transactions of a device adapter

A device adapter puts a select pin of its own in front of the bus and makes its
calls for a driver.  It is a library of its own, so it is a parameter here: an
adapter is any function from the operations of a transaction to what comes back
(`Adapter`), and what is known of it is what its documentation promises
(`Adapter.Documented`).  A transaction drives the pin low, carries out operations
in order until one of them fails, waits until everything sent has left the
controller whether or not one has failed, and drives the pin high again.  It
reports the failure of the operation, and only without one that of the last wait.

An operation carries its own buffers, so the operations that come back from a
transaction show what was received.

`Host.transact` keeps these promises and does nothing else.  It is the adapter that
transactions among the calls of a host go through.
-/

set_option autoImplicit false

namespace SerialBus

/-- One operation of a transaction on words of a width. -/
inductive Operation (w : Width) where
  | receive (incoming : List w.Word)
  | transmit (outgoing : List w.Word)
  | transfer (incoming outgoing : List w.Word)
  | transferInPlace (words : List w.Word)
  /-- Let time pass, once everything sent has left the controller. -/
  | delay (nanoseconds : UInt32)

/-- The buffer of an operation that holds what was received, if it has one. -/
def Operation.received? {w : Width} : Operation w → Option (List w.Word)
  | .receive incoming => some incoming
  | .transmit _ => none
  | .transfer incoming _ => some incoming
  | .transferInPlace words => some words
  | .delay _ => none

/-- A bus to which a device adapter was attached, which takes its pin high. -/
def Bus.attachAdapter {ρ σ κ : Type} (bus : Bus ρ σ κ) : Bus ρ σ κ :=
  bus.note (.adapter .high)

/-- Let time pass on the hardware. -/
def Host.elapse {ρ σ κ : Type} (host : Host ρ σ κ) (nanoseconds : UInt32) (bus : Bus ρ σ κ) :
    Bus ρ σ κ :=
  { bus with
    hardware := host.hardware.elapse nanoseconds bus.hardware
    history := .delay nanoseconds :: bus.history }

/-! ## What is promised of an adapter -/

section Adapter

variable {ρ σ κ : Type} (host : Host ρ σ κ) {w : Width}

/-- One operation on a bus: a transfer is the call of its name, and a delay is a flush and,
unless that fails, the time that passes. -/
inductive Operation.Performed (bus : Bus ρ σ κ) :
    Operation w → Outcome → Operation w → Bus ρ σ κ → Prop where
  | receive {incoming received : List w.Word} {outcome : Outcome} {after : Bus ρ σ κ}
      (answered : host.receive w incoming bus = some (outcome, received, after)) :
      Performed bus (.receive incoming) outcome (.receive received) after
  | transmit {outgoing : List w.Word} {outcome : Outcome} {after : Bus ρ σ κ}
      (answered : host.transmit w outgoing bus = some (outcome, after)) :
      Performed bus (.transmit outgoing) outcome (.transmit outgoing) after
  | transfer {incoming outgoing received : List w.Word} {outcome : Outcome} {after : Bus ρ σ κ}
      (answered : host.transfer w incoming outgoing bus = some (outcome, received, after)) :
      Performed bus (.transfer incoming outgoing) outcome (.transfer received outgoing) after
  | transferInPlace {words received : List w.Word} {outcome : Outcome} {after : Bus ρ σ κ}
      (answered : host.transferInPlace w words bus = some (outcome, received, after)) :
      Performed bus (.transferInPlace words) outcome (.transferInPlace received) after
  | delay {nanoseconds : UInt32} {flushed : Bus ρ σ κ}
      (drained : host.flush bus = some (.ok (), flushed)) :
      Performed bus (.delay nanoseconds) (.ok ()) (.delay nanoseconds)
        (host.elapse nanoseconds flushed)
  | undrained {nanoseconds : UInt32} {failure : Failure} {flushed : Bus ρ σ κ}
      (failed : host.flush bus = some (.error failure, flushed)) :
      Performed bus (.delay nanoseconds) (.error failure) (.delay nanoseconds) flushed

/-- Operations on a bus in order, up to the first that fails.  Those behind it come back as
they were. -/
inductive Operation.PerformedInOrder :
    Bus ρ σ κ → List (Operation w) → Outcome → List (Operation w) → Bus ρ σ κ → Prop where
  | nil {bus : Bus ρ σ κ} : PerformedInOrder bus [] (.ok ()) [] bus
  | failed {bus after : Bus ρ σ κ} {operation done : Operation w}
      {unreached : List (Operation w)} {failure : Failure}
      (performed : operation.Performed host bus (.error failure) done after) :
      PerformedInOrder bus (operation :: unreached) (.error failure) (done :: unreached) after
  | next {bus mid after : Bus ρ σ κ} {operation done : Operation w}
      {rest restDone : List (Operation w)} {outcome : Outcome}
      (performed : operation.Performed host bus (.ok ()) done mid)
      (later : PerformedInOrder mid rest outcome restDone after) :
      PerformedInOrder bus (operation :: rest) outcome (done :: restDone) after

variable (ρ σ κ w) in
/-- A device adapter in front of a bus.  If a transaction comes back, it comes back with an
outcome, its operations with what they received, and the bus. -/
abbrev Adapter :=
  List (Operation w) → Bus ρ σ κ → Option (Outcome × List (Operation w) × Bus ρ σ κ)

variable (ρ σ κ) in
/-- The course of one transaction: the bus behind each of its steps, and what the operations
and the last wait came to. -/
structure Adapter.Course where
  lowered : Bus ρ σ κ
  carried : Outcome
  performed : Bus ρ σ κ
  drained : Outcome
  flushed : Bus ρ σ κ

/-- What is promised of a transaction that took a course. -/
structure Adapter.Course.Kept (course : Adapter.Course ρ σ κ) (operations : List (Operation w))
    (bus : Bus ρ σ κ) (outcome : Outcome) (done : List (Operation w)) (after : Bus ρ σ κ) :
    Prop where
  /-- The pin goes low first. -/
  lowers : course.lowered = bus.note (.adapter .low)
  /-- The operations follow in order, until one fails. -/
  performs : Operation.PerformedInOrder host course.lowered operations course.carried done
    course.performed
  /-- The bus is flushed, whatever the operations came to. -/
  flushes : host.flush course.performed = some (course.drained, course.flushed)
  /-- The pin goes high last. -/
  raises : after = course.flushed.note (.adapter .high)
  /-- The failure of an operation is reported. -/
  reportsFailure : ∀ failure, course.carried = .error failure → outcome = .error failure
  /-- Without one, the outcome of the flush is reported. -/
  reportsFlush : course.carried = .ok () → outcome = course.drained

/-- What the documentation of an adapter promises: every transaction that comes back took
such a course. -/
def Adapter.Documented (adapter : Adapter ρ σ κ w) : Prop :=
  ∀ operations bus outcome done after, adapter operations bus = some (outcome, done, after) →
    ∃ course : Adapter.Course ρ σ κ, course.Kept host operations bus outcome done after

end Adapter

/-! ## An adapter that keeps its promises -/

namespace Host

variable {ρ σ κ : Type} (host : Host ρ σ κ)

/-- Carry out one operation, and give it back with what it received. -/
def operate {w : Width} (bus : Bus ρ σ κ) :
    Operation w → Option (Outcome × Operation w × Bus ρ σ κ)
  | .receive incoming =>
      (host.receive w incoming bus).map fun (outcome, incoming, bus) =>
        (outcome, .receive incoming, bus)
  | .transmit outgoing =>
      (host.transmit w outgoing bus).map fun (outcome, bus) => (outcome, .transmit outgoing, bus)
  | .transfer incoming outgoing =>
      (host.transfer w incoming outgoing bus).map fun (outcome, incoming, bus) =>
        (outcome, .transfer incoming outgoing, bus)
  | .transferInPlace words =>
      (host.transferInPlace w words bus).map fun (outcome, words, bus) =>
        (outcome, .transferInPlace words, bus)
  | .delay nanoseconds =>
      (host.flush bus).map fun
        | (.error failure, bus) => (.error failure, .delay nanoseconds, bus)
        | (.ok (), bus) => (.ok (), .delay nanoseconds, host.elapse nanoseconds bus)

/-- Carry out operations up to the first that fails. -/
def operateAll {w : Width} (bus : Bus ρ σ κ) :
    List (Operation w) → Option (Outcome × List (Operation w) × Bus ρ σ κ)
  | [] => some (.ok (), [], bus)
  | operation :: rest =>
      match host.operate bus operation with
      | none => none
      | some (.error failure, operation, bus) => some (.error failure, operation :: rest, bus)
      | some (.ok (), operation, bus) =>
          (operateAll bus rest).map fun (outcome, rest, bus) => (outcome, operation :: rest, bus)

/-- The operations of a transaction between the two drives of the pin, with the
wait that always follows them. -/
def transact {w : Width} (operations : List (Operation w)) (bus : Bus ρ σ κ) :
    Option (Outcome × List (Operation w) × Bus ρ σ κ) :=
  match host.operateAll (bus.note (.adapter .low)) operations with
  | none => none
  | some (outcome, operations, bus) =>
      (host.flush bus).map fun (drained, bus) =>
        let reported := match outcome with
          | .error failure => .error failure
          | .ok () => drained
        (reported, operations, bus.note (.adapter .high))

variable {host} {w : Width} {bus after : Bus ρ σ κ} {outcome : Outcome}

/-- The host performs one operation as an adapter is to perform it. -/
theorem performed_iff {operation done : Operation w} :
    operation.Performed host bus outcome done after ↔
      host.operate bus operation = some (outcome, done, after) := by
  constructor
  · intro performed
    cases performed with
    | receive answered | transmit answered | transfer answered | transferInPlace answered
    | delay answered | undrained answered =>
        rw [operate, answered]
        rfl
  · intro result
    cases operation with
    | receive incoming =>
        obtain ⟨⟨_, _, _⟩, answered, same⟩ := Option.map_eq_some_iff.1 result
        cases same
        exact .receive answered
    | transmit outgoing =>
        obtain ⟨⟨_, _⟩, answered, same⟩ := Option.map_eq_some_iff.1 result
        cases same
        exact .transmit answered
    | transfer incoming outgoing =>
        obtain ⟨⟨_, _, _⟩, answered, same⟩ := Option.map_eq_some_iff.1 result
        cases same
        exact .transfer answered
    | transferInPlace words =>
        obtain ⟨⟨_, _, _⟩, answered, same⟩ := Option.map_eq_some_iff.1 result
        cases same
        exact .transferInPlace answered
    | delay nanoseconds =>
        obtain ⟨⟨drained, _⟩, flushed, same⟩ := Option.map_eq_some_iff.1 result
        cases drained with
        | ok =>
            cases same
            exact .delay flushed
        | error failure =>
            cases same
            exact .undrained flushed

/-- The host performs operations as an adapter is to perform them. -/
theorem performedInOrder_iff {operations done : List (Operation w)} :
    Operation.PerformedInOrder host bus operations outcome done after ↔
      host.operateAll bus operations = some (outcome, done, after) := by
  constructor
  · intro performed
    induction performed with
    | nil => rfl
    | failed performed => rw [operateAll, performed_iff.1 performed]
    | next performed _ ih =>
        rw [operateAll, performed_iff.1 performed]
        dsimp only
        rw [ih]
        rfl
  · intro result
    induction operations generalizing bus done with
    | nil =>
        cases result
        exact .nil
    | cons operation rest ih =>
        rw [operateAll] at result
        split at result
        next => cases result
        next operated =>
          cases result
          exact .failed (performed_iff.2 operated)
        next operated =>
          obtain ⟨⟨_, _, _⟩, later, same⟩ := Option.map_eq_some_iff.1 result
          cases same
          exact .next (performed_iff.2 operated) (ih later)

end Host

end SerialBus
