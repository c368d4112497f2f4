import Mathlib.Logic.Function.Iterate
import Mathlib.Data.Nat.Find
import SerialBus.Proofs.Handshake

/-!
# The rounds of a wait

A wait goes in rounds.  Each begins with a status read, and when that does not report the
condition, it is accounted for to the budget.  What a round does depends on the condition
only through the question whether the wait goes on after it, so the rounds of a wait can
be laid out in a row as if it never ended (`Host.roundAt`).

The wait ends in the first of its rounds that shows the condition or spends the budget
(`wait_of_ready`, `wait_of_spent`), and in no other way (`wait_cases`).  If neither happens
before the patience of the policy is exhausted, it never comes back (`wait_eq_none`).

On the bus a wait leaves the status reads of its rounds and nothing else; its readings of
the clock are seen by nobody (`Trace.onBus`).
-/

set_option autoImplicit false

namespace SerialBus

variable {ρ σ κ : Type}

/-! ## What can be seen on the bus -/

instance : (event : Event ρ) → Decidable event.IsClock
  | .clock _ => isTrue trivial
  | .enable | .read _ _ | .write _ _ | .line _ | .dma _ | .adapter _ | .delay _ => isFalse id

/-- The events that somebody outside the host can notice: all but readings of the clock. -/
def Trace.onBus (events : List (Event ρ)) : List (Event ρ) :=
  events.filter fun event => ¬ event.IsClock

section OnBus

variable {first second : List (Event ρ)}

@[simp] theorem Trace.onBus_append :
    Trace.onBus (first ++ second) = Trace.onBus first ++ Trace.onBus second :=
  List.filter_append ..

theorem Trace.onBus_clocks (areClocks : ∀ event ∈ first, event.IsClock) :
    Trace.onBus first = [] := by
  apply List.filter_eq_nil_iff.2
  intro event member
  simp [areClocks event member]

@[simp] theorem Trace.onBus_read (register : ρ) (value : UInt32) :
    Trace.onBus [.read register value] = [.read register value] := rfl

end OnBus

/-! ## Rounds in a row -/

namespace Host

variable (host : Host ρ σ κ)

/-- One round of a wait: a status read, and the account of it to the budget. -/
def round (going : host.waits.Budget × Bus ρ σ κ) : host.waits.Budget × Bus ρ σ κ :=
  let polled := (host.read host.controller.status going.2).2
  let accounted := host.consult (host.waits.spend going.1) polled
  (accounted.1.2, accounted.2)

variable (bus : Bus ρ σ κ)

/-- The budget and the bus before the round at an index of a wait that begins on a bus. -/
def roundAt (index : Nat) : host.waits.Budget × Bus ρ σ κ :=
  host.round^[index] (host.consult host.waits.start bus)

/-- What the status read in the round at an index gives. -/
def statusAt (index : Nat) : UInt32 :=
  (host.read host.controller.status (host.roundAt bus index).2).1

/-- The bus right after that status read. -/
def polledAt (index : Nat) : Bus ρ σ κ :=
  (host.read host.controller.status (host.roundAt bus index).2).2

/-- Whether the status read in the round at an index reports a condition. -/
def readyAt (condition : Condition) (index : Nat) : Bool :=
  host.controller.reports condition (host.statusAt bus index)

/-- Whether the budget is spent once the round at an index is accounted for. -/
def spentAt (index : Nat) : Bool :=
  (host.consult (host.waits.spend (host.roundAt bus index).1) (host.polledAt bus index)).1.1

/-- A wait for a condition goes on after the round at an index. -/
def GoesOn (condition : Condition) (index : Nat) : Prop :=
  host.readyAt bus condition index = false ∧ host.spentAt bus index = false

instance (condition : Condition) (index : Nat) : Decidable (host.GoesOn bus condition index) :=
  inferInstanceAs (Decidable (_ ∧ _))

/-- The status reads of so many rounds. -/
def polls (count : Nat) : List (Event ρ) :=
  (List.range count).map fun index => .read host.controller.status (host.statusAt bus index)

theorem roundAt_succ (index : Nat) :
    host.roundAt bus (index + 1) = host.round (host.roundAt bus index) :=
  Function.iterate_succ_apply' ..

theorem polls_succ (count : Nat) :
    host.polls bus (count + 1) =
      host.polls bus count ++ [.read host.controller.status (host.statusAt bus count)] := by
  simp [polls, List.range_succ]

theorem polledAt_eq (index : Nat) :
    host.polledAt bus index =
      host.after [.read host.controller.status (host.statusAt bus index)]
        (host.roundAt bus index).2 := rfl

variable {host bus} {condition : Condition} {index : Nat}

/-- What polling does in the round at an index. -/
theorem pollUntil_roundAt (polls : Nat) :
    host.pollUntil condition (polls + 1) (host.roundAt bus index).1 (host.roundAt bus index).2 =
      if host.readyAt bus condition index then some (.ok (), host.polledAt bus index)
      else if host.spentAt bus index then
        some (.error (.timeout condition), (host.roundAt bus (index + 1)).2)
      else host.pollUntil condition polls (host.roundAt bus (index + 1)).1
        (host.roundAt bus (index + 1)).2 := by
  have polled : host.poll condition (host.roundAt bus index).2 =
      (host.readyAt bus condition index, host.polledAt bus index) := rfl
  rw [pollUntil, polled]
  cases host.readyAt bus condition index with
  | true => rfl
  | false =>
      have next : host.roundAt bus (index + 1) =
          ((host.consult (host.waits.spend (host.roundAt bus index).1)
              (host.polledAt bus index)).1.2,
            (host.consult (host.waits.spend (host.roundAt bus index).1)
              (host.polledAt bus index)).2) := host.roundAt_succ bus index
      rw [next, spentAt]
      dsimp only
      rcases host.consult (host.waits.spend (host.roundAt bus index).1)
        (host.polledAt bus index) with ⟨⟨spent, _⟩, _⟩
      cases spent with
      | true => rfl
      | false => rfl

/-- The rounds after which a wait goes on lead from its beginning to the next one. -/
theorem pollUntil_of_goesOn (goesOn : ∀ earlier < index, host.GoesOn bus condition earlier)
    (polls : Nat) :
    host.pollUntil condition (index + polls) (host.roundAt bus 0).1 (host.roundAt bus 0).2 =
      host.pollUntil condition polls (host.roundAt bus index).1 (host.roundAt bus index).2 := by
  induction index generalizing polls with
  | zero => rw [Nat.zero_add]
  | succ index ih =>
      obtain ⟨unready, unspent⟩ := goesOn index (Nat.lt_succ_self index)
      have before := ih (fun earlier inside => goesOn earlier (Nat.lt_succ_of_lt inside))
        (polls + 1)
      rw [Nat.succ_add_eq_add_succ, before, pollUntil_roundAt]
      simp [unready, unspent]

/-- A wait that gets to a round before its patience is exhausted. -/
theorem wait_of_goesOn (goesOn : ∀ earlier < index, host.GoesOn bus condition earlier)
    (patient : index < host.waits.patience) :
    ∃ polls, host.wait condition bus =
      host.pollUntil condition (polls + 1) (host.roundAt bus index).1
        (host.roundAt bus index).2 := by
  obtain ⟨polls, left⟩ := Nat.exists_eq_add_of_lt patient
  refine ⟨polls, ?_⟩
  rw [← pollUntil_of_goesOn goesOn, ← Nat.add_assoc, ← left]
  rfl

/-- A wait that sees its condition in a round ends there. -/
theorem wait_of_ready (patient : index < host.waits.patience)
    (goesOn : ∀ earlier < index, host.GoesOn bus condition earlier)
    (ready : host.readyAt bus condition index = true) :
    host.wait condition bus = some (.ok (), host.polledAt bus index) := by
  obtain ⟨polls, waits⟩ := wait_of_goesOn goesOn patient
  rw [waits, pollUntil_roundAt, if_pos ready]

/-- A wait that has spent its budget in a round without seeing its condition ends there. -/
theorem wait_of_spent (patient : index < host.waits.patience)
    (goesOn : ∀ earlier < index, host.GoesOn bus condition earlier)
    (unready : host.readyAt bus condition index = false)
    (spent : host.spentAt bus index = true) :
    host.wait condition bus =
      some (.error (.timeout condition), (host.roundAt bus (index + 1)).2) := by
  obtain ⟨polls, waits⟩ := wait_of_goesOn goesOn patient
  rw [waits, pollUntil_roundAt, unready, if_neg Bool.false_ne_true, if_pos spent]

/-- A wait that goes on after every round never comes back. -/
theorem wait_eq_none
    (goesOn : ∀ index < host.waits.patience, host.GoesOn bus condition index) :
    host.wait condition bus = none :=
  pollUntil_of_goesOn goesOn 0

/-- A wait that comes back has ended in one of its rounds. -/
theorem wait_cases {outcome : Outcome} {after : Bus ρ σ κ}
    (result : host.wait condition bus = some (outcome, after)) :
    ∃ index < host.waits.patience, (∀ earlier < index, host.GoesOn bus condition earlier) ∧
      (host.readyAt bus condition index = true ∧ outcome = .ok () ∧
          after = host.polledAt bus index ∨
        host.readyAt bus condition index = false ∧ host.spentAt bus index = true ∧
          outcome = .error (.timeout condition) ∧ after = (host.roundAt bus (index + 1)).2) := by
  -- the first round after which the wait does not go on, with or without regard to patience
  by_cases ends : ∃ index, ¬ host.GoesOn bus condition index
  · have goesOn : ∀ earlier < Nat.find ends, host.GoesOn bus condition earlier :=
      fun earlier before => not_not.1 (Nat.find_min ends before)
    have patient : Nat.find ends < host.waits.patience := by
      by_contra exhausted
      have waits := wait_eq_none fun index inside =>
        goesOn index (Nat.lt_of_lt_of_le inside (Nat.not_lt.1 exhausted))
      simp [waits] at result
    refine ⟨_, patient, goesOn, ?_⟩
    cases ready : host.readyAt bus condition (Nat.find ends) with
    | true =>
        rw [wait_of_ready patient goesOn ready] at result
        simp only [Option.some.injEq, Prod.mk.injEq] at result
        exact .inl ⟨rfl, result.1.symm, result.2.symm⟩
    | false =>
        have spent : host.spentAt bus (Nat.find ends) = true := by
          by_contra unspent
          exact Nat.find_spec ends ⟨ready, Bool.not_eq_true _ ▸ unspent⟩
        rw [wait_of_spent patient goesOn ready spent] at result
        simp only [Option.some.injEq, Prod.mk.injEq] at result
        exact .inr ⟨rfl, spent, result.1.symm, result.2.symm⟩
  · have waits := wait_eq_none fun index _ => not_not.1 (not_exists.1 ends index)
    simp [waits] at result

/-! ## What rounds leave on the bus -/

variable (host bus)

/-- Rounds leave their status reads on the bus. -/
theorem roundAt_after (index : Nat) :
    ∃ events, (host.roundAt bus index).2 = host.after events bus ∧
      Trace.onBus events = host.polls bus index := by
  induction index with
  | zero =>
      obtain ⟨budget, clocks, areClocks, consulted⟩ := host.consult_eq host.waits.start bus
      exact ⟨clocks, congrArg Prod.snd consulted, Trace.onBus_clocks areClocks⟩
  | succ index ih =>
      obtain ⟨events, rounds, seen⟩ := ih
      obtain ⟨accounted, clocks, areClocks, consulted⟩ := host.consult_eq
        (host.waits.spend (host.roundAt bus index).1) (host.polledAt bus index)
      refine ⟨events ++ (.read host.controller.status (host.statusAt bus index) :: clocks), ?_, ?_⟩
      · rw [← after_after, ← rounds, ← List.singleton_append, ← after_after, ← polledAt_eq,
          roundAt_succ]
        exact congrArg Prod.snd consulted
      · rw [← List.singleton_append, Trace.onBus_append, Trace.onBus_append, seen,
          Trace.onBus_clocks areClocks, polls_succ]
        rfl

/-- The status read that ends a wait is the last of its rounds. -/
theorem polledAt_after (index : Nat) :
    ∃ events, host.polledAt bus index = host.after events bus ∧
      Trace.onBus events = host.polls bus (index + 1) := by
  obtain ⟨events, rounds, seen⟩ := host.roundAt_after bus index
  refine ⟨events ++ [.read host.controller.status (host.statusAt bus index)], ?_, ?_⟩
  · rw [polledAt_eq, rounds, after_after]
  · rw [Trace.onBus_append, seen, polls_succ]
    rfl

end Host

end SerialBus
