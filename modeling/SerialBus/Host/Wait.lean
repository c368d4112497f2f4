import SerialBus.Host.Basic

/-!
# Waiting

A wait polls the status register until it reports the condition or the budget of
the wait is spent.  Every wait starts with a fresh budget, polls at least once,
and looks at its budget only after a poll that saw nothing.

A wait that has neither seen its condition nor spent its budget when the patience
of the policy runs out has no result: it counts as one that never comes back.
-/

set_option autoImplicit false

namespace SerialBus

namespace Host

variable {ρ σ κ : Type} (host : Host ρ σ κ)

/-- Poll for a condition, at most a given number of times. -/
def pollUntil (condition : Condition) :
    Nat → host.waits.Budget → Bus ρ σ κ → Option (Outcome × Bus ρ σ κ)
  | 0, _, _ => none
  | polls + 1, budget, bus =>
      match host.poll condition bus with
      | (true, bus) => some (.ok (), bus)
      | (false, bus) =>
          match host.consult (host.waits.spend budget) bus with
          | ((true, _), bus) => some (.error (.timeout condition), bus)
          | ((false, budget), bus) => pollUntil condition polls budget bus

/-- Wait for a condition. -/
def wait (condition : Condition) (bus : Bus ρ σ κ) : Option (Outcome × Bus ρ σ κ) :=
  let (budget, bus) := host.consult host.waits.start bus
  host.pollUntil condition host.waits.patience budget bus

/-- Wait until everything sent has left the controller. -/
def flush (bus : Bus ρ σ κ) : Option (Outcome × Bus ρ σ κ) :=
  host.wait .txEmpty bus

end Host

end SerialBus
