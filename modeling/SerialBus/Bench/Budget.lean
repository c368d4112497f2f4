import SerialBus.WaitPolicy

/-!
# Budgets on a bench

A bench knows two limits for its waits, a number of polls or a number of ticks of
the clock.  Whatever the limit, a script that reads the status register more than
`maxStatusReads` times counts as one that never comes to an end.

To see a timeout policy at work without a bus, a fresh budget is charged again and
again while the clock moves on by a fixed step after each charge.  The answers to
the charges, in order, show when the budget was spent first and whether it stayed
spent.
-/

set_option autoImplicit false

namespace SerialBus

namespace Bench

/-- How many reads of the status register a script may make in all. -/
def maxStatusReads : Nat := 300000

/-- The limit of the waits of a script. -/
inductive Limit where
  | polls (count : UInt32)
  | ticks (count : UInt64)
  deriving DecidableEq, Repr

/-- The policy of a limit, whose waits count as endless past `maxStatusReads`. -/
def Limit.policy : Limit → WaitPolicy
  | .polls count => (WaitPolicy.pollLimit count).within (maxStatusReads + 1)
  | .ticks count => .deadline count (maxStatusReads + 1)

/-- The answers to so many charges of a budget, and the clock after them. -/
def charge (policy : WaitPolicy) (step : UInt64) :
    Nat → policy.Budget → UInt64 → List Bool → List Bool × UInt64
  | 0, _, now, answers => (answers.reverse, now)
  | calls + 1, budget, now, answers =>
      let (spent, budget) := (policy.spend budget).answerAt now
      charge policy step calls budget (WaitPolicy.instantAfter now step) (spent :: answers)

/-- The answers to charges of several budgets, one after another on one clock. -/
def chargeAll (policy : WaitPolicy) (step : UInt64) (calls : Nat) :
    (budgets : Nat) → (now : UInt64) → List (List Bool)
  | 0, _ => []
  | budgets + 1, now =>
      let (answers, later) := charge policy step calls (policy.start.answerAt now) now []
      answers :: chargeAll policy step calls budgets later

/-- The number of the first charge that found the budget spent, counted from one. -/
def firstSpent? (answers : List Bool) : Option Nat :=
  (answers.findIdx? id).map (· + 1)

/-- How many charges found the budget spent. -/
def spentCount (answers : List Bool) : Nat :=
  answers.count true

end Bench

end SerialBus
