/-!
# Budgets of a wait

Every wait on the bus polls until it sees what it waits for or until its budget
is spent.  A policy starts a fresh budget for each wait and, after each poll that
saw nothing, is asked whether the budget is spent.

A policy may look at the clock, and in general several times, so both of its
answers are computations that read the clock (`Clocked`).  Two policies are
defined.  `pollLimit` counts polls and never looks at the clock.  `deadline`
looks once at the start and once after every poll, and gives up when the clock
has reached the end of its duration, or the end of the clock if the duration
runs past it.

A clock that stands still keeps a deadline from ever passing, so each policy also
carries a patience: the number of polls after which a wait that is still going on
counts as one that never comes back.  The patience of a poll limit is the limit
itself, so such a wait always comes back.
-/

set_option autoImplicit false

namespace SerialBus

/-! ## Computations that read the clock -/

/-- A computation that may read the clock before it answers. -/
inductive Clocked (α : Type) where
  | answer (value : α)
  | ask (next : UInt64 → Clocked α)

namespace Clocked

variable {α : Type}

/-- The answer when every look at the clock shows the same instant. -/
def answerAt (now : UInt64) : Clocked α → α
  | .answer value => value
  | .ask next => (next now).answerAt now

end Clocked

/-! ## Policies -/

/-- How long a wait goes on. -/
structure WaitPolicy where
  /-- What is left of the budget of one wait. -/
  Budget : Type
  /-- A fresh budget. -/
  start : Clocked Budget
  /-- Account for one poll that saw nothing; true once the budget is spent. -/
  spend : Budget → Clocked (Bool × Budget)
  /-- The number of polls that a wait which comes back needs at most. -/
  patience : Nat

namespace WaitPolicy

/-- The poll limit in force when none is given. -/
def defaultPollLimit : UInt32 := 15000

/-- Give up after a number of polls; a limit of zero still polls once. -/
def pollLimit (limit : UInt32) : WaitPolicy where
  Budget := Nat
  start := .answer (max limit.toNat 1)
  spend := fun left => .answer (left - 1 = 0, left - 1)
  patience := max limit.toNat 1

/-- The last instant of the clock. -/
def endOfClock : UInt64 := 0xFFFFFFFFFFFFFFFF

/-- The instant a duration after another, or the end of the clock if that is past it. -/
def instantAfter (now duration : UInt64) : UInt64 :=
  if now.toNat + duration.toNat < UInt64.size then now + duration else endOfClock

/-- Give up when the clock reaches the end of a duration. -/
def deadline (duration : UInt64) (patience : Nat) : WaitPolicy where
  Budget := UInt64
  start := .ask fun now => .answer (instantAfter now duration)
  spend := fun stop => .ask fun now => .answer (stop ≤ now, stop)
  patience := patience

/-- The same policy, except that a wait counts as one that never comes back after
so many polls. -/
def within (polls : Nat) (policy : WaitPolicy) : WaitPolicy :=
  { policy with patience := min policy.patience polls }

end WaitPolicy

end SerialBus
