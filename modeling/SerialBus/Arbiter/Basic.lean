import SerialBus.Failure

/-!
# The arbiter of a shared bus

An arbiter is one advisory lock flag and a count of the attempts it turned away.
Taking the lock never blocks: a caller that finds it taken is told so and decides
for itself when to try again.  Releasing clears the flag whoever asks for it, so
the flag says that someone holds the bus, and only the discipline of the callers
makes that one caller.

A guard is what a caller holds after it acquired the bus.  It names its arbiter,
and dropping it releases that arbiter.
-/

set_option autoImplicit false

namespace SerialBus

/-- The lock of one bus, with the number of attempts it has turned away. -/
structure Arbiter where
  locked : Bool := false
  rejected : UInt64 := 0
  deriving DecidableEq, Repr, Inhabited

/-- Why an arbiter turns an attempt away. -/
inductive LockFailure where
  /-- Another holder has not yet released the bus. -/
  | busy
  deriving DecidableEq, Repr

namespace LockFailure

/-- The wording of a rejected attempt. -/
def message : LockFailure → String
  | .busy => "bus is held by another caller"

/-- The name of the cause. -/
def text : LockFailure → String
  | .busy => "Busy"

/-- A rejected attempt as a failure of a bus operation. -/
def toFailure : LockFailure → Failure
  | .busy => .busy

end LockFailure

/-- A holder's right to one bus, named by the number of its arbiter. -/
structure Guard where
  arbiter : Nat
  deriving DecidableEq, Repr

namespace Arbiter

/-- Try to take the lock.  An attempt that is turned away changes only the count. -/
def tryLock (arbiter : Arbiter) : Bool × Arbiter :=
  if arbiter.locked then (false, { arbiter with rejected := arbiter.rejected + 1 })
  else (true, { arbiter with locked := true })

/-- Clear the lock, whether or not it is taken. -/
def release (arbiter : Arbiter) : Arbiter :=
  { arbiter with locked := false }

/-- Whether the bus is held.  The answer may be out of date as soon as it is given. -/
def isLocked (arbiter : Arbiter) : Bool :=
  arbiter.locked

/-- The number of attempts that were turned away. -/
def contentionCount (arbiter : Arbiter) : UInt64 :=
  arbiter.rejected

/-- Take the lock of the arbiter with a number, for as long as the guard is held. -/
def acquire (number : Nat) (arbiter : Arbiter) : Except LockFailure Guard × Arbiter :=
  match arbiter.tryLock with
  | (true, arbiter) => (.ok ⟨number⟩, arbiter)
  | (false, arbiter) => (.error .busy, arbiter)

end Arbiter

end SerialBus
