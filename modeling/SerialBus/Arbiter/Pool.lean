import SerialBus.Arbiter.Basic

/-!
# Several arbiters and their guards

A pool holds arbiters, one for each bus, and the guards that are alive, each in a
numbered place.  A step either works on an arbiter directly, by the number of the
arbiter, or on a guard, by its place.  Steps that only ask change nothing.

A guard that is put into a place that holds another takes the place first, and
the older guard is dropped afterwards.  So a caller that manages to acquire an
arbiter into the place of a guard for the same arbiter ends up with a guard for a
lock that has just been released.
-/

set_option autoImplicit false

namespace SerialBus

/-- Arbiters, and the guards that are alive by their places. -/
structure Pool where
  arbiters : List Arbiter
  guards : List (Nat × Guard) := []
  deriving Repr

namespace Pool

/-- Arbiters that nobody has touched. -/
def fresh (count : Nat) : Pool where
  arbiters := List.replicate count {}

/-- The arbiter with a number. -/
def arbiter (pool : Pool) (number : Nat) : Arbiter :=
  pool.arbiters.getD number {}

/-- A pool with one arbiter replaced. -/
def update (pool : Pool) (number : Nat) (arbiter : Arbiter) : Pool :=
  { pool with arbiters := pool.arbiters.set number arbiter }

/-- The guard in a place. -/
def guard? (pool : Pool) (place : Nat) : Option Guard :=
  pool.guards.lookup place

/-- A pool without the guard in a place; the guard itself is not dropped. -/
def vacate (pool : Pool) (place : Nat) : Pool :=
  { pool with guards := pool.guards.filter fun entry => entry.1 ≠ place }

/-- Release the arbiter with a number. -/
def release (pool : Pool) (number : Nat) : Pool :=
  pool.update number (pool.arbiter number).release

/-- Drop a guard that is in no place any more. -/
def discard (pool : Pool) (guard : Option Guard) : Pool :=
  match guard with
  | none => pool
  | some guard => pool.release guard.arbiter

/-! ## Steps -/

/-- What a client can do. -/
inductive Step where
  | tryLock (number : Nat)
  | release (number : Nat)
  /-- Acquire an arbiter and keep the guard in a place. -/
  | acquire (number place : Nat)
  /-- Acquire an arbiter and drop the guard at once. -/
  | acquireBriefly (number : Nat)
  /-- Drop the guard in a place. -/
  | drop (place : Nat)
  /-- Ask for the arbiter of the guard in a place. -/
  | owner (place : Nat)
  /-- Ask whether an arbiter is held. -/
  | isLocked (number : Nat)
  /-- Ask how many attempts an arbiter has turned away. -/
  | contentionCount (number : Nat)
  deriving DecidableEq, Repr

/-- What a client learns from a step. -/
inductive Answer where
  | done
  | flag (value : Bool)
  | rejected (cause : LockFailure)
  | owner (number : Option Nat)
  | count (value : UInt64)
  deriving DecidableEq, Repr

/-- Carry out a step. -/
def step (pool : Pool) : Step → Answer × Pool
  | .tryLock number =>
      let (taken, arbiter) := (pool.arbiter number).tryLock
      (.flag taken, pool.update number arbiter)
  | .release number => (.done, pool.release number)
  | .acquire number place =>
      match (pool.arbiter number).acquire number with
      | (.error cause, arbiter) => (.rejected cause, pool.update number arbiter)
      | (.ok guard, arbiter) =>
          let older := pool.guard? place
          let pool := (pool.update number arbiter).vacate place
          (.done, { pool with guards := (place, guard) :: pool.guards }.discard older)
  | .acquireBriefly number =>
      match (pool.arbiter number).acquire number with
      | (.error _, arbiter) => (.flag false, pool.update number arbiter)
      | (.ok guard, arbiter) => (.flag true, (pool.update number arbiter).discard (some guard))
  | .drop place =>
      (.flag (pool.guard? place).isSome, (pool.vacate place).discard (pool.guard? place))
  | .owner place => (.owner ((pool.guard? place).map Guard.arbiter), pool)
  | .isLocked number => (.flag (pool.arbiter number).isLocked, pool)
  | .contentionCount number => (.count (pool.arbiter number).contentionCount, pool)

/-- Carry out steps in order, and show the pool after each of them. -/
def run (pool : Pool) : List Step → List (Answer × Pool) × Pool
  | [] => ([], pool)
  | first :: rest =>
      let (answer, pool) := pool.step first
      let (answers, last) := run pool rest
      ((answer, pool) :: answers, last)

/-- Drop every guard that is alive. -/
def dropAll (pool : Pool) : Pool :=
  { pool.guards.foldl (fun pool entry => pool.discard (some entry.2)) pool with guards := [] }

end Pool

end SerialBus
