import Mathlib.Algebra.Group.Nat.Defs
import SerialBus.Arbiter.Pool

/-!
# Mutual exclusion and accounting of arbiters

Clients take steps on a pool of arbiters in any order, and each step is atomic.  Some
steps only ask, whether an arbiter is held or how many attempts it has turned away, and
change nothing (`Step.asks`).

An arbiter does not know who holds it.  The holders are read off the log of all steps:
a client that was granted an attempt without a guard and has not released since
(`openLocks`), and every guard that is alive.  If nobody releases what is not theirs, the
number of holders of an arbiter is its lock flag as a number
(`Reaches.length_holders_eq`), which is mutual exclusion and more.

Without that discipline the flag is still the last word on the arbiter: it is set exactly
if the latest of all attempts granted, releases and drops of guards is an attempt granted
(`Reaches.locked_eq`).  The count of attempts turned away is that of the log in any case,
as far as a word can hold it (`Reaches.rejected_toNat`).
-/

set_option autoImplicit false

namespace SerialBus

/-! ## Attempts on one arbiter -/

namespace Arbiter

variable {arbiter : Arbiter}

theorem tryLock_of_free (free : arbiter.locked = false) :
    arbiter.tryLock = (true, { arbiter with locked := true }) := by
  simp [tryLock, free]

theorem tryLock_of_held (held : arbiter.locked = true) :
    arbiter.tryLock = (false, { arbiter with rejected := arbiter.rejected + 1 }) := by
  simp [tryLock, held]

theorem acquire_of_free (free : arbiter.locked = false) (number : Nat) :
    arbiter.acquire number = (.ok ⟨number⟩, { arbiter with locked := true }) := by
  rw [acquire, tryLock_of_free free]

theorem acquire_of_held (held : arbiter.locked = true) (number : Nat) :
    arbiter.acquire number = (.error .busy, { arbiter with rejected := arbiter.rejected + 1 }) := by
  rw [acquire, tryLock_of_held held]

end Arbiter

namespace Pool

/-! ## The log of all steps -/

/-- The arbiter that a step works on by its number. -/
def Step.number? : Step → Option Nat
  | .tryLock number | .release number | .acquire number _ | .acquireBriefly number
  | .isLocked number | .contentionCount number => some number
  | .drop _ | .owner _ => none

/-- The arbiter that a step tries to take. -/
def Step.attempt? : Step → Option Nat
  | .tryLock number | .acquire number _ | .acquireBriefly number => some number
  | .release _ | .drop _ | .owner _ | .isLocked _ | .contentionCount _ => none

/-- The arbiter that a step tries to take for a guard. -/
def Step.guarded? : Step → Option Nat
  | .acquire number _ | .acquireBriefly number => some number
  | .tryLock _ | .release _ | .drop _ | .owner _ | .isLocked _ | .contentionCount _ => none

/-- Whether a step only asks. -/
def Step.asks : Step → Bool
  | .owner _ | .isLocked _ | .contentionCount _ => true
  | .tryLock _ | .release _ | .acquire _ _ | .acquireBriefly _ | .drop _ => false

theorem Step.attempt?_of_asks {step : Step} (asks : step.asks = true) : step.attempt? = none := by
  cases step with
  | owner | isLocked | contentionCount => rfl
  | tryLock | release | acquire | acquireBriefly | drop => cases asks

theorem Step.guarded?_of_asks {step : Step} (asks : step.asks = true) :
    step.guarded? = none := by
  cases step with
  | owner | isLocked | contentionCount => rfl
  | tryLock | release | acquire | acquireBriefly | drop => cases asks

theorem Step.ne_release_of_asks {step : Step} (asks : step.asks = true) (number : Nat) :
    step ≠ .release number := by
  rintro rfl
  cases asks

theorem Step.number?_of_attempt {step : Step} {number : Nat}
    (attempt : step.attempt? = some number) : step.number? = some number := by
  cases step with
  | tryLock _ => exact attempt
  | acquire _ _ => exact attempt
  | acquireBriefly _ => exact attempt
  | release | drop | owner | isLocked | contentionCount => cases attempt

/-- An attempt is for a guard or without one. -/
theorem Step.count_attempt (step : Step) (number : Nat) (granted : Bool) :
    (if step = .tryLock number ∧ granted = true then 1 else 0) +
        (if step.guarded? = some number ∧ granted = true then 1 else 0) =
      if step.attempt? = some number ∧ granted = true then 1 else 0 := by
  cases step with
  | tryLock other => simp [guarded?, attempt?]
  | acquire other place => simp [guarded?, attempt?]
  | acquireBriefly other => simp [guarded?, attempt?]
  | release | drop | owner | isLocked | contentionCount => rfl

/-- Whether an attempt with an answer was granted. -/
def Answer.granted : Answer → Bool
  | .done | .flag true => true
  | _ => false

/-- The guard that a step drops: the one in a place, the older one of a place that takes
another, or one that is not kept. -/
def dropped (pool : Pool) : Step → Option Guard
  | .acquire number place => if (pool.arbiter number).locked then none else pool.guard? place
  | .acquireBriefly number => if (pool.arbiter number).locked then none else some ⟨number⟩
  | .drop place => pool.guard? place
  | .tryLock _ | .release _ | .owner _ | .isLocked _ | .contentionCount _ => none

/-- What is known of a step once it was taken. -/
structure Entry where
  client : Nat
  step : Step
  answer : Answer
  dropped : Option Guard

/-- The entry of a step that a client takes. -/
def entry (pool : Pool) (client : Nat) (step : Step) : Entry where
  client := client
  step := step
  answer := (pool.step step).1
  dropped := pool.dropped step

/-- The logs, the latest step first, and the pools that steps of any clients lead to, one
after the other, from arbiters that nobody has touched. -/
inductive Reaches (count : Nat) : List Entry → Pool → Prop where
  | start : Reaches count [] (fresh count)
  | step {log : List Entry} {pool : Pool} (reached : Reaches count log pool) (client : Nat)
      (step : Step) (inside : ∀ number ∈ step.number?, number < count) :
      Reaches count (pool.entry client step :: log) (pool.step step).2

/-! ## What a step can do -/

/-- A pool with an arbiter taken. -/
def take (pool : Pool) (number : Nat) : Pool :=
  pool.update number { pool.arbiter number with locked := true }

/-- A pool with an attempt on an arbiter turned away. -/
def turnAway (pool : Pool) (number : Nat) : Pool :=
  pool.update number
    { pool.arbiter number with rejected := (pool.arbiter number).rejected + 1 }

/-- A pool with a guard put into a place instead of what was there. -/
def keep (pool : Pool) (place : Nat) (guard : Guard) : Pool :=
  { pool.vacate place with guards := (place, guard) :: (pool.vacate place).guards }

/-- A step with its answer, the guard that it drops, and the pool that it leaves. -/
inductive Stepped (pool : Pool) : Step → Answer → Option Guard → Pool → Prop where
  | taken {number : Nat} (free : (pool.arbiter number).locked = false) :
      Stepped pool (.tryLock number) (.flag true) none (pool.take number)
  | kept {number place : Nat} (free : (pool.arbiter number).locked = false) :
      Stepped pool (.acquire number place) .done (pool.guard? place)
        (((pool.take number).keep place ⟨number⟩).discard (pool.guard? place))
  | takenBriefly {number : Nat} (free : (pool.arbiter number).locked = false) :
      Stepped pool (.acquireBriefly number) (.flag true) (some ⟨number⟩)
        ((pool.take number).discard (some ⟨number⟩))
  | turnedAway {step : Step} {answer : Answer} {number : Nat}
      (attempt : step.attempt? = some number) (held : (pool.arbiter number).locked = true)
      (refused : answer.granted = false) :
      Stepped pool step answer none (pool.turnAway number)
  | released {number : Nat} : Stepped pool (.release number) .done none (pool.release number)
  | dropped {place : Nat} :
      Stepped pool (.drop place) (.flag (pool.guard? place).isSome) (pool.guard? place)
        ((pool.vacate place).discard (pool.guard? place))
  | asked {step : Step} (asks : step.asks = true) : Stepped pool step (pool.step step).1 none pool

/-- Every step does one of these things. -/
theorem step_stepped (pool : Pool) (step : Step) :
    Stepped pool step (pool.step step).1 (pool.dropped step) (pool.step step).2 := by
  cases step with
  | tryLock number =>
      cases lock : (pool.arbiter number).locked with
      | false =>
          rw [Pool.step, Arbiter.tryLock_of_free lock]
          exact .taken lock
      | true =>
          rw [Pool.step, Arbiter.tryLock_of_held lock]
          exact .turnedAway rfl lock rfl
  | release number => exact .released
  | acquire number place =>
      cases lock : (pool.arbiter number).locked with
      | false =>
          rw [Pool.dropped, lock, Pool.step, Arbiter.acquire_of_free lock]
          exact .kept lock
      | true =>
          rw [Pool.dropped, lock, Pool.step, Arbiter.acquire_of_held lock]
          change Stepped pool _ (.rejected .busy) none (pool.turnAway number)
          exact .turnedAway rfl lock rfl
  | acquireBriefly number =>
      cases lock : (pool.arbiter number).locked with
      | false =>
          rw [Pool.dropped, lock, Pool.step, Arbiter.acquire_of_free lock]
          exact .takenBriefly lock
      | true =>
          rw [Pool.dropped, lock, Pool.step, Arbiter.acquire_of_held lock]
          change Stepped pool _ (.flag false) none (pool.turnAway number)
          exact .turnedAway rfl lock rfl
  | drop place => exact .dropped
  | owner | isLocked | contentionCount => exact .asked rfl

section Attempts

variable {pool after : Pool} {step : Step} {answer : Answer} {guard : Option Guard} {number : Nat}

/-- An attempt is granted exactly if the lock is clear. -/
theorem Stepped.granted_iff (stepped : Stepped pool step answer guard after)
    (attempt : step.attempt? = some number) :
    answer.granted = true ↔ (pool.arbiter number).locked = false := by
  cases stepped with
  | taken free =>
      cases attempt
      simp [free, Answer.granted]
  | kept free =>
      cases attempt
      simp [free, Answer.granted]
  | takenBriefly free =>
      cases attempt
      simp [free, Answer.granted]
  | turnedAway other held refused =>
      cases attempt.symm.trans other
      simp [held, refused]
  | released => cases attempt
  | dropped => cases attempt
  | asked asks => cases attempt.symm.trans (Step.attempt?_of_asks asks)

/-- An attempt that is granted finds the lock clear, so it counts for a lock that is set. -/
theorem Stepped.locked_add_granted (stepped : Stepped pool step answer guard after)
    (number : Nat) :
    (pool.arbiter number).locked.toNat +
        (if step.attempt? = some number ∧ answer.granted = true then 1 else 0) =
      (decide (step.attempt? = some number) && answer.granted ||
        (pool.arbiter number).locked).toNat := by
  by_cases attempt : step.attempt? = some number ∧ answer.granted = true
  · have free := (stepped.granted_iff attempt.1).1 attempt.2
    simp [attempt, free]
  · have silent : (decide (step.attempt? = some number) && answer.granted) = false := by
      simpa using attempt
    rw [if_neg attempt, silent, Bool.false_or, Nat.add_zero]

/-- An attempt that is turned away changes the count and nothing else. -/
theorem Stepped.eq_turnAway (stepped : Stepped pool step answer guard after)
    (attempt : step.attempt? = some number) (refused : answer.granted = false) :
    after = pool.turnAway number := by
  cases stepped with
  | taken free => cases refused
  | kept free => cases refused
  | takenBriefly free => cases refused
  | turnedAway other held _ =>
      cases attempt.symm.trans other
      rfl
  | released => cases attempt
  | dropped => cases attempt
  | asked asks => cases attempt.symm.trans (Step.attempt?_of_asks asks)

end Attempts

/-! ## What a step does to one arbiter -/

section Arbiters

variable {pool : Pool} {number : Nat} (known : number < pool.arbiters.length)
include known

theorem arbiter_update (other : Nat) (arbiter : Arbiter) :
    (pool.update other arbiter).arbiter number =
      if other = number then arbiter else pool.arbiter number := by
  simp only [update, Pool.arbiter, List.getD_eq_getElem?_getD, List.getElem?_set]
  by_cases same : other = number
  · subst same
    simp [known]
  · simp [same]

theorem arbiter_take (other : Nat) :
    (pool.take other).arbiter number =
      if other = number then { pool.arbiter number with locked := true }
      else pool.arbiter number := by
  rw [take, arbiter_update known]
  split
  next same => rw [same]
  next => rfl

theorem arbiter_turnAway (other : Nat) :
    (pool.turnAway other).arbiter number =
      if other = number then
        { pool.arbiter number with rejected := (pool.arbiter number).rejected + 1 }
      else pool.arbiter number := by
  rw [turnAway, arbiter_update known]
  split
  next same => rw [same]
  next => rfl

theorem arbiter_release (other : Nat) :
    (pool.release other).arbiter number =
      if other = number then (pool.arbiter number).release else pool.arbiter number := by
  rw [release, arbiter_update known]
  split
  next same => rw [same]
  next => rfl

theorem arbiter_discard (guard : Option Guard) :
    (pool.discard guard).arbiter number =
      if guard = some ⟨number⟩ then (pool.arbiter number).release else pool.arbiter number := by
  cases guard with
  | none => rfl
  | some guard =>
      have same : some guard = some ⟨number⟩ ↔ guard.arbiter = number := by
        cases guard
        simp
      rw [discard, arbiter_release known]
      simp only [same]

end Arbiters

/-! ## The latest mark -/

/-- What is said of the lock of an arbiter. -/
inductive Mark where
  | taken
  | released
  | dropped
  deriving DecidableEq, Repr

/-- What an entry says of the lock of an arbiter, the latest first. -/
def Entry.marks (number : Nat) (entry : Entry) : List Mark :=
  (if entry.dropped = some ⟨number⟩ then [.dropped] else []) ++
    (if entry.step = .release number then [.released] else []) ++
    if entry.step.attempt? = some number ∧ entry.answer.granted = true then [.taken] else []

/-- Whether an entry is an attempt on an arbiter that was turned away. -/
def Entry.turnsAway (number : Nat) (entry : Entry) : Bool :=
  entry.step.attempt? = some number ∧ entry.answer.granted = false

/-- A lock after marks were made on it, the latest of them first. -/
def lockedBy (before : Bool) : List Mark → Bool
  | [] => before
  | mark :: _ => mark = .taken

theorem lockedBy_append (before : Bool) (later earlier : List Mark) :
    lockedBy before (later ++ earlier) = lockedBy (lockedBy before earlier) later := by
  cases later with
  | nil => rfl
  | cons mark later => rfl

/-- An arbiter after an entry. -/
def Entry.affect (number : Nat) (entry : Entry) (arbiter : Arbiter) : Arbiter where
  locked := lockedBy arbiter.locked (entry.marks number)
  rejected := if entry.turnsAway number then arbiter.rejected + 1 else arbiter.rejected

theorem Entry.affect_eq (number client : Nat) (step : Step) (answer : Answer)
    (dropped : Option Guard) (arbiter : Arbiter) :
    Entry.affect number ⟨client, step, answer, dropped⟩ arbiter =
      { locked :=
          if dropped = some ⟨number⟩ ∨ step = .release number then false
          else (step.attempt? = some number && answer.granted) || arbiter.locked
        rejected :=
          if step.attempt? = some number ∧ answer.granted = false then arbiter.rejected + 1
          else arbiter.rejected } := by
  by_cases drops : dropped = some ⟨number⟩
  · simp [affect, marks, turnsAway, lockedBy, drops]
  · by_cases releases : step = .release number
    · simp [affect, marks, turnsAway, lockedBy, drops, releases]
    · by_cases attempts : step.attempt? = some number
      · cases granted : answer.granted <;>
          simp [affect, marks, turnsAway, lockedBy, drops, releases, attempts, granted]
      · simp [affect, marks, turnsAway, lockedBy, drops, releases, attempts]

/-- A step does to every arbiter what its entry says. -/
theorem Stepped.arbiter_eq {pool after : Pool} {number : Nat}
    (known : number < pool.arbiters.length) (client : Nat) {step : Step} {answer : Answer}
    {dropped : Option Guard} (stepped : Stepped pool step answer dropped after) :
    after.arbiter number =
      Entry.affect number ⟨client, step, answer, dropped⟩ (pool.arbiter number) := by
  have takenKnown (other : Nat) : number < (pool.take other).arbiters.length := by
    simpa [take, update] using known
  rw [Entry.affect_eq]
  cases stepped with
  | @taken other free =>
      rw [arbiter_take known]
      by_cases own : other = number
      · simp [own, Step.attempt?, Answer.granted]
      · simp [own, Step.attempt?, Answer.granted]
  | @kept other place free =>
      have keptKnown : number < ((pool.take other).keep place ⟨other⟩).arbiters.length :=
        takenKnown other
      have kept : ((pool.take other).keep place ⟨other⟩).arbiter number =
          (pool.take other).arbiter number := rfl
      rw [arbiter_discard keptKnown, kept, arbiter_take known]
      by_cases own : other = number
      · by_cases older : pool.guard? place = some ⟨number⟩
        · simp [own, older, Step.attempt?, Answer.granted, Arbiter.release]
        · simp [own, older, Step.attempt?, Answer.granted]
      · by_cases older : pool.guard? place = some ⟨number⟩
        · simp [own, older, Step.attempt?, Arbiter.release]
        · simp [own, older, Step.attempt?, Answer.granted]
  | @takenBriefly other free =>
      rw [arbiter_discard (takenKnown other), arbiter_take known]
      by_cases own : other = number
      · simp [own, Step.attempt?, Answer.granted, Arbiter.release]
      · simp [own, Step.attempt?, Answer.granted]
  | @turnedAway step answer other attempt held refused =>
      rw [arbiter_turnAway known]
      have notRelease : step ≠ .release number := by
        rintro rfl
        cases attempt
      by_cases own : other = number
      · simp [own, attempt, refused, notRelease]
      · simp [own, attempt, refused, notRelease]
  | @released other =>
      rw [arbiter_release known]
      by_cases own : other = number
      · simp [own, Step.attempt?, Arbiter.release]
      · simp [own, Step.attempt?]
  | @dropped place =>
      have vacatedKnown : number < (pool.vacate place).arbiters.length := known
      have vacated : (pool.vacate place).arbiter number = pool.arbiter number := rfl
      rw [arbiter_discard vacatedKnown, vacated]
      by_cases own : pool.guard? place = some ⟨number⟩
      · simp [own, Step.attempt?, Arbiter.release]
      · simp [own, Step.attempt?]
  | asked asks => simp [Step.attempt?_of_asks asks, Step.ne_release_of_asks asks]

/-! ## Places of guards -/

variable {count number client : Nat} {step : Step} {answer : Answer} {guard : Option Guard}
  {log : List Entry} {pool after : Pool}

theorem Stepped.length_arbiters (stepped : Stepped pool step answer guard after) :
    after.arbiters.length = pool.arbiters.length := by
  have discarded (pool : Pool) (guard : Option Guard) :
      (pool.discard guard).arbiters.length = pool.arbiters.length := by
    cases guard with
    | none => rfl
    | some guard => exact List.length_set
  cases stepped with
  | taken free => exact List.length_set
  | kept free => exact (discarded ..).trans List.length_set
  | takenBriefly free => exact (discarded ..).trans List.length_set
  | turnedAway attempt held refused => exact List.length_set
  | released => exact List.length_set
  | dropped => exact discarded ..
  | asked asks => rfl

/-- Every guard that is alive has a place of its own. -/
def Distinct (pool : Pool) : Prop :=
  (pool.guards.map Prod.fst).Nodup

theorem guards_discard (pool : Pool) (guard : Option Guard) :
    (pool.discard guard).guards = pool.guards := by
  cases guard with
  | none => rfl
  | some guard => rfl

theorem Distinct.vacate (distinct : pool.Distinct) (place : Nat) : (pool.vacate place).Distinct :=
  distinct.sublist (List.filter_sublist.map Prod.fst)

theorem Distinct.keep (distinct : pool.Distinct) (place : Nat) (guard : Guard) :
    (pool.keep place guard).Distinct := by
  refine List.nodup_cons.2 ⟨?_, distinct.vacate place⟩
  intro member
  obtain ⟨entry, kept, same⟩ := List.mem_map.1 member
  simp [Pool.vacate, same] at kept

theorem Stepped.distinct (stepped : Stepped pool step answer guard after)
    (distinct : pool.Distinct) : after.Distinct := by
  cases stepped with
  | taken free => exact distinct
  | @kept other place free =>
      rw [Distinct, guards_discard]
      exact Distinct.keep distinct place ⟨other⟩
  | takenBriefly free => exact distinct
  | turnedAway attempt held refused => exact distinct
  | released => exact distinct
  | @dropped place =>
      rw [Distinct, guards_discard]
      exact distinct.vacate place
  | asked asks => exact distinct

/-- The places of the guards of an arbiter that are alive. -/
def live (number : Nat) (pool : Pool) : List Nat :=
  (pool.guards.filter fun entry => entry.2.arbiter = number).map Prod.fst

/-- Among guards in places of their own, one place has one guard at most. -/
theorem length_filter_vacated {guards : List (Nat × Guard)}
    (distinct : (guards.map Prod.fst).Nodup) (place number : Nat) :
    ((guards.filter fun entry => entry.1 ≠ place).filter
        fun entry => entry.2.arbiter = number).length +
      (if guards.lookup place = some ⟨number⟩ then 1 else 0) =
        (guards.filter fun entry => entry.2.arbiter = number).length := by
  induction guards with
  | nil => simp
  | cons entry guards ih =>
      obtain ⟨own, guard⟩ := entry
      obtain ⟨fresh, distinct⟩ := List.nodup_cons.1 distinct
      by_cases here : own = place
      · subst here
        have untouched : guards.filter (fun entry => entry.1 ≠ own) = guards := by
          apply List.filter_eq_self.2
          intro entry member
          have inPlaces : entry.1 ∈ guards.map Prod.fst := List.mem_map_of_mem member
          exact decide_eq_true fun same => fresh (same ▸ inPlaces)
        have same : some guard = some ⟨number⟩ ↔ guard.arbiter = number := by
          cases guard
          simp
        rw [List.filter_cons_of_neg (by simp), untouched, List.lookup_cons_self, List.filter_cons]
        simp only [same, decide_eq_true_eq]
        split
        next => rfl
        next => rfl
      · have other : (place == own) = false := by simpa using Ne.symm here
        rw [List.filter_cons_of_pos (by simpa using here), List.lookup_cons, other,
          List.filter_cons, List.filter_cons]
        split
        next => rw [List.length_cons, List.length_cons, ← ih distinct, Nat.add_right_comm]
        next => exact ih distinct

/-- Emptying a place takes one guard from its arbiter, if there was one. -/
theorem length_live_vacate (distinct : pool.Distinct) (place number : Nat) :
    ((pool.vacate place).live number).length +
      (if pool.guard? place = some ⟨number⟩ then 1 else 0) = (pool.live number).length := by
  rw [live, live, List.length_map, List.length_map]
  exact length_filter_vacated distinct place number

/-! ## Holders -/

/-- The clients that were granted an attempt on an arbiter without a guard and have not
released since. -/
def openLocks (number : Nat) : List Entry → List Nat
  | [] => []
  | entry :: log =>
      if entry.step = .tryLock number ∧ entry.answer.granted = true then
        entry.client :: openLocks number log
      else if entry.step = .release number then (openLocks number log).erase entry.client
      else openLocks number log

/-- Nobody releases an arbiter but a client that was granted it and has not released it
since. -/
def Disciplined (number : Nat) : List Entry → Prop
  | [] => True
  | entry :: log =>
      (entry.step = .release number → entry.client ∈ openLocks number log) ∧
        Disciplined number log

/-- Someone who holds an arbiter. -/
inductive Holder where
  | client (number : Nat)
  | guard (place : Nat)
  deriving DecidableEq, Repr

/-- Everyone who holds an arbiter: the clients with an attempt that is still open, and the
guards that are alive. -/
def holders (number : Nat) (log : List Entry) (pool : Pool) : List Holder :=
  (openLocks number log).map .client ++ (pool.live number).map .guard

theorem length_holders (number : Nat) (log : List Entry) (pool : Pool) :
    (holders number log pool).length =
      (openLocks number log).length + (pool.live number).length := by
  simp [holders]

theorem live_discard (number : Nat) (pool : Pool) (guard : Option Guard) :
    (pool.discard guard).live number = pool.live number := by
  rw [live, guards_discard, live]

theorem length_live_keep (number place : Nat) (guard : Guard) :
    ((pool.keep place guard).live number).length =
      ((pool.vacate place).live number).length + if guard.arbiter = number then 1 else 0 := by
  simp only [live, keep, List.filter_cons, decide_eq_true_eq]
  split
  next => simp
  next => rfl

/-- A step adds the guard that it is granted and takes away the one that it drops. -/
theorem Stepped.length_live_eq (stepped : Stepped pool step answer guard after)
    (distinct : pool.Distinct) (number : Nat) :
    (after.live number).length + (if guard = some ⟨number⟩ then 1 else 0) =
      (pool.live number).length +
        if step.guarded? = some number ∧ answer.granted = true then 1 else 0 := by
  cases stepped with
  | taken free => rfl
  | @kept other place free =>
      have vacated : (((pool.take other).vacate place).live number).length +
          (if pool.guard? place = some ⟨number⟩ then 1 else 0) = (pool.live number).length :=
        length_live_vacate distinct place number
      rw [live_discard, length_live_keep]
      simp only [Step.guarded?, Answer.granted, Option.some.injEq, and_true]
      omega
  | @takenBriefly other free =>
      have alive : (pool.take other).live number = pool.live number := rfl
      rw [live_discard, alive]
      simp [Step.guarded?, Answer.granted]
  | @turnedAway step answer other attempt held refused =>
      have alive : (pool.turnAway other).live number = pool.live number := rfl
      rw [alive]
      simp [refused]
  | released => rfl
  | dropped =>
      rw [live_discard]
      exact length_live_vacate distinct _ number
  | asked asks => simp [Step.guarded?_of_asks asks]

/-- A step adds the client that it grants an attempt without a guard and takes away the
client that releases. -/
theorem length_openLocks_cons {entry : Entry}
    (theirs : entry.step = .release number → entry.client ∈ openLocks number log) :
    (openLocks number (entry :: log)).length +
        (if entry.step = .release number then 1 else 0) =
      (openLocks number log).length +
        if entry.step = .tryLock number ∧ entry.answer.granted = true then 1 else 0 := by
  rw [openLocks]
  split
  next taken => simp [taken.1]
  next =>
      split
      next released =>
          have erased := List.length_erase_of_mem (theirs released)
          have held := List.length_pos_of_mem (theirs released)
          omega
      next => rfl

/-- While nobody releases what is not theirs, a step adds the holder that it grants an
attempt and takes away those who release or drop. -/
theorem Stepped.length_holders_add (stepped : Stepped pool step answer guard after)
    (distinct : pool.Distinct)
    (theirs : step = .release number → client ∈ openLocks number log) :
    (holders number (⟨client, step, answer, guard⟩ :: log) after).length +
        (if step = .release number then 1 else 0) + (if guard = some ⟨number⟩ then 1 else 0) =
      (holders number log pool).length +
        if step.attempt? = some number ∧ answer.granted = true then 1 else 0 := by
  have guards := stepped.length_live_eq distinct number
  have clients : (openLocks number (⟨client, step, answer, guard⟩ :: log)).length +
      (if step = .release number then 1 else 0) = (openLocks number log).length +
      if step = .tryLock number ∧ answer.granted = true then 1 else 0 :=
    length_openLocks_cons theirs
  have attempts := step.count_attempt number answer.granted
  rw [length_holders, length_holders]
  omega

/-- While nobody releases what is not theirs, a step keeps the number of holders equal to
the lock. -/
theorem Stepped.length_holders_eq (stepped : Stepped pool step answer guard after)
    (known : number < pool.arbiters.length) (distinct : pool.Distinct)
    (theirs : step = .release number → client ∈ openLocks number log)
    (before : (holders number log pool).length = (pool.arbiter number).locked.toNat) :
    (holders number (⟨client, step, answer, guard⟩ :: log) after).length =
      (after.arbiter number).locked.toNat := by
  have moved := stepped.length_holders_add distinct theirs
  rw [before, stepped.locked_add_granted number] at moved
  rw [stepped.arbiter_eq known client, Entry.affect_eq]
  have one := Bool.toNat_le (decide (step.attempt? = some number) && answer.granted ||
    (pool.arbiter number).locked)
  by_cases drops : guard = some ⟨number⟩
  · rw [if_pos (.inl drops), Bool.toNat_false]
    rw [if_pos drops] at moved
    omega
  · by_cases releases : step = .release number
    · rw [if_pos (.inr releases), Bool.toNat_false]
      rw [if_pos releases] at moved
      omega
    · rw [if_neg (not_or.2 ⟨drops, releases⟩)]
      rwa [if_neg releases, if_neg drops] at moved

/-! ## Every interleaving -/

namespace Reaches

theorem length_arbiters (reached : Reaches count log pool) : pool.arbiters.length = count := by
  induction reached with
  | start => simp [fresh]
  | @step log pool reached client step inside ih =>
      rw [← ih]
      exact (step_stepped pool step).length_arbiters

theorem distinct (reached : Reaches count log pool) : pool.Distinct := by
  induction reached with
  | start => exact List.nodup_nil
  | @step log pool reached client step inside ih => exact (step_stepped pool step).distinct ih

theorem arbiter_fresh (number : Nat) : (fresh count).arbiter number = {} := by
  simp only [fresh, Pool.arbiter, List.getD_eq_getElem?_getD, List.getElem?_replicate]
  split
  next => rfl
  next => rfl

/-- The lock of an arbiter is as the latest mark on it says. -/
theorem locked_eq (reached : Reaches count log pool) (known : number < count) :
    (pool.arbiter number).locked = lockedBy false (log.flatMap (Entry.marks number)) := by
  induction reached with
  | start => rw [arbiter_fresh]; rfl
  | @step log pool reached client step inside ih =>
      have here : number < pool.arbiters.length := reached.length_arbiters ▸ known
      rw [(step_stepped pool step).arbiter_eq here client, List.flatMap_cons, lockedBy_append, ← ih]
      rfl

/-- The count of an arbiter is that of the attempts turned away, as far as a word holds it. -/
theorem rejected_toNat (reached : Reaches count log pool) (known : number < count) :
    (pool.arbiter number).rejected.toNat = log.countP (Entry.turnsAway number) % 2 ^ 64 := by
  induction reached with
  | start => rw [arbiter_fresh]; rfl
  | @step log pool reached client step inside ih =>
      have here : number < pool.arbiters.length := reached.length_arbiters ▸ known
      rw [(step_stepped pool step).arbiter_eq here client, List.countP_cons]
      change (if Entry.turnsAway number (pool.entry client step) then
        (pool.arbiter number).rejected + 1 else (pool.arbiter number).rejected).toNat = _
      split
      next => rw [UInt64.toNat_add, ih]; simp
      next => exact ih

/-- While nobody releases what is not theirs, the number of holders is the lock. -/
theorem length_holders_eq (reached : Reaches count log pool) (known : number < count)
    (disciplined : Disciplined number log) :
    (holders number log pool).length = (pool.arbiter number).locked.toNat := by
  induction reached with
  | start => rw [arbiter_fresh]; rfl
  | @step log pool reached client step inside ih =>
      have here : number < pool.arbiters.length := reached.length_arbiters ▸ known
      exact (step_stepped pool step).length_holders_eq here reached.distinct disciplined.1
        (ih disciplined.2)

end Reaches

/-- A step that neither works on an arbiter nor drops a guard of it leaves it as it is. -/
theorem Stepped.arbiter_eq_of_apart (stepped : Stepped pool step answer guard after)
    (known : number < pool.arbiters.length) (apart : step.number? ≠ some number)
    (noGuard : guard ≠ some ⟨number⟩) : after.arbiter number = pool.arbiter number := by
  have noRelease : step ≠ .release number := by
    rintro rfl
    exact apart rfl
  have noAttempt : step.attempt? ≠ some number :=
    fun attempt => apart (Step.number?_of_attempt attempt)
  rw [stepped.arbiter_eq known 0, Entry.affect_eq]
  simp [noGuard, noRelease, noAttempt]

theorem lockedBy_false (marks : List Mark) :
    lockedBy false marks = true ↔ marks.head? = some .taken := by
  cases marks with
  | nil => simp [lockedBy]
  | cons mark marks => simp [lockedBy]

/-- **Mutual exclusion and accounting of arbiters.**  After any steps of any clients on any
number of arbiters, an arbiter that nobody released without holding it has one holder at
most, says that it is locked exactly if it has one, and grants an attempt exactly if it has
none.  Whatever was released, an attempt that is turned away changes the count and nothing
else, the contention count is that of the attempts turned away, steps on one arbiter leave
every other alone, and the arbiter says that it is locked exactly if the latest attempt
granted, release or drop of a guard was an attempt granted.  A client that asks gets these
answers and changes nothing. -/
theorem exclusive_and_accounted (reached : Reaches count log pool) (known : number < count) :
    (Disciplined number log →
      (holders number log pool).length ≤ 1 ∧
      ((pool.arbiter number).isLocked = true ↔ holders number log pool ≠ []) ∧
      ∀ step, Step.attempt? step = some number →
        ((pool.step step).1.granted = true ↔ holders number log pool = [])) ∧
    (∀ step, Step.attempt? step = some number → (pool.step step).1.granted = false →
      (pool.step step).2 = pool.update number
        { pool.arbiter number with rejected := (pool.arbiter number).rejected + 1 }) ∧
    (pool.arbiter number).contentionCount.toNat =
      log.countP (Entry.turnsAway number) % 2 ^ 64 ∧
    (∀ step, Step.number? step ≠ some number → pool.dropped step ≠ some ⟨number⟩ →
      (pool.step step).2.arbiter number = pool.arbiter number) ∧
    ((pool.arbiter number).isLocked = true ↔
      (log.flatMap (Entry.marks number)).head? = some .taken) ∧
    pool.step (.isLocked number) = (.flag (pool.arbiter number).isLocked, pool) ∧
    pool.step (.contentionCount number) =
      (.count (pool.arbiter number).contentionCount, pool) := by
  have here : number < pool.arbiters.length := reached.length_arbiters ▸ known
  refine ⟨?_, ?_, reached.rejected_toNat known, ?_, ?_, rfl, rfl⟩
  · intro disciplined
    have holding := reached.length_holders_eq known disciplined
    have held : (pool.arbiter number).isLocked = true ↔ holders number log pool ≠ [] := by
      rw [← List.length_pos_iff, holding, Arbiter.isLocked]
      cases (pool.arbiter number).locked <;> decide
    refine ⟨holding ▸ Bool.toNat_le _, held, ?_⟩
    intro step attempt
    rw [(step_stepped pool step).granted_iff attempt, ← Bool.not_eq_true]
    exact (not_congr held).trans Decidable.not_not
  · intro step attempt refused
    exact (step_stepped pool step).eq_turnAway attempt refused
  · intro step apart noGuard
    exact (step_stepped pool step).arbiter_eq_of_apart here apart noGuard
  · rw [Arbiter.isLocked, reached.locked_eq known, lockedBy_false]

/-- One client takes an arbiter without a guard, and another is turned away from it, asks
whether it is held, and acquires a second one. -/
theorem exclusive_and_accounted_two :
    ∃ log pool, Reaches 2 log pool ∧ log.map Entry.client = [1, 1, 1, 0] ∧
      Disciplined 0 log ∧ (holders 0 log pool).length ≤ 1 ∧ holders 0 log pool ≠ [] ∧
      (pool.step (.tryLock 0)).1.granted ≠ true ∧
      (pool.arbiter 0).contentionCount.toNat = 1 ∧
      (pool.step (.drop 5)).2.arbiter 0 = pool.arbiter 0 ∧
      (log.flatMap (Entry.marks 0)).head? = some .taken ∧
      pool.step (.isLocked 0) = (.flag true, pool) ∧
      pool.step (.contentionCount 0) = (.count 1, pool) := by
  have first := Reaches.start.step 0 (.tryLock 0) (by decide : ∀ number ∈ some 0, number < 2)
  have second := first.step 1 (.acquire 0 5) (by decide)
  have third := second.step 1 (.isLocked 0) (by decide)
  have reached := third.step 1 (.acquire 1 5) (by decide)
  obtain ⟨exclusive, _, count, apart, latest, locked, contended⟩ :=
    exclusive_and_accounted reached (by decide : 0 < 2)
  obtain ⟨one, held, granted⟩ := exclusive ⟨nofun, nofun, nofun, nofun, trivial⟩
  have someone := held.1 rfl
  exact ⟨_, _, reached, rfl, ⟨nofun, nofun, nofun, nofun, trivial⟩, one, someone,
    mt (granted (.tryLock 0) rfl).1 someone, count, apart (.drop 5) nofun (by decide),
    latest.1 rfl, locked, contended⟩

end Pool

end SerialBus
