import SerialBus.Proofs.ExchangeGrammar
import SerialBus.Proofs.Rounds

/-!
# Waits with a deadline

Under a deadline a wait reads the clock once, at its start, and then goes in laps of a
status read and a reading of the clock (`Lap`).  The deadline is the start plus the duration,
or the end of the clock if that is past it.  So a reading lies past the deadline exactly if it
has reached the sum, taken without overflow, or is the last one of the clock (`Expired`).

The first lap that shows the condition or lies past the deadline ends the wait, and in one
that does both it is the condition that counts (`Host.wait_of_lap`, `Host.wait_of_expired`).
A wait of which no lap does either never comes back (`Host.wait_of_undecided`).

What a wait leaves in the trace is `Timed`: it starts with a reading of the clock, and all of
its laps are held against that one.  The waits of an exchange are such waits, one by one, so
each of them has the whole duration (`deadline_exact`).
-/

set_option autoImplicit false

namespace SerialBus

variable {ρ σ κ : Type}

/-! ## The deadline -/

/-- A reading of the clock that a duration from a start has reached, or the last one. -/
def Expired (start duration now : UInt64) : Prop :=
  start.toNat + duration.toNat ≤ now.toNat ∨ now.toNat = UInt64.size - 1

instance (start duration now : UInt64) : Decidable (Expired start duration now) :=
  inferInstanceAs (Decidable (_ ∨ _))

namespace WaitPolicy

/-- The deadline is the sum of start and duration, cut down to the end of the clock. -/
theorem toNat_instantAfter (start duration : UInt64) :
    (instantAfter start duration).toNat =
      min (start.toNat + duration.toNat) (UInt64.size - 1) := by
  rw [instantAfter]
  split
  next fits =>
    rw [UInt64.toNat_add, Nat.mod_eq_of_lt fits]
    omega
  next past =>
    have last : endOfClock.toNat = UInt64.size - 1 := rfl
    omega

theorem instantAfter_le_iff {start duration now : UInt64} :
    instantAfter start duration ≤ now ↔ Expired start duration now := by
  have small : now.toNat < UInt64.size := now.toNat_lt
  rw [UInt64.le_iff_toNat_le, toNat_instantAfter, Expired]
  omega

/-- The answers of a budget that is asked at some instants, in order, whether it is spent. -/
def answers (policy : WaitPolicy) : policy.Budget → List UInt64 → List Bool
  | _, [] => []
  | budget, now :: later =>
      ((policy.spend budget).answerAt now).1 ::
        answers policy ((policy.spend budget).answerAt now).2 later

/-- The budget of a deadline says at every instant whether that lies past the deadline. -/
theorem answers_deadline (start duration : UInt64) (patience : Nat) (instants : List UInt64) :
    (deadline duration patience).answers ((deadline duration patience).start.answerAt start)
      instants = instants.map fun now => decide (Expired start duration now) := by
  induction instants with
  | nil => rfl
  | cons now later ih =>
      exact congrArg₂ List.cons (decide_eq_decide.2 instantAfter_le_iff) ih

end WaitPolicy

theorem Expired.mono {start duration earlier later : UInt64} (order : earlier ≤ later)
    (expired : Expired start duration earlier) : Expired start duration later :=
  WaitPolicy.instantAfter_le_iff.1
    (UInt64.le_trans (WaitPolicy.instantAfter_le_iff.2 expired) order)

/-! ## Laps -/

/-- What a wait sees in one of its laps: the answer to a status read, and a reading of the
clock after it. -/
structure Lap where
  answer : UInt32
  instant : UInt64
  deriving DecidableEq, Repr

namespace Lap

variable (controller : Controller ρ)

/-- A wait that has started at an instant goes on after a lap. -/
def GoesOn (condition : Condition) (start duration : UInt64) (lap : Lap) : Prop :=
  controller.reports condition lap.answer = false ∧ ¬ Expired start duration lap.instant

/-- The events of laps. -/
def events (laps : List Lap) : List (Event ρ) :=
  laps.flatMap fun lap => [.read controller.status lap.answer, .clock lap.instant]

theorem events_append (first second : List Lap) :
    events controller (first ++ second) = events controller first ++ events controller second :=
  List.flatMap_append

end Lap

namespace Host

variable (host : Host ρ σ κ) (bus : Bus ρ σ κ)

/-- The instant at which a wait on a bus starts. -/
def startsAt : UInt64 :=
  (host.hardware.now bus.hardware).1

/-- The hardware before the lap at an index of a wait on a bus. -/
def beforeLap (index : Nat) : σ :=
  (fun now => (host.hardware.now (host.hardware.read host.controller.status now).2).2)^[index]
    (host.hardware.now bus.hardware).2

/-- What the lap at an index of a wait on a bus shows. -/
def lapAt (index : Nat) : Lap :=
  let (answer, polled) := host.hardware.read host.controller.status (host.beforeLap bus index)
  ⟨answer, (host.hardware.now polled).1⟩

/-- The events of so many laps of a wait on a bus, with the reading of the clock at its
start. -/
def lapsFrom (count : Nat) : List (Event ρ) :=
  .clock (host.startsAt bus) ::
    Lap.events host.controller ((List.range count).map (host.lapAt bus))

theorem lapsFrom_succ (count : Nat) :
    host.lapsFrom bus (count + 1) = host.lapsFrom bus count ++
      [.read host.controller.status (host.lapAt bus count).answer,
        .clock (host.lapAt bus count).instant] := by
  rw [lapsFrom, lapsFrom, List.range_succ, List.map_append, Lap.events_append]
  rfl

theorem after_lapsFrom_hardware (count : Nat) :
    (host.after (host.lapsFrom bus count) bus).hardware = host.beforeLap bus count := by
  induction count with
  | zero => rfl
  | succ count ih =>
      rw [lapsFrom_succ, ← after_after]
      refine Eq.trans ?_ (Function.iterate_succ_apply' _ count _).symm
      exact congrArg (fun now =>
        (host.hardware.now (host.hardware.read host.controller.status now).2).2) ih

/-- The status read after so many laps. -/
theorem read_after_lapsFrom (count : Nat) :
    host.read host.controller.status (host.after (host.lapsFrom bus count) bus) =
      ((host.lapAt bus count).answer, host.after (host.lapsFrom bus count ++
        [.read host.controller.status (host.lapAt bus count).answer]) bus) := by
  have answer : (host.hardware.read host.controller.status
      (host.after (host.lapsFrom bus count) bus).hardware).1 = (host.lapAt bus count).answer := by
    rw [after_lapsFrom_hardware]
    rfl
  rw [read_eq, answer, after_after]

/-- The reading of the clock after that. -/
theorem now_after_lapsFrom (count : Nat) :
    (host.hardware.now (host.after (host.lapsFrom bus count ++
      [.read host.controller.status (host.lapAt bus count).answer]) bus).hardware).1 =
        (host.lapAt bus count).instant := by
  rw [← after_after]
  exact congrArg (fun state =>
    (host.hardware.now (host.hardware.read host.controller.status state).2).1)
    (host.after_lapsFrom_hardware bus count)

/-- Accounting for a lap takes the reading of the clock, and keeps the deadline. -/
theorem consult_lap (duration stop : UInt64) (patience count : Nat) :
    host.consult ((WaitPolicy.deadline duration patience).spend stop)
        (host.after (host.lapsFrom bus count ++
          [.read host.controller.status (host.lapAt bus count).answer]) bus) =
      ((decide (stop ≤ (host.lapAt bus count).instant), stop),
        host.after (host.lapsFrom bus (count + 1)) bus) := by
  have looks (mid : Bus ρ σ κ) :
      host.consult ((WaitPolicy.deadline duration patience).spend stop) mid =
        ((decide (stop ≤ (host.hardware.now mid.hardware).1), stop),
          host.after [.clock (host.hardware.now mid.hardware).1] mid) := rfl
  rw [looks, now_after_lapsFrom, after_after, lapsFrom_succ, List.append_assoc]
  rfl

/-! ## The rounds of a wait -/

variable {host bus} {duration : UInt64} {patience : Nat} {condition : Condition} {index : Nat}

/-- Under a deadline a round is a lap, and the budget is spent once a reading of the clock
lies past the deadline. -/
theorem roundAt_deadline (timed : host.waits = .deadline duration patience) (index : Nat) :
    (host.roundAt bus index).2 = host.after (host.lapsFrom bus index) bus ∧
      (host.spentAt bus index = true ↔
        Expired (host.startsAt bus) duration (host.lapAt bus index).instant) := by
  obtain ⟨controller, hardware, lines, waits, clockHz, discipline, filler⟩ := host
  obtain rfl : waits = .deadline duration patience := timed
  let host : Host ρ σ κ :=
    ⟨controller, hardware, lines, .deadline duration patience, clockHz, discipline, filler⟩
  let stop := WaitPolicy.instantAfter (host.startsAt bus) duration
  have accounted (index : Nat) : host.consult (host.waits.spend stop)
      (host.read host.controller.status (host.after (host.lapsFrom bus index) bus)).2 =
        ((decide (stop ≤ (host.lapAt bus index).instant), stop),
          host.after (host.lapsFrom bus (index + 1)) bus) := by
    rw [read_after_lapsFrom]
    exact host.consult_lap bus duration stop patience index
  -- the budget is the deadline itself, and no round changes it
  have rounds : ∀ index, host.roundAt bus index =
      (stop, host.after (host.lapsFrom bus index) bus) := by
    intro index
    induction index with
    | zero => rfl
    | succ index ih =>
        exact (host.roundAt_succ bus index).trans ((congrArg host.round ih).trans
          (congrArg (fun answer => (answer.1.2, answer.2)) (accounted index)))
  refine ⟨congrArg Prod.snd (rounds index), ?_⟩
  change host.spentAt bus index = true ↔
    Expired (host.startsAt bus) duration (host.lapAt bus index).instant
  have spent : host.spentAt bus index = decide (stop ≤ (host.lapAt bus index).instant) := by
    rw [spentAt, polledAt, rounds index]
    exact congrArg (fun answer => answer.1.1) (accounted index)
  rw [spent, decide_eq_true_iff]
  exact WaitPolicy.instantAfter_le_iff

theorem readyAt_deadline (timed : host.waits = .deadline duration patience) (condition : Condition)
    (index : Nat) : host.readyAt bus condition index =
      host.controller.reports condition (host.lapAt bus index).answer := by
  rw [readyAt, statusAt, (roundAt_deadline timed index).1, read_after_lapsFrom]

/-- A wait goes on after a round exactly if it does after the lap. -/
theorem goesOn_deadline (timed : host.waits = .deadline duration patience) :
    host.GoesOn bus condition index ↔
      (host.lapAt bus index).GoesOn host.controller condition (host.startsAt bus) duration := by
  rw [GoesOn, Lap.GoesOn, readyAt_deadline timed, ← (roundAt_deadline timed index).2,
    Bool.not_eq_true]

theorem patience_deadline (timed : host.waits = .deadline duration patience) :
    host.waits.patience = patience := by
  rw [timed]
  rfl

theorem polledAt_deadline (timed : host.waits = .deadline duration patience) (index : Nat) :
    host.polledAt bus index = host.after (host.lapsFrom bus index ++
      [.read host.controller.status (host.lapAt bus index).answer]) bus := by
  rw [polledAt, (roundAt_deadline timed index).1, read_after_lapsFrom]

section Laps

variable (timed : host.waits = .deadline duration patience) (patient : index < patience)
  (goesOn : ∀ earlier < index,
    (host.lapAt bus earlier).GoesOn host.controller condition (host.startsAt bus) duration)

include timed patient goesOn

/-- The first lap that decides a wait ends it with success if it shows the condition. -/
theorem wait_of_lap
    (reported : host.controller.reports condition (host.lapAt bus index).answer = true) :
    host.wait condition bus = some (.ok (), host.after (host.lapsFrom bus index ++
      [.read host.controller.status (host.lapAt bus index).answer]) bus) := by
  rw [← polledAt_deadline timed]
  exact wait_of_ready (patience_deadline timed ▸ patient)
    (fun earlier before => (goesOn_deadline timed).2 (goesOn earlier before))
    ((readyAt_deadline timed condition index).trans reported)

/-- It ends it with a timeout if it does not, and lies past the deadline. -/
theorem wait_of_expired
    (unready : host.controller.reports condition (host.lapAt bus index).answer = false)
    (expired : Expired (host.startsAt bus) duration (host.lapAt bus index).instant) :
    host.wait condition bus = some (.error (.timeout condition),
      host.after (host.lapsFrom bus (index + 1)) bus) := by
  rw [← (roundAt_deadline timed (index + 1)).1]
  exact wait_of_spent (patience_deadline timed ▸ patient)
    (fun earlier before => (goesOn_deadline timed).2 (goesOn earlier before))
    ((readyAt_deadline timed condition index).trans unready)
    ((roundAt_deadline timed index).2.2 expired)

end Laps

/-- A wait that no lap decides never comes back. -/
theorem wait_of_undecided (timed : host.waits = .deadline duration patience)
    (goesOn : ∀ index < patience,
      (host.lapAt bus index).GoesOn host.controller condition (host.startsAt bus) duration) :
    host.wait condition bus = none :=
  wait_eq_none fun index patient =>
    (goesOn_deadline timed).2 (goesOn index (patience_deadline timed ▸ patient))

end Host

/-! ## What a wait leaves in the trace -/

/-- What a wait with a duration leaves in the trace, by its outcome: a reading of the clock
at its start, laps after which it goes on, and a last one that decides it. -/
inductive Timed (controller : Controller ρ) (duration : UInt64) (condition : Condition) :
    Outcome → List (Event ρ) → Prop where
  | seen {start : UInt64} {laps : List Lap} {last : UInt32}
      (goesOn : ∀ lap ∈ laps, lap.GoesOn controller condition start duration)
      (reported : controller.reports condition last = true) :
      Timed controller duration condition (.ok ())
        (.clock start :: (Lap.events controller laps ++ [.read controller.status last]))
  | expired {start : UInt64} {laps : List Lap} {last : Lap}
      (goesOn : ∀ lap ∈ laps, lap.GoesOn controller condition start duration)
      (unready : controller.reports condition last.answer = false)
      (past : Expired start duration last.instant) :
      Timed controller duration condition (.error (.timeout condition))
        (.clock start :: Lap.events controller (laps ++ [last]))

/-- The waits of a host with a deadline leave what their duration allows. -/
theorem Host.follows_timed {host : Host ρ σ κ} {duration : UInt64} {patience : Nat}
    (timed : host.waits = .deadline duration patience) :
    host.Follows (Timed host.controller duration) := by
  intro condition bus outcome after result
  obtain ⟨last, _, goesOn, ending⟩ := wait_cases result
  have laps : ∀ lap ∈ (List.range last).map (host.lapAt bus),
      lap.GoesOn host.controller condition (host.startsAt bus) duration := by
    intro lap member
    obtain ⟨earlier, before, rfl⟩ := List.mem_map.1 member
    exact (goesOn_deadline timed).1 (goesOn earlier (List.mem_range.1 before))
  obtain ⟨ready, rfl, rfl⟩ | ⟨unready, spent, rfl, rfl⟩ := ending
  · rw [readyAt_deadline timed] at ready
    exact ⟨_, .seen laps ready, polledAt_deadline timed last⟩
  · rw [readyAt_deadline timed] at unready
    refine ⟨_, .expired laps unready ((roundAt_deadline timed last).2.1 spent), ?_⟩
    rw [(roundAt_deadline timed (last + 1)).1, lapsFrom, List.range_succ, List.map_append]
    rfl

/-- **Waits with a deadline are exact up to the end of the clock.**  A wait ends with the first
of its laps that shows its condition or lies past its deadline, with success in the first case
and with a timeout in the second only, and it never comes back if no lap does either.  So it
polls at least once, and when it times out, the reading of the clock that it ends with has
reached its own start plus the duration, in a sum that does not overflow, or is the last one
of the clock.

A budget that is asked again and again is spent at exactly these readings, so once it is spent,
it stays so on a clock that does not go back.  All waits of a transfer are such waits, each held
against its own start. -/
theorem deadline_exact {host : Host ρ σ κ} {duration : UInt64} {patience : Nat}
    (timed : host.waits = .deadline duration patience) (bus : Bus ρ σ κ) :
    (∀ condition,
      (∀ index < patience, (∀ earlier < index, (host.lapAt bus earlier).GoesOn host.controller
          condition (host.startsAt bus) duration) →
        (host.controller.reports condition (host.lapAt bus index).answer = true →
          host.wait condition bus = some (.ok (), host.after (host.lapsFrom bus index ++
            [.read host.controller.status (host.lapAt bus index).answer]) bus)) ∧
        (host.controller.reports condition (host.lapAt bus index).answer = false →
          Expired (host.startsAt bus) duration (host.lapAt bus index).instant →
          host.wait condition bus = some (.error (.timeout condition),
            host.after (host.lapsFrom bus (index + 1)) bus))) ∧
      ((∀ index < patience, (host.lapAt bus index).GoesOn host.controller condition
          (host.startsAt bus) duration) → host.wait condition bus = none) ∧
      ∀ failure after, host.wait condition bus = some (.error failure, after) →
        failure = .timeout condition ∧ ∃ index,
          Expired (host.startsAt bus) duration (host.lapAt bus index).instant ∧
          after = host.after (host.lapsFrom bus (index + 1)) bus) ∧
    (∀ start instants, (WaitPolicy.deadline duration patience).answers
        ((WaitPolicy.deadline duration patience).start.answerAt start) instants =
      instants.map fun now => decide (Expired start duration now)) ∧
    (∀ start earlier later, earlier ≤ later → Expired start duration earlier →
      Expired start duration later) ∧
    ∀ call length reply after, call.units? = some length →
      host.call bus call = some (reply, after) →
        reply = .unavailable ∧ after = bus ∨
        ∃ outcome, reply.failure? = outcome.failure? ∧
          host.Conveys (Timed host.controller duration) length bus outcome after := by
  refine ⟨fun condition => ⟨fun index patient goesOn => ⟨?_, ?_⟩, ?_, ?_⟩, ?_, ?_, ?_⟩
  · exact Host.wait_of_lap timed patient goesOn
  · exact Host.wait_of_expired timed patient goesOn
  · exact Host.wait_of_undecided timed
  · intro failure after result
    obtain ⟨last, _, _, ⟨_, succeeded, _⟩ | ⟨_, spent, failed, rfl⟩⟩ := Host.wait_cases result
    · cases succeeded
    · refine ⟨Except.error.inj failed, last, (Host.roundAt_deadline timed last).2.1 spent, ?_⟩
      exact (Host.roundAt_deadline timed (last + 1)).1
  · exact fun start instants => WaitPolicy.answers_deadline start duration patience instants
  · exact fun start earlier later => Expired.mono
  · intro call length reply after transfers answered
    exact Host.call_conveys (Host.follows_timed timed) transfers answered

/-- A host whose transmitter always has room and never runs empty, and whose clock advances
by one with every reading. -/
def Host.ticking : Host Backend.standard.Register UInt64 Unit where
  controller := Backend.standard.controller
  hardware :=
    { enable := id
      read := fun _ tick => (0x2, tick)
      write := fun _ _ => id
      address := fun _ _ => 0
      now := fun tick => (tick, tick + 1)
      command := fun _ => id
      elapse := fun _ => id }
  lines := .recorded
  waits := .deadline 2 10

/-- A bus of that host at an instant, with a device selected. -/
def Bus.ticking (now : UInt64) : Bus Backend.standard.Register UInt64 Unit where
  hardware := now
  lines := ()
  stage := .selected

/-- A wait that starts at five ends at seven; one that starts right before the end of the
clock ends there, after a single poll; and a transfer of two units times out in the wait for
the first answer. -/
theorem deadline_exact_ticking :
    Host.ticking.wait .txReady (.ticking 5) = some (.ok (), Host.ticking.after
      [.clock 5, .read .status 0x2] (.ticking 5)) ∧
    Host.ticking.wait .txEmpty (.ticking 5) = some (.error (.timeout .txEmpty),
      Host.ticking.after [.clock 5, .read .status 0x2, .clock 6, .read .status 0x2, .clock 7]
        (.ticking 5)) ∧
    Host.ticking.wait .txEmpty (.ticking 0xFFFFFFFFFFFFFFFE) = some (.error (.timeout .txEmpty),
      Host.ticking.after [.clock 0xFFFFFFFFFFFFFFFE, .read .status 0x2, .clock 0xFFFFFFFFFFFFFFFF]
        (.ticking 0xFFFFFFFFFFFFFFFE)) ∧
    ∃ reply after outcome, Host.ticking.call (.ticking 5) (.transmit .eight [1, 2]) =
        some (reply, after) ∧ reply.failure? = some (.timeout .rxReady) ∧
      reply.failure? = outcome.failure? ∧
      Host.ticking.Conveys (Timed Host.ticking.controller 2) 2 (.ticking 5) outcome after := by
  have timed : Host.ticking.waits = .deadline 2 10 := rfl
  obtain ⟨waits, _, _, calls⟩ := deadline_exact timed (.ticking 5)
  obtain ⟨lateWaits, _⟩ := deadline_exact timed (.ticking 0xFFFFFFFFFFFFFFFE)
  have goesOn : ∀ earlier < 1, (Host.ticking.lapAt (.ticking 5) earlier).GoesOn
      Host.ticking.controller .txEmpty (Host.ticking.startsAt (.ticking 5)) 2 := by
    intro earlier before
    obtain rfl : earlier = 0 := by omega
    exact ⟨rfl, by decide⟩
  have failed : (Host.ticking.call (.ticking 5) (.transmit .eight [1, 2])).map
      (fun answer => answer.1.failure?) = some (some (.timeout .rxReady)) := rfl
  obtain ⟨⟨reply, after⟩, answered, timeout⟩ := Option.map_eq_some_iff.1 failed
  refine ⟨((waits .txReady).1 0 (by decide) nofun).1 rfl,
    ((waits .txEmpty).1 1 (by decide) goesOn).2 rfl (by decide),
    ((lateWaits .txEmpty).1 0 (by decide) nofun).2 rfl (by decide), reply, after, ?_⟩
  obtain ⟨rfl, -⟩ | ⟨outcome, told, conveys⟩ := calls _ 2 _ _ rfl answered
  · cases timeout
  · exact ⟨outcome, answered, timeout, told, conveys⟩

end SerialBus
