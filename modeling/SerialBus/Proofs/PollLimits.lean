import SerialBus.Proofs.Draining
import SerialBus.Proofs.ExchangeGrammar
import SerialBus.Proofs.Recording
import SerialBus.Proofs.Rounds

/-!
# Waits with a limit of polls

Under a poll limit a wait is a row of status reads and nothing else, so what it finds are the
answers of the hardware to as many reads in a row (`Hardware.answerAt`).  The first of them
that reports the condition ends the wait if it is within the limit, and otherwise the last
one within the limit does (`Host.wait_of_answer`, `Host.wait_of_silence`).  A limit of zero
counts as one, and what earlier waits have used up counts for nothing, since the bus that
the wait begins on is any bus.

So every wait comes back, and every call is answered, on whatever hardware
(`poll_limit_exact`).  What a wait leaves in the trace is `Limited`, and from the grammar of
exchanges over it follow the number of polls of a transfer and the last of them when it
times out.
-/

set_option autoImplicit false

namespace SerialBus

variable {ρ σ κ : Type}

/-! ## Reads in a row -/

namespace Hardware

variable (hardware : Hardware ρ σ) (register : ρ) (state : σ)

/-- The hardware after so many reads of a register in a row. -/
def afterReads (count : Nat) : σ :=
  (fun now => (hardware.read register now).2)^[count] state

/-- What the read at an index gives, if a register is read again and again. -/
def answerAt (index : Nat) : UInt32 :=
  (hardware.read register (hardware.afterReads register state index)).1

/-- The events of so many reads of a register in a row. -/
def reads (count : Nat) : List (Event ρ) :=
  (List.range count).map fun index => .read register (hardware.answerAt register state index)

theorem reads_succ (count : Nat) :
    hardware.reads register state (count + 1) = hardware.reads register state count ++
      [.read register (hardware.answerAt register state count)] := by
  simp [reads, List.range_succ]

theorem replay_reads (count : Nat) :
    hardware.replay (hardware.reads register state count) state =
      hardware.afterReads register state count := by
  induction count with
  | zero => rfl
  | succ count ih =>
      rw [reads_succ, replay_append, ih]
      exact (Function.iterate_succ_apply' (fun now => (hardware.read register now).2) count
        state).symm

end Hardware

/-! ## The rounds of a wait -/

namespace Host

/-- The status reads of so many polls on a bus. -/
def pollsFrom (host : Host ρ σ κ) (bus : Bus ρ σ κ) (count : Nat) : List (Event ρ) :=
  host.hardware.reads host.controller.status bus.hardware count

/-- Whether the poll at an index reports a condition, if a bus is polled again and again. -/
def reportedAt (host : Host ρ σ κ) (bus : Bus ρ σ κ) (condition : Condition) (index : Nat) : Bool :=
  host.controller.reports condition
    (host.hardware.answerAt host.controller.status bus.hardware index)

variable {host : Host ρ σ κ} {bus : Bus ρ σ κ} {limit : UInt32} {condition : Condition}
  {index : Nat}

/-- The status read after so many polls of a bus. -/
theorem read_after_pollsFrom (host : Host ρ σ κ) (bus : Bus ρ σ κ) (count : Nat) :
    host.read host.controller.status (host.after (host.pollsFrom bus count) bus) =
      (host.hardware.answerAt host.controller.status bus.hardware count,
        host.after (host.pollsFrom bus (count + 1)) bus) := by
  have answer : (host.hardware.read host.controller.status
      (host.after (host.pollsFrom bus count) bus).hardware).1 =
        host.hardware.answerAt host.controller.status bus.hardware count := by
    rw [Hardware.answerAt, ← Hardware.replay_reads]
    rfl
  rw [read_eq, answer, after_after, pollsFrom, pollsFrom, Hardware.reads_succ]

/-- Under a poll limit a round is a status read, and the budget is spent by the rounds that
the limit allows. -/
theorem roundAt_pollLimit (bus : Bus ρ σ κ) (limited : host.waits = .pollLimit limit)
    (index : Nat) :
    (host.roundAt bus index).2 = host.after (host.pollsFrom bus index) bus ∧
      (host.spentAt bus index = true ↔ max limit.toNat 1 ≤ index + 1) := by
  obtain ⟨controller, hardware, lines, waits, clockHz, discipline, filler⟩ := host
  obtain rfl : waits = .pollLimit limit := limited
  let host : Host ρ σ κ :=
    ⟨controller, hardware, lines, .pollLimit limit, clockHz, discipline, filler⟩
  -- a round takes one from the budget, which stays at nothing once it is used up
  have rounds : ∀ index, host.roundAt bus index =
      ((max limit.toNat 1 - index : Nat), host.after (host.pollsFrom bus index) bus) := by
    intro index
    induction index with
    | zero => rfl
    | succ index ih =>
        have polled := congrArg Prod.snd (read_after_pollsFrom host bus index)
        exact (host.roundAt_succ bus index).trans ((congrArg host.round ih).trans
          (congrArg (Prod.mk (max limit.toNat 1 - (index + 1))) polled))
  refine ⟨congrArg Prod.snd (rounds index), ?_⟩
  change host.spentAt bus index = true ↔ _
  rw [spentAt, rounds index]
  change decide (max limit.toNat 1 - index - 1 = 0) = true ↔ _
  rw [decide_eq_true_iff]
  omega

theorem readyAt_pollLimit (limited : host.waits = .pollLimit limit) (condition : Condition)
    (index : Nat) : host.readyAt bus condition index = host.reportedAt bus condition index := by
  rw [readyAt, statusAt, (roundAt_pollLimit bus limited index).1, read_after_pollsFrom]
  rfl

/-- The rounds within the limit that see nothing let the wait go on. -/
theorem goesOn_pollLimit (limited : host.waits = .pollLimit limit)
    (inside : index < max limit.toNat 1)
    (silent : ∀ earlier < index, host.reportedAt bus condition earlier = false) :
    ∀ earlier < index, host.GoesOn bus condition earlier := by
  intro earlier before
  refine ⟨(readyAt_pollLimit limited condition earlier).trans (silent earlier before), ?_⟩
  have unspent := (roundAt_pollLimit bus limited earlier).2
  rw [← Bool.not_eq_true, unspent]
  omega

theorem patience_pollLimit (limited : host.waits = .pollLimit limit) :
    host.waits.patience = max limit.toNat 1 := by
  rw [limited]
  rfl

/-- The first answer that reports the condition ends the wait, if it is within the limit. -/
theorem wait_of_answer (limited : host.waits = .pollLimit limit)
    (inside : index < max limit.toNat 1)
    (silent : ∀ earlier < index, host.reportedAt bus condition earlier = false)
    (reported : host.reportedAt bus condition index = true) :
    host.wait condition bus =
      some (.ok (), host.after (host.pollsFrom bus (index + 1)) bus) := by
  have polled : host.polledAt bus index = host.after (host.pollsFrom bus (index + 1)) bus := by
    rw [polledAt, (roundAt_pollLimit bus limited index).1, read_after_pollsFrom]
  rw [← polled]
  exact wait_of_ready (patience_pollLimit limited ▸ inside) (goesOn_pollLimit limited inside silent)
    ((readyAt_pollLimit limited condition index).trans reported)

/-- A wait that sees nothing within the limit times out right at the limit. -/
theorem wait_of_silence (limited : host.waits = .pollLimit limit)
    (silent : ∀ index < max limit.toNat 1, host.reportedAt bus condition index = false) :
    host.wait condition bus = some (.error (.timeout condition),
      host.after (host.pollsFrom bus (max limit.toNat 1)) bus) := by
  obtain ⟨last, limit_eq⟩ : ∃ last, max limit.toNat 1 = last + 1 :=
    Nat.exists_eq_succ_of_ne_zero (by omega)
  have inside : last < max limit.toNat 1 := by omega
  have spent : host.spentAt bus last = true :=
    (roundAt_pollLimit bus limited last).2.2 (Nat.le_of_eq limit_eq)
  have waits := wait_of_spent (patience_pollLimit limited ▸ inside)
    (goesOn_pollLimit limited inside fun earlier before =>
      silent earlier (Nat.lt_trans before inside))
    ((readyAt_pollLimit limited condition last).trans (silent last inside)) spent
  rw [waits, (roundAt_pollLimit bus limited (last + 1)).1, limit_eq]

end Host

/-! ## What a wait leaves in the trace -/

/-- What a wait with a budget of polls leaves in the trace, by its outcome: status reads that
report nothing, and a last one that does, or as many as the budget allows. -/
inductive Limited (controller : Controller ρ) (budget : Nat) (condition : Condition) :
    Outcome → List (Event ρ) → Prop where
  | seen {silent : List UInt32} {last : UInt32}
      (unready : ∀ status ∈ silent, controller.reports condition status = false)
      (reported : controller.reports condition last = true) (within : silent.length < budget) :
      Limited controller budget condition (.ok ())
        ((silent ++ [last]).map (.read controller.status))
  | spent {silent : List UInt32}
      (unready : ∀ status ∈ silent, controller.reports condition status = false)
      (exhausted : silent.length = budget) :
      Limited controller budget condition (.error (.timeout condition))
        (silent.map (.read controller.status))

theorem Limited.length_le {controller : Controller ρ} {budget : Nat} {condition : Condition}
    {outcome : Outcome} {events : List (Event ρ)}
    (limited : Limited controller budget condition outcome events) : events.length ≤ budget := by
  cases limited with
  | seen unready reported within => simpa using Nat.succ_le_of_lt within
  | spent unready exhausted => simpa using Nat.le_of_eq exhausted

namespace Host

variable {host : Host ρ σ κ} {limit : UInt32}

theorem pollsFrom_eq (host : Host ρ σ κ) (bus : Bus ρ σ κ) (count : Nat) :
    host.pollsFrom bus count = ((List.range count).map
      (host.hardware.answerAt host.controller.status bus.hardware)).map
        (.read host.controller.status) := by
  rw [List.map_map]
  rfl

/-- Under a poll limit every wait comes back, and leaves what its budget allows. -/
theorem wait_limited (limited : host.waits = .pollLimit limit) (condition : Condition)
    (bus : Bus ρ σ κ) :
    ∃ outcome events, Limited host.controller (max limit.toNat 1) condition outcome events ∧
      host.wait condition bus = some (outcome, host.after events bus) := by
  by_cases answers : ∃ index, host.reportedAt bus condition index = true ∧ index < max limit.toNat 1
  · obtain ⟨reported, inside⟩ := Nat.find_spec answers
    have silent : ∀ earlier < Nat.find answers, host.reportedAt bus condition earlier = false := by
      intro earlier before
      have unreported := Nat.find_min answers before
      rw [not_and] at unreported
      exact Bool.eq_false_iff.2 fun reports =>
        unreported reports (Nat.lt_trans before inside)
    refine ⟨_, _, ?_, wait_of_answer limited inside silent reported⟩
    rw [pollsFrom_eq, List.range_succ, List.map_append]
    refine .seen ?_ reported (by simpa using inside)
    intro status member
    obtain ⟨earlier, before, rfl⟩ := List.mem_map.1 member
    exact silent earlier (List.mem_range.1 before)
  · have silent : ∀ index < max limit.toNat 1, host.reportedAt bus condition index = false :=
      fun index inside => Bool.eq_false_iff.2 fun reported => answers ⟨index, reported, inside⟩
    refine ⟨_, _, ?_, wait_of_silence limited silent⟩
    rw [pollsFrom_eq]
    refine .spent ?_ (by simp)
    intro status member
    obtain ⟨index, inside, rfl⟩ := List.mem_map.1 member
    exact silent index (List.mem_range.1 inside)

theorem follows_limited (limited : host.waits = .pollLimit limit) :
    host.Follows (Limited host.controller (max limit.toNat 1)) := by
  intro condition bus outcome after result
  obtain ⟨reported, events, grammar, waits⟩ := wait_limited limited condition bus
  cases waits.symm.trans result
  exact ⟨events, grammar, rfl⟩

theorem wait_isSome (limited : host.waits = .pollLimit limit) (condition : Condition)
    (bus : Bus ρ σ κ) : (host.wait condition bus).isSome := by
  obtain ⟨_, _, _, waits⟩ := wait_limited limited condition bus
  rw [waits]
  rfl

end Host

/-! ## Polls of a call -/

/-- The number of waits that a call makes at most, if it waits or transfers units. -/
def Call.waits? : Call → Option Nat
  | .flush | .drain _ | .deselect _ | .closeSession _ | .abandonSession _ => some 1
  | call => call.units?.map (2 * ·)

/-- An event is a status read. -/
def Event.isPoll [DecidableEq ρ] (controller : Controller ρ) : Event ρ → Bool
  | .read register _ => register = controller.status
  | _ => false

/-- Events end with so many status reads and no more, and none of these reports a condition. -/
def Trace.EndsUnready [DecidableEq ρ] (controller : Controller ρ) (condition : Condition)
    (count : Nat) (events : List (Event ρ)) : Prop :=
  ∃ (earlier : List (Event ρ)) (silent : List UInt32),
    events = earlier ++ silent.map (.read controller.status) ∧ silent.length = count ∧
      (∀ status ∈ silent, controller.reports condition status = false) ∧
      ∀ event ∈ earlier.getLast?, event.isPoll controller = false

theorem Event.Mute.not_isPoll [DecidableEq ρ] {controller : Controller ρ} {event : Event ρ}
    (mute : event.Mute controller) : event.isPoll controller = false := by
  cases event with
  | read register value => exact decide_eq_false mute.1
  | _ => rfl

section Polls

variable {backend : Backend} {host : Host backend.Register σ κ} {limit : UInt32}
  {bus after : Bus backend.Register σ κ}

/-- Letting go of a device takes no poll. -/
theorem Host.letGo_polls (bus : Bus backend.Register σ κ)
    (drives : host.controller = backend.controller) (device : Device) :
    ∃ events, (host.letGo device bus).trace = bus.trace ++ events ∧
      events.countP (·.isPoll host.controller) = 0 := by
  have deaf : host.controller.Deaf := drives ▸ backend.deaf
  obtain ⟨events, trace, mute⟩ := host.letGo_mutely bus deaf device
  refine ⟨events, trace, List.countP_eq_zero.2 fun event member => ?_⟩
  simp [(mute event member).not_isPoll]

theorem Host.wait_polls (limited : host.waits = .pollLimit limit) {condition : Condition}
    {outcome : Outcome} (result : host.wait condition bus = some (outcome, after)) :
    ∃ events, after = host.after events bus ∧
      events.countP (·.isPoll host.controller) ≤ max limit.toNat 1 := by
  obtain ⟨events, grammar, left⟩ := follows_limited limited _ _ _ _ result
  exact ⟨events, left, Nat.le_trans List.countP_le_length grammar.length_le⟩

theorem Host.deselect_polls (drives : host.controller = backend.controller)
    (limited : host.waits = .pollLimit limit) {device : Device} {outcome : Outcome}
    (result : host.deselect device bus = some (outcome, after)) :
    ∃ events, after.trace = bus.trace ++ events ∧
      events.countP (·.isPoll host.controller) ≤ max limit.toNat 1 := by
  rw [deselect] at result
  split at result
  next =>
    cases result
    exact ⟨[], by simp, by simp⟩
  next =>
    obtain ⟨⟨waited, mid⟩, waits, same⟩ := Option.map_eq_some_iff.1 result
    cases same
    obtain ⟨drain, rfl, counted⟩ := wait_polls limited waits
    obtain ⟨events, trace, unpolled⟩ := letGo_polls (host.after drain bus) drives device
    refine ⟨drain ++ events, by rw [trace, after_trace, List.append_assoc], ?_⟩
    rw [List.countP_append, unpolled]
    exact counted

theorem Host.transfer_polls (drives : host.controller = backend.controller)
    (limited : host.waits = .pollLimit limit) {call : Call} {reply : Reply} {length : Nat}
    (transfers : call.units? = some length) (answered : host.call bus call = some (reply, after)) :
    ∃ events, after.trace = bus.trace ++ events ∧
      events.countP (·.isPoll host.controller) ≤ 2 * length * max limit.toNat 1 := by
  obtain ⟨-, rfl⟩ | ⟨outcome, -, conveys⟩ :=
    call_conveys (follows_limited limited) transfers answered
  · exact ⟨[], by simp, by simp⟩
  · cases conveys with
    | refused => exact ⟨[], by simp, by simp⟩
    | exchanged exchanged trace =>
        refine ⟨_, trace, exchanged.countP_le ?_ (fun _ => rfl) fun value => ?_⟩
        · exact fun _ _ _ grammar => Nat.le_trans List.countP_le_length grammar.length_le
        · exact decide_eq_false (drives ▸ backend.status_ne_receive.symm)

/-- A call polls at most as often as all its waits may. -/
theorem Host.call_polls (drives : host.controller = backend.controller)
    (limited : host.waits = .pollLimit limit) {call : Call} {reply : Reply} {count : Nat}
    (waits : call.waits? = some count) (answered : host.call bus call = some (reply, after)) :
    ∃ events, after.trace = bus.trace ++ events ∧
      events.countP (·.isPoll host.controller) ≤ count * max limit.toNat 1 := by
  cases call with
  | flush =>
      cases waits
      obtain ⟨⟨outcome, _⟩, result, same⟩ := Option.map_eq_some_iff.1 answered
      cases same
      obtain ⟨events, rfl, counted⟩ := wait_polls limited result
      rw [Nat.one_mul]
      exact ⟨events, host.after_trace events bus, counted⟩
  | drain =>
      cases waits
      rw [Host.call, shifting] at answered
      split at answered
      · obtain ⟨⟨outcome, _⟩, result, same⟩ := Option.map_eq_some_iff.1 answered
        cases same
        obtain ⟨events, rfl, counted⟩ := wait_polls limited result
        rw [Nat.one_mul]
        exact ⟨events, host.after_trace events bus, counted⟩
      · cases answered
        exact ⟨[], by simp, by simp⟩
  | deselect | closeSession =>
      cases waits
      obtain ⟨outcome, result⟩ := deselect_of_call rfl answered
      rw [Nat.one_mul]
      exact deselect_polls drives limited result
  | abandonSession session =>
      cases waits
      rw [Nat.one_mul]
      cases isOpen : session.isOpen with
      | true =>
          have releases : (Call.abandonSession session).released? = some session.device :=
            if_pos isOpen
          obtain ⟨outcome, result⟩ := deselect_of_call releases answered
          exact deselect_polls drives limited result
      | false =>
          rw [Host.call, abandonSession_of_closed isOpen] at answered
          cases answered
          exact ⟨[], by simp, by simp⟩
  | transceive | receive | transmit | transfer | transferInPlace =>
      cases waits
      exact transfer_polls drives limited rfl answered
  | _ => cases waits

/-- A call for a transfer that times out ends with a wait that has seen nothing. -/
theorem Host.call_ends_unready (drives : host.controller = backend.controller)
    (limited : host.waits = .pollLimit limit) {call : Call} {reply : Reply} {length : Nat}
    {condition : Condition} (transfers : call.units? = some length)
    (answered : host.call bus call = some (reply, after))
    (failed : reply.failure? = some (.timeout condition)) :
    ∃ events, after.trace = bus.trace ++ events ∧
      Trace.EndsUnready host.controller condition (max limit.toNat 1) events := by
  obtain ⟨rfl, -⟩ | ⟨outcome, told, conveys⟩ :=
    call_conveys (follows_limited limited) transfers answered
  · cases failed
  · rw [failed] at told
    cases conveys with
    | @refused failure objection =>
        exact absurd (Option.some.inj told).symm (objection.ne_timeout condition)
    | exchanged exchanged trace =>
        obtain rfl : outcome = .error (.timeout condition) := by
          cases outcome with
          | ok => cases told
          | error failure => rw [← Option.some.inj told]
        obtain ⟨earlier, last, rfl, grammar, follows⟩ := exchanged.of_timeout
        cases grammar with
        | @spent silent unready exhausted =>
            refine ⟨_, trace, earlier, silent, rfl, exhausted, unready, fun event member => ?_⟩
            obtain ⟨unit, rfl⟩ | ⟨value, rfl⟩ := follows event member
            · rfl
            · exact decide_eq_false (drives ▸ backend.status_ne_receive.symm)

/-- **Waits with a limit of polls are exact, and every call comes back.**  A wait ends with the
first answer that reports its condition if that is within the limit, and right at the limit
if there is none; a limit of zero counts as one.  This is so on every bus, whatever waits
there were before.  So every call is answered, and one that only waits, or waits and releases
a device, polls at most to the limit; one that transfers units polls at most twice as often
for every unit, and if it times out, it ends with as many polls as the limit allows, none of
which reports the condition. -/
theorem poll_limit_exact (drives : host.controller = backend.controller)
    (limited : host.waits = .pollLimit limit) (bus : Bus backend.Register σ κ) :
    (∀ condition,
      (∀ index < max limit.toNat 1,
        (∀ earlier < index, host.reportedAt bus condition earlier = false) →
        host.reportedAt bus condition index = true →
          host.wait condition bus =
            some (.ok (), host.after (host.pollsFrom bus (index + 1)) bus)) ∧
      ((∀ index < max limit.toNat 1, host.reportedAt bus condition index = false) →
        host.wait condition bus = some (.error (.timeout condition),
          host.after (host.pollsFrom bus (max limit.toNat 1)) bus))) ∧
    ∀ call, ∃ reply after events, host.call bus call = some (reply, after) ∧
      after.trace = bus.trace ++ events ∧
      (∀ count ∈ call.waits?,
        events.countP (·.isPoll host.controller) ≤ count * max limit.toNat 1) ∧
      ∀ length ∈ call.units?, ∀ condition, reply.failure? = some (.timeout condition) →
        Trace.EndsUnready host.controller condition (max limit.toNat 1) events := by
  refine ⟨fun condition => ⟨fun index inside silent reported => ?_, fun silent => ?_⟩,
    fun call => ?_⟩
  · exact Host.wait_of_answer limited inside silent reported
  · exact Host.wait_of_silence limited silent
  · obtain ⟨⟨reply, after⟩, answered⟩ := Option.isSome_iff_exists.1
      (Host.call_isSome (Host.wait_isSome limited) call bus)
    obtain ⟨events, trace, -⟩ := Host.call_grows answered
    refine ⟨reply, after, events, answered, trace, fun count waits => ?_,
      fun length transfers condition failed => ?_⟩
    · obtain ⟨same, sameTrace, counted⟩ := Host.call_polls drives limited waits answered
      rwa [List.append_cancel_left (trace.symm.trans sameTrace)]
    · obtain ⟨same, sameTrace, ends⟩ :=
        Host.call_ends_unready drives limited transfers answered failed
      rwa [List.append_cancel_left (trace.symm.trans sameTrace)]

/-- With a limit of two, room is seen at the first poll and everything sent is never seen to
leave; a transfer of two units times out in the wait for the first answer. -/
theorem poll_limit_exact_undrained :
    ∃ (bus : Bus Backend.standard.Register Unit Unit) (reply : Reply)
      (after : Bus Backend.standard.Register Unit Unit)
      (events : List (Event Backend.standard.Register)),
      Host.undrained.wait .txReady bus =
        some (.ok (), Host.undrained.after (Host.undrained.pollsFrom bus 1) bus) ∧
      Host.undrained.wait .txEmpty bus = some (.error (.timeout .txEmpty),
        Host.undrained.after (Host.undrained.pollsFrom bus 2) bus) ∧
      Host.undrained.call bus (.transmit .eight [1, 2]) = some (reply, after) ∧
      reply.failure? = some (.timeout .rxReady) ∧ after.trace = bus.trace ++ events ∧
      events.countP (·.isPoll Host.undrained.controller) ≤ 2 * 2 * 2 ∧
      Trace.EndsUnready Host.undrained.controller .rxReady 2 events := by
  let bus : Bus Backend.standard.Register Unit Unit :=
    { hardware := (), lines := (), stage := .selected }
  have drives : Host.undrained.controller = Backend.standard.controller := rfl
  have limited : Host.undrained.waits = .pollLimit 2 := rfl
  obtain ⟨waits, calls⟩ := poll_limit_exact drives limited bus
  obtain ⟨reply, after, events, answered, trace, counted, ends⟩ := calls (.transmit .eight [1, 2])
  have failed : (Host.undrained.call bus (.transmit .eight [1, 2])).map
      (fun answer => answer.1.failure?) = some (some (.timeout .rxReady)) := rfl
  rw [answered] at failed
  have timeout := Option.some.inj failed
  have answers (condition : Condition) (index : Nat) :
      Host.undrained.reportedAt bus condition index =
        Standard.controller.reports condition 0x2 := rfl
  exact ⟨bus, reply, after, events,
    (waits .txReady).1 0 (by decide) nofun ((answers .txReady 0).trans rfl),
    (waits .txEmpty).2 fun index _ => (answers .txEmpty index).trans rfl,
    answered, timeout, trace, counted _ rfl, ends _ rfl _ timeout⟩

end Polls

end SerialBus
