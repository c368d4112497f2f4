import SerialBus.Proofs.Replay

/-!
# What waits and exchanges leave in the trace

A wait reads the status register until a value reports its condition or its budget
is spent, and looks at nothing else but the clock.  `Waited` is the set of traces
that this allows, as a grammar: status reads that report nothing, followed by
readings of the clock, and at the end either one that reports the condition or the
last one that does not.

An exchange is a handshake for every unit: a wait for room, one write of the
transmit register, a wait for the answer, and one read of the receive register.
`Shifted` is the grammar of its traces together with what it does to the buffers
of the caller; it is the recursion of the exchange with the hardware taken out.

The host follows both grammars on every hardware (`wait_waited`, `shift_shifted`),
and the bus it leaves behind differs from the one it began with by that trace, and
after a timeout by the stage (`exchange_shifted`).
-/

set_option autoImplicit false

namespace SerialBus

variable {ρ σ κ : Type}

/-! ## Waits -/

/-- What the polls of a wait for a condition leave in the trace, by its outcome. -/
inductive Polled (controller : Controller ρ) (condition : Condition) :
    Outcome → List (Event ρ) → Prop where
  | seen {value : UInt32} (reported : controller.reports condition value = true) :
      Polled controller condition (.ok ()) [.read controller.status value]
  | spent {value : UInt32} {clocks : List (Event ρ)}
      (silent : controller.reports condition value = false)
      (areClocks : ∀ event ∈ clocks, event.IsClock) :
      Polled controller condition (.error (.timeout condition))
        (.read controller.status value :: clocks)
  | again {value : UInt32} {clocks rest : List (Event ρ)} {outcome : Outcome}
      (silent : controller.reports condition value = false)
      (areClocks : ∀ event ∈ clocks, event.IsClock)
      (later : Polled controller condition outcome rest) :
      Polled controller condition outcome
        (.read controller.status value :: (clocks ++ rest))

/-- What a wait leaves in the trace: readings of the clock that start its budget,
and then its polls. -/
def Waited (controller : Controller ρ) (condition : Condition) (outcome : Outcome)
    (events : List (Event ρ)) : Prop :=
  ∃ clocks polls, (∀ event ∈ clocks, event.IsClock) ∧
    Polled controller condition outcome polls ∧ events = clocks ++ polls

/-- An event of a wait: a status read or a reading of the clock. -/
def Event.Waiting (controller : Controller ρ) (event : Event ρ) : Prop :=
  event.IsClock ∨ ∃ value, event = .read controller.status value

theorem Event.Waiting.traffic {controller : Controller ρ} {event : Event ρ}
    (waiting : event.Waiting controller) : event.Traffic controller := by
  rcases waiting with clock | ⟨value, rfl⟩
  · exact clock.traffic
  · exact trivial

theorem Event.Waiting.ne_adapter {controller : Controller ρ} {event : Event ρ}
    (waiting : event.Waiting controller) (level : Level) : event ≠ .adapter level := by
  rintro rfl
  rcases waiting with clock | ⟨value, read⟩
  · exact clock.elim
  · cases read

variable {controller : Controller ρ} {condition : Condition} {outcome : Outcome}
  {events : List (Event ρ)}

theorem Polled.outcome_cases (polled : Polled controller condition outcome events) :
    outcome = .ok () ∨ outcome = .error (.timeout condition) := by
  induction polled with
  | seen _ => exact .inl rfl
  | spent _ _ => exact .inr rfl
  | again _ _ _ ih => exact ih

theorem Polled.waiting (polled : Polled controller condition outcome events) :
    ∀ event ∈ events, event.Waiting controller := by
  induction polled with
  | @seen value _ =>
      intro event member
      exact .inr ⟨value, List.mem_singleton.1 member⟩
  | @spent value clocks _ areClocks =>
      intro event member
      rcases List.mem_cons.1 member with rfl | later
      · exact .inr ⟨value, rfl⟩
      · exact .inl (areClocks event later)
  | @again value clocks rest _ _ areClocks _ ih =>
      intro event member
      rcases List.mem_cons.1 member with rfl | later
      · exact .inr ⟨value, rfl⟩
      · rcases List.mem_append.1 later with clock | poll
        · exact .inl (areClocks event clock)
        · exact ih event poll

/-- A wait ends with its condition seen or with a timeout of that condition. -/
theorem Waited.outcome_cases (waited : Waited controller condition outcome events) :
    outcome = .ok () ∨ outcome = .error (.timeout condition) := by
  obtain ⟨_, _, _, polled, _⟩ := waited
  exact polled.outcome_cases

theorem Waited.waiting (waited : Waited controller condition outcome events) :
    ∀ event ∈ events, event.Waiting controller := by
  obtain ⟨clocks, polls, areClocks, polled, rfl⟩ := waited
  intro event member
  rcases List.mem_append.1 member with clock | poll
  · exact .inl (areClocks event clock)
  · exact polled.waiting event poll

/-- Polls that see their condition end with the status read that reports it. -/
theorem Polled.last_of_ok {polls : List (Event ρ)}
    (polled : Polled controller condition (.ok ()) polls) :
    ∃ earlier status, polls = earlier ++ [.read controller.status status] ∧
      controller.reports condition status = true := by
  generalize ended : (Except.ok () : Outcome) = outcome at polled
  induction polled with
  | @seen status reported => exact ⟨[], status, rfl, reported⟩
  | spent _ _ => cases ended
  | @again value clocks rest _ _ _ _ ih =>
      obtain ⟨earlier, status, rfl, reported⟩ := ih ended
      exact ⟨.read controller.status value :: (clocks ++ earlier), status, by simp, reported⟩

/-- A wait that sees its condition ends with the status read that reports it. -/
theorem Waited.last_of_ok (waited : Waited controller condition (.ok ()) events) :
    ∃ earlier status, events = earlier ++ [.read controller.status status] ∧
      controller.reports condition status = true ∧
      ∀ event ∈ earlier, event.Waiting controller := by
  have waiting := waited.waiting
  obtain ⟨clocks, polls, _, polled, rfl⟩ := waited
  obtain ⟨earlier, status, rfl, reported⟩ := polled.last_of_ok
  rw [← List.append_assoc] at waiting ⊢
  exact ⟨clocks ++ earlier, status, rfl, reported, fun event member =>
    waiting event (List.mem_append_left _ member)⟩

theorem Waited.traffic (waited : Waited controller condition outcome events) :
    ∀ event ∈ events, event.Traffic controller :=
  fun event member => (waited.waiting event member).traffic

namespace Host

variable (host : Host ρ σ κ) {bus after : Bus ρ σ κ}

theorem poll_eq (condition : Condition) (bus : Bus ρ σ κ) :
    host.poll condition bus =
      let value := (host.hardware.read host.controller.status bus.hardware).1
      (host.controller.reports condition value,
        host.after [.read host.controller.status value] bus) := rfl

theorem send_eq (unit : UInt16) (last : Bool) (bus : Bus ρ σ κ) :
    host.send unit last bus =
      host.after [.write host.controller.transmit (host.controller.encode unit last)] bus := rfl

theorem take_eq (bus : Bus ρ σ κ) :
    host.take bus =
      let value := (host.hardware.read host.controller.receive bus.hardware).1
      (host.controller.decode value, host.after [.read host.controller.receive value] bus) := rfl

variable {host}

/-- Polling follows its grammar, however often it may poll and whatever it finds. -/
theorem pollUntil_polled {polls : Nat} {budget : host.waits.Budget}
    (result : host.pollUntil condition polls budget bus = some (outcome, after)) :
    ∃ events, Polled host.controller condition outcome events ∧
      after = host.after events bus := by
  induction polls generalizing budget bus with
  | zero => simp [pollUntil] at result
  | succ polls ih =>
      rw [pollUntil, poll_eq] at result
      generalize (host.hardware.read host.controller.status bus.hardware).1 = value at result
      cases reported : host.controller.reports condition value with
      | true =>
          simp only [reported, Option.some.injEq, Prod.mk.injEq] at result
          obtain ⟨rfl, rfl⟩ := result
          exact ⟨_, .seen reported, rfl⟩
      | false =>
          obtain ⟨answer, clocks, areClocks, consulted⟩ := host.consult_eq
            (host.waits.spend budget) (host.after [.read host.controller.status value] bus)
          obtain ⟨spent, left⟩ := answer
          simp only [reported, consulted, after_after] at result
          cases spent with
          | true =>
              simp only [Option.some.injEq, Prod.mk.injEq] at result
              obtain ⟨rfl, rfl⟩ := result
              exact ⟨_, .spent reported areClocks, rfl⟩
          | false =>
              obtain ⟨rest, polled, rfl⟩ := ih result
              refine ⟨_, .again reported areClocks polled, ?_⟩
              rw [after_after]
              simp

/-- A wait follows its grammar on every hardware. -/
theorem wait_waited (result : host.wait condition bus = some (outcome, after)) :
    ∃ events, Waited host.controller condition outcome events ∧
      after = host.after events bus := by
  obtain ⟨budget, clocks, areClocks, consulted⟩ := host.consult_eq host.waits.start bus
  rw [wait, consulted] at result
  obtain ⟨polls, polled, rfl⟩ := pollUntil_polled result
  exact ⟨clocks ++ polls, ⟨clocks, polls, areClocks, polled, rfl⟩, host.after_after ..⟩

end Host

/-! ## Exchanges -/

/-- The stage after an exchange that began in a stage. -/
def Stage.afterExchange (stage : Stage) : Outcome → Stage
  | .ok () => stage
  | .error _ => if stage = .selected then .faulted else stage

/-- What exchanging the units that are left of a request leaves in the trace, and
what it does to the buffers, by its outcome. -/
inductive Shifted {w : Width} {β : Type} (controller : Controller ρ) (feed : Feed w β) :
    (left index : Nat) → β → Outcome → β → List (Event ρ) → Prop where
  | done {index : Nat} {buffers : β} :
      Shifted controller feed 0 index buffers (.ok ()) buffers []
  | noRoom {left index : Nat} {buffers : β} {events : List (Event ρ)}
      (room : Waited controller .txReady (.error (.timeout .txReady)) events) :
      Shifted controller feed (left + 1) index buffers (.error (.timeout .txReady)) buffers
        events
  | noAnswer {left index : Nat} {buffers : β} {before events : List (Event ρ)}
      (room : Waited controller .txReady (.ok ()) before)
      (answer : Waited controller .rxReady (.error (.timeout .rxReady)) events) :
      Shifted controller feed (left + 1) index buffers (.error (.timeout .rxReady)) buffers
        (before ++ .write controller.transmit
          (controller.encode (w.toUnit (feed.next index buffers)) (left = 0)) :: events)
  | unit {left index : Nat} {buffers final : β} {before between rest : List (Event ρ)}
      {value : UInt32} {outcome : Outcome}
      (room : Waited controller .txReady (.ok ()) before)
      (answer : Waited controller .rxReady (.ok ()) between)
      (later : Shifted controller feed left (index + 1)
        (feed.store index (w.ofUnit (controller.decode value)) buffers) outcome final rest) :
      Shifted controller feed (left + 1) index buffers outcome final
        (before ++ .write controller.transmit
          (controller.encode (w.toUnit (feed.next index buffers)) (left = 0)) ::
          (between ++ .read controller.receive value :: rest))

section Shifted

variable {w : Width} {β : Type} {feed : Feed w β} {left index : Nat} {buffers final : β}

/-- An exchange succeeds or times out for want of room or of an answer. -/
theorem Shifted.outcome_cases
    (shifted : Shifted controller feed left index buffers outcome final events) :
    outcome = .ok () ∨ outcome = .error (.timeout .txReady) ∨
      outcome = .error (.timeout .rxReady) := by
  induction shifted with
  | done => exact .inl rfl
  | noRoom _ => exact .inr (.inl rfl)
  | noAnswer _ _ => exact .inr (.inr rfl)
  | unit _ _ _ ih => exact ih

/-- What every answer stored keeps of the buffers, an exchange keeps. -/
theorem Shifted.kept (kept : β → Prop)
    (store : ∀ index word buffers, kept buffers → kept (feed.store index word buffers))
    (shifted : Shifted controller feed left index buffers outcome final events)
    (start : kept buffers) : kept final := by
  induction shifted with
  | done => exact start
  | noRoom _ => exact start
  | noAnswer _ _ => exact start
  | unit _ _ _ ih => exact ih (store _ _ _ start)

/-- What holds of the events of waits, of units sent and of units taken holds of every
event of an exchange. -/
theorem Shifted.each {property : Event ρ → Prop}
    (waits : ∀ event : Event ρ, event.Waiting controller → property event)
    (sends : ∀ value, property (.write controller.transmit value))
    (takes : ∀ value, property (.read controller.receive value))
    (shifted : Shifted controller feed left index buffers outcome final events) :
    ∀ event ∈ events, property event := by
  induction shifted with
  | done => simp
  | noRoom room => exact fun event member => waits event (room.waiting event member)
  | noAnswer room answer =>
      intro event member
      rcases List.mem_append.1 member with before | later
      · exact waits event (room.waiting event before)
      · rcases List.mem_cons.1 later with rfl | later
        · exact sends _
        · exact waits event (answer.waiting event later)
  | unit room answer _ ih =>
      intro event member
      rcases List.mem_append.1 member with before | later
      · exact waits event (room.waiting event before)
      · rcases List.mem_cons.1 later with rfl | later
        · exact sends _
        · rcases List.mem_append.1 later with between | later
          · exact waits event (answer.waiting event between)
          · rcases List.mem_cons.1 later with rfl | later
            · exact takes _
            · exact ih event later

/-- All that an exchange does is traffic. -/
theorem Shifted.traffic
    (shifted : Shifted controller feed left index buffers outcome final events) :
    ∀ event ∈ events, event.Traffic controller :=
  shifted.each (fun _ waiting => waiting.traffic) (fun _ => rfl) (fun _ => trivial)

namespace Host

variable {host : Host ρ σ κ} {bus after : Bus ρ σ κ}

/-- A wait inside an exchange is a wait, and a timeout of it changes the stage. -/
theorem await_waited (result : host.await condition bus = some (outcome, after)) :
    ∃ events, Waited host.controller condition outcome events ∧
      after = (host.after events bus).setStage (bus.stage.afterExchange outcome) := by
  obtain ⟨⟨waited, mid⟩, waits, result⟩ := Option.map_eq_some_iff.1 result
  obtain ⟨events, grammar, rfl⟩ := wait_waited waits
  refine ⟨events, ?_⟩
  cases waited with
  | ok =>
      obtain ⟨rfl, rfl⟩ := Prod.mk.injEq .. ▸ result
      exact ⟨grammar, rfl⟩
  | error failure =>
      obtain ⟨rfl, rfl⟩ := Prod.mk.injEq .. ▸ result
      exact ⟨grammar, rfl⟩

theorem await_ok (result : host.await condition bus = some (.ok (), after)) :
    ∃ events, Waited host.controller condition (.ok ()) events ∧
      after = host.after events bus := by
  obtain ⟨events, waited, rfl⟩ := await_waited result
  exact ⟨events, waited, rfl⟩

theorem await_error {failure : Failure}
    (result : host.await condition bus = some (.error failure, after)) :
    failure = .timeout condition ∧
      ∃ events, Waited host.controller condition (.error (.timeout condition)) events ∧
        after = (host.after events bus).setStage
          (bus.stage.afterExchange (.error (.timeout condition))) := by
  obtain ⟨events, waited, rfl⟩ := await_waited result
  obtain rfl : failure = .timeout condition := by simpa using waited.outcome_cases
  exact ⟨rfl, events, waited, rfl⟩

/-- The loop over the units follows its grammar on every hardware. -/
theorem shift_shifted
    (result : host.shift feed left index buffers bus = some (outcome, final, after)) :
    ∃ events, Shifted host.controller feed left index buffers outcome final events ∧
      after = (host.after events bus).setStage (bus.stage.afterExchange outcome) := by
  induction left generalizing index buffers bus with
  | zero =>
      simp only [shift, Option.some.injEq, Prod.mk.injEq] at result
      obtain ⟨rfl, rfl, rfl⟩ := result
      exact ⟨[], .done, rfl⟩
  | succ left ih =>
      rw [shift] at result
      split at result
      next => simp at result
      next room =>
        obtain ⟨rfl, events, waited, rfl⟩ := await_error room
        simp only [Option.some.injEq, Prod.mk.injEq] at result
        obtain ⟨rfl, rfl, rfl⟩ := result
        exact ⟨events, .noRoom waited, rfl⟩
      next room =>
        obtain ⟨before, roomWaited, rfl⟩ := await_ok room
        split at result
        next => simp at result
        next answer =>
          obtain ⟨rfl, events, answerWaited, rfl⟩ := await_error answer
          simp only [Option.some.injEq, Prod.mk.injEq] at result
          obtain ⟨rfl, rfl, rfl⟩ := result
          refine ⟨_, .noAnswer roomWaited answerWaited, ?_⟩
          rw [send_eq, after_after, after_after]
          simp
        next answer =>
          obtain ⟨between, answerWaited, rfl⟩ := await_ok answer
          simp only [send_eq, take_eq, after_after] at result
          obtain ⟨rest, later, rfl⟩ := ih result
          refine ⟨_, .unit roomWaited answerWaited later, ?_⟩
          rw [after_after]
          simp

/-- The order of calls is all that a host refuses a call for. -/
theorem outOfOrder_of_refusal {breach : Option Breach} {failure : Failure}
    (refused : host.refusal breach = some failure) :
    ∃ reason, breach = some reason ∧ failure = .outOfOrder reason := by
  simp only [refusal] at refused
  split at refused
  · simp at refused
  · obtain ⟨reason, found, rfl⟩ := Option.map_eq_some_iff.1 refused
    exact ⟨reason, found, rfl⟩

/-- An exchange is refused and touches nothing, or it follows its grammar. -/
theorem exchange_shifted {length : Nat}
    (result : host.exchange feed length buffers bus = some (outcome, final, after)) :
    (∃ failure, host.refusal bus.exchangeBreach = some failure ∧
      outcome = .error failure ∧ final = buffers ∧ after = bus) ∨
    (host.refusal bus.exchangeBreach = none ∧
      ∃ events, Shifted host.controller feed length 0 buffers outcome final events ∧
        after = (host.after events bus).setStage (bus.stage.afterExchange outcome)) := by
  rw [exchange] at result
  split at result
  next failure refused =>
    simp only [Option.some.injEq, Prod.mk.injEq] at result
    obtain ⟨rfl, rfl, rfl⟩ := result
    exact .inl ⟨failure, refused, rfl, rfl, rfl⟩
  next allowed => exact .inr ⟨allowed, shift_shifted result⟩

end Host

end Shifted

/-! ## Buffers that are long enough -/

theorem shortage_eq_none {α : Type} {buffer : Option (List α)} {length : Nat}
    (enough : ∀ words ∈ buffer, length ≤ words.length) : shortage buffer length = none := by
  cases buffer with
  | none => rfl
  | some words => exact if_neg (Nat.not_lt.2 (enough words rfl))

theorem bufferTooShort_of_shortage {α : Type} {buffer : Option (List α)} {length : Nat}
    {failure : Failure} (found : shortage buffer length = some failure) :
    ∃ available, failure = .bufferTooShort length available := by
  cases buffer with
  | none => simp [shortage] at found
  | some words =>
      simp only [shortage, Option.ite_none_right_eq_some, Option.some.injEq] at found
      exact ⟨words.length, found.2.symm⟩

end SerialBus
