import SerialBus.Proofs.Backend
import SerialBus.Proofs.Deeds

/-!
# How calls are answered

A call begins with its checks: whether the controller can do what is asked at all,
whether the call is in order, and whether baud rate, buffers and length will do.  When
one of them objects, nothing has happened yet.  The bus comes back as it was, its
trace included, and so does the buffer of the caller (`Call.refused`).

What follows the checks is one of a few things: deeds alone, a wait for everything
sent to leave the controller, an exchange of units, commands to the DMA engine, or a
transaction made of such operations.  `Host.Answers` lists the ways in which a call is
answered, and `call_answers` shows that there are no others, so most of what is said of
calls needs no look at each of them.

Two things are read off the list.  Every call is traffic followed by its deeds
(`call_leads`).  And a failure other than a timeout is the objection of a check, so it
leaves everything as it was (`failure_leaves_bus`).
-/

set_option autoImplicit false

namespace SerialBus

variable {ρ σ κ : Type}

/-! ## Objections -/

/-- A failure that a check finds before anything is done.  Only on a strict host is a
call out of order. -/
inductive Host.Objection (host : Host ρ σ κ) : Failure → Prop where
  | outOfOrder {breach : Breach} (strict : host.discipline = .strict) :
      Objection host (.outOfOrder breach)
  | invalidBaudRate {baudHz : UInt32} : Objection host (.invalidBaudRate baudHz)
  | bufferTooShort {needed available : Nat} : Objection host (.bufferTooShort needed available)
  | transferTooLong {length : Nat} : Objection host (.transferTooLong length)

/-- The reply to a call whose checks object: a buffer comes back as it was given. -/
def Call.refused (failure : Failure) : Call → Reply
  | .transceive w _ incoming _ => .exchanged w (.error failure) incoming
  | .receive w incoming => .exchanged w (.error failure) (some incoming)
  | .transfer w incoming _ => .exchanged w (.error failure) (some incoming)
  | .transferInPlace w words => .exchanged w (.error failure) (some words)
  | .transact w operations => .transacted w (.error failure) operations
  | _ => .outcome (.error failure)

theorem Call.failure?_refused (failure : Failure) (call : Call) :
    (call.refused failure).failure? = some failure := by
  cases call <;> rfl

namespace Host

variable {host : Host ρ σ κ} {failure : Failure}

namespace Objection

/-- No check waits for anything. -/
theorem ne_timeout (objection : host.Objection failure) (condition : Condition) :
    failure ≠ .timeout condition := by
  rintro rfl
  cases objection

theorem faults_eq (objection : host.Objection failure) : faults (some failure) = [] := by
  cases objection <;> rfl

theorem of_refusal {breach : Option Breach} (refused : host.refusal breach = some failure) :
    host.Objection failure := by
  obtain ⟨reason, _, rfl⟩ := outOfOrder_of_refusal refused
  refine .outOfOrder ?_
  cases discipline : host.discipline with
  | permissive => simp [refusal, discipline] at refused
  | strict => rfl

theorem of_shortage {α : Type} {buffer : Option (List α)} {length : Nat}
    (found : shortage buffer length = some failure) : host.Objection failure := by
  obtain ⟨_, rfl⟩ := bufferTooShort_of_shortage found
  exact .bufferTooShort

theorem of_dmaRefusal {buffer : Option Dma.Buffer} {length : Nat}
    (refused : Dma.refusal buffer length = some failure) : host.Objection failure := by
  rw [Dma.refusal] at refused
  split at refused
  · cases refused
    exact .transferTooLong
  · exact .of_shortage refused

end Objection

/-! ## Transfers -/

variable {bus mid after : Bus ρ σ κ} {outcome : Outcome}

/-- What a transfer comes to, for a buffer given by the caller: a check objects, and
buffer and bus stay as they are, or units are exchanged. -/
inductive Transfers (host : Host ρ σ κ) (bus : Bus ρ σ κ) {γ : Type} (given : γ) :
    Outcome → γ → Bus ρ σ κ → Prop where
  | refused {failure : Failure} (objection : host.Objection failure) :
      Transfers host bus given (.error failure) given bus
  | shifted {w : Width} {β : Type} {feed : Feed w β} {length : Nat} {buffers final : β}
      {outcome : Outcome} {events : List (Event ρ)} {back : γ}
      (allowed : host.refusal bus.exchangeBreach = none)
      (shifted : Shifted host.controller feed length 0 buffers outcome final events) :
      Transfers host bus given outcome back
        ((host.after events bus).setStage (bus.stage.afterExchange outcome))

theorem Transfers.map {γ δ : Type} {given back : γ} (change : γ → δ)
    (transfers : host.Transfers bus given outcome back after) :
    host.Transfers bus (change given) outcome (change back) after := by
  cases transfers with
  | refused objection => exact .refused objection
  | shifted allowed shifted => exact .shifted allowed shifted

theorem exchange_transfers {w : Width} {β : Type} {feed : Feed w β} {length : Nat}
    {buffers final : β}
    (result : host.exchange feed length buffers bus = some (outcome, final, after)) :
    host.Transfers bus buffers outcome final after := by
  rcases exchange_shifted result with ⟨failure, refused, rfl, rfl, rfl⟩ | ⟨allowed, shifted⟩
  · exact .refused (.of_refusal refused)
  · obtain ⟨events, shifted, rfl⟩ := shifted
    exact .shifted allowed shifted

theorem transceive_transfers {w : Width} {outgoing incoming final : Option (List w.Word)}
    {length : Nat}
    (result : host.transceive w outgoing incoming length bus = some (outcome, final, after)) :
    host.Transfers bus incoming outcome final after := by
  rw [transceive] at result
  split at result
  next short =>
    cases result
    exact .refused (.of_shortage short)
  next =>
    split at result
    next short =>
      cases result
      exact .refused (.of_shortage short)
    next => exact exchange_transfers result

theorem receive_transfers {w : Width} {incoming final : List w.Word}
    (result : host.receive w incoming bus = some (outcome, final, after)) :
    host.Transfers bus incoming outcome final after := by
  obtain ⟨⟨_, buffer, _⟩, transceived, same⟩ := Option.map_eq_some_iff.1 result
  cases same
  exact (transceive_transfers transceived).map fun buffer => buffer.getD incoming

theorem transmit_transfers {w : Width} {outgoing : List w.Word}
    (result : host.transmit w outgoing bus = some (outcome, after)) :
    host.Transfers bus () outcome () after := by
  obtain ⟨⟨_, _, _⟩, transceived, same⟩ := Option.map_eq_some_iff.1 result
  cases same
  exact (transceive_transfers transceived).map fun _ => ()

/-- A transfer leads to its fault if it timed out, and never waits for everything sent to
leave the controller. -/
theorem Transfers.leads {γ : Type} {given back : γ}
    (transfers : host.Transfers bus given outcome back after) :
    outcome ≠ .error (.timeout .txEmpty) ∧ host.Leads (faults outcome.failure?) bus after := by
  cases transfers with
  | refused objection =>
      refine ⟨fun same => ?_, ?_⟩
      · exact objection.ne_timeout _ (Except.error.inj same)
      · rw [Outcome.failure?, objection.faults_eq]
        exact .nothing
  | @shifted _ _ _ _ _ _ _ events _ allowed shifted =>
      have traffic := shifted.traffic
      rcases shifted.outcome_cases with rfl | rfl | rfl
      · exact ⟨nofun, events, traffic, fun _ => allowed, .nil⟩
      · exact ⟨nofun, events, traffic, fun _ => allowed, .cons (.fault allowed) .nil⟩
      · exact ⟨nofun, events, traffic, fun _ => allowed, .cons (.fault allowed) .nil⟩

/-! ## Operations of a transaction -/

/-- What one operation of a transaction comes to. -/
inductive Operates (host : Host ρ σ κ) (bus : Bus ρ σ κ) : Outcome → Bus ρ σ κ → Prop where
  | transferred {γ : Type} {given back : γ} {outcome : Outcome} {after : Bus ρ σ κ}
      (transfers : host.Transfers bus given outcome back after) :
      Operates host bus outcome after
  | delayed {events : List (Event ρ)} {nanoseconds : UInt32}
      (waited : Waited host.controller .txEmpty (.ok ()) events) :
      Operates host bus (.ok ()) (host.after (events ++ [.delay nanoseconds]) bus)
  | undrained {events : List (Event ρ)}
      (waited : Waited host.controller .txEmpty (.error (.timeout .txEmpty)) events) :
      Operates host bus (.error (.timeout .txEmpty)) (host.after events bus)

theorem operates_of_performed {w : Width} {operation done : Operation w}
    (performed : operation.Performed host bus outcome done after) :
    host.Operates bus outcome after := by
  cases performed with
  | receive answered => exact .transferred (receive_transfers answered)
  | transmit answered => exact .transferred (transmit_transfers answered)
  | transfer answered => exact .transferred (exchange_transfers answered)
  | transferInPlace answered => exact .transferred (exchange_transfers answered)
  | delay drained =>
      obtain ⟨events, waited, rfl⟩ := wait_waited drained
      rw [elapse_eq, after_after]
      exact .delayed waited
  | undrained failed =>
      obtain ⟨events, waited, rfl⟩ := wait_waited failed
      rcases waited.outcome_cases with ok | timeout
      · cases ok
      · cases timeout
        exact .undrained waited

/-- What relates the buses around each operation, and passes from one to the next,
relates the buses around all of them. -/
theorem operateAll_relates (related : Outcome → Bus ρ σ κ → Bus ρ σ κ → Prop)
    (nothing : ∀ bus, related (.ok ()) bus bus)
    (chained : ∀ {outcome : Outcome} {bus mid after : Bus ρ σ κ}, related (.ok ()) bus mid →
      related outcome mid after → related outcome bus after)
    (single : ∀ {outcome : Outcome} {bus after : Bus ρ σ κ}, host.Operates bus outcome after →
      related outcome bus after)
    {w : Width} {operations done : List (Operation w)}
    (result : host.operateAll bus operations = some (outcome, done, after)) :
    related outcome bus after := by
  rw [← performedInOrder_iff] at result
  induction result with
  | nil => exact nothing _
  | failed performed => exact single (operates_of_performed performed)
  | next performed _ ih => exact chained (single (operates_of_performed performed)) ih

/-- A transaction is its operations and one more wait between two drives of the pin, and
the failure of an operation comes before that of the wait. -/
theorem transact_cases {w : Width} {operations done : List (Operation w)}
    (result : host.transact operations bus = some (outcome, done, after)) :
    ∃ carried drained mid events,
      host.operateAll (bus.note (.adapter .low)) operations = some (carried, done, mid) ∧
      host.flush mid = some (drained, host.after events mid) ∧
      Waited host.controller .txEmpty drained events ∧
      after = host.after (events ++ [.adapter .high]) mid ∧
      (outcome = carried ∧ carried ≠ .ok () ∨ outcome = drained ∧ carried = .ok ()) := by
  rw [transact] at result
  split at result
  next => simp at result
  next carried done mid carriedOut =>
    obtain ⟨⟨drained, _⟩, waits, same⟩ := Option.map_eq_some_iff.1 result
    obtain ⟨events, waited, rfl⟩ := wait_waited waits
    have raised : (host.after events mid).note (.adapter .high) =
        host.after (events ++ [.adapter .high]) mid := by
      rw [note_adapter_eq, after_after]
    refine ⟨carried, drained, mid, events, ?_⟩
    cases carried with
    | error failure =>
        cases same
        exact ⟨carriedOut, waits, waited, raised, .inl ⟨rfl, nofun⟩⟩
    | ok =>
        cases same
        exact ⟨carriedOut, waits, waited, raised, .inr ⟨rfl, rfl⟩⟩

/-- Outside the waits for everything sent to leave the controller, a transaction and
a transfer fault alike. -/
theorem transactionFaults_eq (transfer : outcome ≠ .error (.timeout .txEmpty)) :
    transactionFaults outcome.failure? = faults outcome.failure? := by
  unfold transactionFaults
  split
  next drained =>
    cases outcome with
    | ok => simp [Outcome.failure?] at drained
    | error failure =>
        obtain rfl : failure = .timeout .txEmpty := Option.some.inj drained
        exact absurd rfl transfer
  next => rfl

theorem Operates.leads (operates : host.Operates bus outcome after) :
    host.Leads (transactionFaults outcome.failure?) bus after := by
  cases operates with
  | transferred transfers =>
      obtain ⟨transfer, leads⟩ := transfers.leads
      exact transactionFaults_eq transfer ▸ leads
  | @delayed events nanoseconds waited =>
      apply Leads.of_quiet
      intro event member
      rcases List.mem_append.1 member with poll | delay
      · exact (waited.waiting event poll).quiet
      · rw [List.mem_singleton.1 delay]
        exact trivial
  | undrained waited => exact .of_quiet fun event member => (waited.waiting event member).quiet

theorem transact_leads {w : Width} {operations done : List (Operation w)}
    (result : host.transact operations bus = some (outcome, done, after)) :
    host.Leads (transactionFaults outcome.failure?) bus after := by
  obtain ⟨carried, drained, mid, events, carriedOut, -, waited, rfl, reported⟩ :=
    transact_cases result
  have quiet : ∀ event ∈ events ++ [.adapter .high], event.Quiet := by
    intro event member
    rcases List.mem_append.1 member with poll | drive
    · exact (waited.waiting event poll).quiet
    · rw [List.mem_singleton.1 drive]
      exact trivial
  have lowered : host.Leads [] bus (bus.note (.adapter .low)) := by
    rw [note_adapter_eq]
    exact .of_quiet (by simp [Event.Quiet])
  have operated := operateAll_relates
    (fun outcome bus after => host.Leads (transactionFaults outcome.failure?) bus after)
    (fun _ => .nothing) (fun first second => first.trans second) Operates.leads carriedOut
  -- the fault of an operation that timed out stands, whatever the last wait brings
  have carriedThrough := (lowered.trans operated).then_quiet quiet
  rcases reported with ⟨rfl, _⟩ | ⟨rfl, rfl⟩
  · exact carriedThrough
  · rcases waited.outcome_cases with rfl | rfl
    · exact carriedThrough
    · exact carriedThrough

/-! ## Deeds -/

theorem configure_cases {device : Device} {mode : Mode} {baudHz : UInt32}
    (result : host.configure device mode baudHz bus = (outcome, after)) :
    (outcome = .ok () ∧ host.Enacted (.configure device mode baudHz) bus after) ∨
      ∃ failure, host.Objection failure ∧ outcome = .error failure ∧ after = bus := by
  rw [configure] at result
  split at result
  next refused =>
    cases result
    exact .inr ⟨_, .of_refusal refused, rfl, rfl⟩
  next allowed =>
    split at result
    next =>
      cases result
      exact .inr ⟨_, .invalidBaudRate, rfl, rfl⟩
    next legal =>
      cases result
      exact .inl ⟨rfl, .configure allowed legal⟩

theorem select_cases {device : Device}
    (result : host.select device bus = (outcome, after)) :
    (outcome = .ok () ∧ host.Enacted (.select device) bus after) ∨
      ∃ failure, host.refusal (bus.selectBreach device) = some failure ∧
        outcome = .error failure ∧ after = bus := by
  rw [select] at result
  split at result
  next refused =>
    cases result
    exact .inr ⟨_, refused, rfl, rfl⟩
  next allowed =>
    cases result
    exact .inl ⟨rfl, .select allowed⟩

/-- Selecting a device that was just configured is in order. -/
theorem selectBreach_of_configured {device : Device} {mode : Mode} {baudHz : UInt32}
    (enacted : host.Enacted (.configure device mode baudHz) bus mid) :
    mid.selectBreach device = none := by
  cases enacted
  simp [Bus.selectBreach, Stage.engaged, Stage.settled]

/-- Opening a session fails before it does anything, because a device that was just
configured can be selected. -/
theorem openSession_cases {held : Guard} {device : Device} {mode : Mode} {baudHz : UInt32}
    {opened : Except Failure Session}
    (result : host.openSession held device mode baudHz bus = (opened, after)) :
    (opened = .ok { device } ∧
        host.Enacts [.configure device mode baudHz, .select device] bus after) ∨
      ∃ failure, host.Objection failure ∧ opened = .error failure ∧ after = bus := by
  rw [openSession] at result
  split at result
  next failure configured =>
    obtain ⟨nothing, _⟩ | ⟨_, objection, same, rfl⟩ := configure_cases configured
    · cases nothing
    · cases same
      cases result
      exact .inr ⟨_, objection, rfl, rfl⟩
  next configured =>
    obtain ⟨_, first⟩ | ⟨_, _, nothing, _⟩ := configure_cases configured
    · split at result
      next selected =>
        obtain ⟨nothing, _⟩ | ⟨_, refused, _, _⟩ := select_cases selected
        · cases nothing
        · rw [selectBreach_of_configured first, refusal_none] at refused
          cases refused
      next selected =>
        obtain ⟨_, second⟩ | ⟨_, _, nothing, _⟩ := select_cases selected
        · cases result
          exact .inl ⟨rfl, .cons first (.cons second .nil)⟩
        · cases nothing
    · cases nothing

/-- A release is refused, or it happens, even when the wait before it times out. -/
theorem deselect_cases {device : Device}
    (result : host.deselect device bus = some (outcome, after)) :
    (∃ failure, host.refusal bus.deselectBreach = some failure ∧
        outcome = .error failure ∧ after = bus) ∨
      (host.refusal bus.deselectBreach = none ∧
        ∃ events, Waited host.controller .txEmpty outcome events ∧
          after = host.letGo device (host.after events bus)) := by
  rw [deselect] at result
  split at result
  next failure refused =>
    cases result
    exact .inl ⟨failure, refused, rfl, rfl⟩
  next allowed =>
    obtain ⟨⟨drained, mid⟩, waits, same⟩ := Option.map_eq_some_iff.1 result
    cases same
    obtain ⟨events, waited, rfl⟩ := wait_waited waits
    exact .inr ⟨allowed, events, waited, rfl⟩

end Host

/-! ## The answers to a call -/

/-- An event of setting up a DMA transfer: a command to the engine or a status read. -/
def Event.Arming (controller : Controller ρ) (event : Event ρ) : Prop :=
  (∃ command, event = .dma command) ∨ ∃ value, event = .read controller.status value

theorem Event.Arming.quiet {controller : Controller ρ} {event : Event ρ}
    (arming : event.Arming controller) : event.Quiet := by
  rcases arming with ⟨command, rfl⟩ | ⟨value, rfl⟩
  · exact trivial
  · exact trivial

namespace Host

/-- The ways in which a host answers a call, with the reply and the bus after it. -/
inductive Answers (host : Host ρ σ κ) (bus : Bus ρ σ κ) : Call → Reply → Bus ρ σ κ → Prop where
  /-- The controller cannot do what is asked. -/
  | unavailable {call : Call} (nothing : call.deeds .unavailable = []) :
      Answers host bus call .unavailable bus
  /-- A check objects. -/
  | refused {call : Call} {failure : Failure} (objection : host.Objection failure)
      (nothing : call.deeds (call.refused failure) = []) :
      Answers host bus call (call.refused failure) bus
  /-- Deeds happen and nothing else. -/
  | enacted {call : Call} {reply : Reply} {after : Bus ρ σ κ} (fine : reply.failure? = none)
      (enacts : host.Enacts (call.deeds reply) bus after) : Answers host bus call reply after
  /-- The deeds follow a wait for everything sent to leave the controller, however it ends. -/
  | drained {call : Call} {reply : Reply} {outcome : Outcome} {events : List (Event ρ)}
      {after : Bus ρ σ κ} (waited : Waited host.controller .txEmpty outcome events)
      (told : reply.failure? = none ∨ reply.failure? = outcome.failure?)
      (enacts : host.Enacts (call.deeds reply) (host.after events bus) after) :
      Answers host bus call reply after
  /-- Units are exchanged. -/
  | shifted {call : Call} {reply : Reply} {w : Width} {β : Type} {feed : Feed w β}
      {length : Nat} {buffers final : β} {outcome : Outcome} {events : List (Event ρ)}
      (allowed : host.refusal bus.exchangeBreach = none)
      (shifted : Shifted host.controller feed length 0 buffers outcome final events)
      (told : reply.failure? = outcome.failure?)
      (faulty : call.deeds reply = faults reply.failure?) :
      Answers host bus call reply
        ((host.after events bus).setStage (bus.stage.afterExchange outcome))
  /-- The DMA engine is set up. -/
  | armed {call : Call} {reply : Reply} {events : List (Event ρ)} (fine : reply.failure? = none)
      (nothing : call.deeds reply = [])
      (arming : ∀ event ∈ events, event.Arming host.controller) :
      Answers host bus call reply (host.after events bus)
  /-- A device adapter carries out a transaction. -/
  | transacted {w : Width} {operations done : List (Operation w)} {outcome : Outcome}
      {after : Bus ρ σ κ}
      (result : host.transact operations bus.attachAdapter = some (outcome, done, after)) :
      Answers host bus (.transact w operations) (.transacted w outcome done) after

variable {host : Host ρ σ κ} {bus mid after : Bus ρ σ κ} {outcome : Outcome} {call : Call}
  {reply : Reply}

/-- A transfer answers its call, if the reply gives its outcome and its buffer. -/
theorem Transfers.answers {γ : Type} {given back : γ}
    (transfers : host.Transfers bus given outcome back after) (answer : Outcome → γ → Reply)
    (refusal : ∀ failure, answer (.error failure) given = call.refused failure)
    (told : ∀ outcome back, (answer outcome back).failure? = outcome.failure?)
    (faulty : ∀ reply, call.deeds reply = faults reply.failure?) :
    host.Answers bus call (answer outcome back) after := by
  cases transfers with
  | @refused failure objection =>
      rw [refusal]
      refine .refused objection ?_
      rw [faulty, Call.failure?_refused, objection.faults_eq]
  | shifted allowed shifted => exact .shifted allowed shifted (told ..) (faulty _)

/-- A call for words of a width is answered by what it asks for, unless the controller
shifts no such words. -/
theorem shifting_answers {α : Type} {w : Width} {result : Option α}
    {answer : α → Reply × Bus ρ σ κ}
    (answered : host.shifting w bus (result.map answer) = some (reply, after))
    (nothing : call.deeds .unavailable = [])
    (answers : ∀ found ∈ result, host.Answers bus call (answer found).1 (answer found).2) :
    host.Answers bus call reply after := by
  rw [shifting] at answered
  split at answered
  · obtain ⟨found, resulted, same⟩ := Option.map_eq_some_iff.1 answered
    have answer := answers found resulted
    rw [same] at answer
    exact answer
  · cases answered
    exact .unavailable nothing

theorem withDma_answers {answer : Handshakes → Reply × Bus ρ σ κ}
    (answered : some (host.withDma bus answer) = some (reply, after))
    (nothing : call.deeds .unavailable = [])
    (answers : ∀ handshakes, host.Answers bus call (answer handshakes).1 (answer handshakes).2) :
    host.Answers bus call reply after := by
  rw [withDma] at answered
  split at answered
  · cases answered
    exact .unavailable nothing
  next handshakes _ =>
    have answer := answers handshakes
    rw [Option.some.inj answered] at answer
    exact answer

/-- A wait for everything sent to leave the controller answers a call without deeds. -/
theorem flush_answers (nothing : call.deeds (.outcome outcome) = [])
    (flushed : host.flush bus = some (outcome, after)) :
    host.Answers bus call (.outcome outcome) after := by
  obtain ⟨events, waited, rfl⟩ := wait_waited flushed
  exact .drained waited (.inr (Reply.failure?_outcome _)) (nothing ▸ .nil)

/-- A release answers a call with its outcome, if it is the deed of the call. -/
theorem deselect_answers {device : Device}
    (deeds : call.deeds (.outcome outcome) =
      if (Reply.outcome outcome).isOutOfOrder then [] else [.release device])
    (refusal : ∀ failure, call.refused failure = .outcome (.error failure))
    (result : host.deselect device bus = some (outcome, after)) :
    host.Answers bus call (.outcome outcome) after := by
  obtain ⟨failure, refused, rfl, rfl⟩ | ⟨allowed, events, waited, rfl⟩ := deselect_cases result
  · obtain ⟨breach, _, rfl⟩ := outOfOrder_of_refusal refused
    rw [← refusal] at deeds ⊢
    refine .refused (.of_refusal refused) (deeds.trans (if_pos ?_))
    simp [Reply.isOutOfOrder, Call.failure?_refused]
  · refine .drained waited (.inr (Reply.failure?_outcome _)) ?_
    have released : ¬ (Reply.outcome outcome).isOutOfOrder := by
      rcases waited.outcome_cases with rfl | rfl
      · exact Bool.false_ne_true
      · exact Bool.false_ne_true
    rw [deeds, if_neg released]
    exact .cons (.release allowed) .nil

/-- A session that is lost answers a call by releasing its device if it is open, and else
by doing nothing. -/
theorem abandonSession_answers {session : Session}
    (abandoned : host.abandonSession session bus = some after) :
    host.Answers bus (.abandonSession session) (.outcome (.ok ())) after := by
  cases isOpen : session.isOpen with
  | false =>
      rw [abandonSession_of_closed isOpen] at abandoned
      cases abandoned
      have nothing : Call.deeds (.outcome (.ok ())) (.abandonSession session) = [] := by
        simp [Call.deeds, isOpen]
      exact .enacted rfl (nothing ▸ .nil)
  | true =>
      rw [abandonSession_of_open isOpen] at abandoned
      obtain ⟨⟨outcome, _⟩, released, rfl⟩ := Option.map_eq_some_iff.1 abandoned
      have releases : Call.deeds (.outcome (.ok ())) (.abandonSession session) =
          [.release session.device] := by
        simp [Call.deeds, isOpen]
      obtain ⟨failure, refused, rfl, rfl⟩ | ⟨allowed, events, waited, rfl⟩ :=
        deselect_cases released
      · exact .enacted rfl (releases ▸ .cons (.releaseNothing refused) .nil)
      · exact .drained waited (.inl rfl) (releases ▸ .cons (.release allowed) .nil)

theorem commandAll_arming (commands : List Dma.Command) (bus : Bus ρ σ κ) :
    ∃ events, (∀ event ∈ events, event.Arming host.controller) ∧
      host.commandAll commands bus = host.after events bus := by
  refine ⟨commands.map .dma, fun event member => ?_, host.commandAll_eq bus commands⟩
  obtain ⟨command, _, rfl⟩ := List.mem_map.1 member
  exact .inl ⟨command, rfl⟩

theorem transmitByDma_answers (handshakes : Handshakes) (channel : UInt8)
    (buffer : Option Dma.Buffer) (length : Nat) :
    host.Answers bus (.transmitByDma channel buffer length)
      (.outcome (host.transmitByDma handshakes channel buffer length bus).1)
      (host.transmitByDma handshakes channel buffer length bus).2 := by
  unfold transmitByDma
  split
  next refused => exact .refused (.of_dmaRefusal refused) rfl
  next =>
    rw [arm_eq_commandAll]
    obtain ⟨events, arming, armed⟩ := host.commandAll_arming _ bus
    rw [armed]
    exact .armed rfl rfl arming

theorem receiveByDma_answers (handshakes : Handshakes) (channel : UInt8) (buffer : Dma.Buffer)
    (length : Nat) :
    host.Answers bus (.receiveByDma channel buffer length)
      (.outcome (host.receiveByDma handshakes channel buffer length bus).1)
      (host.receiveByDma handshakes channel buffer length bus).2 := by
  unfold receiveByDma
  split
  next refused => exact .refused (.of_dmaRefusal refused) rfl
  next =>
    rw [arm_eq_commandAll]
    obtain ⟨events, arming, armed⟩ := host.commandAll_arming _ (host.clearOverrun bus)
    rw [armed, clearOverrun, read_eq, after_after]
    refine .armed rfl rfl fun event member => ?_
    rcases List.mem_append.1 member with read | command
    · exact .inr ⟨_, List.mem_singleton.1 read⟩
    · exact arming event command

/-- **There are no other answers to a call.** -/
theorem call_answers (answered : host.call bus call = some (reply, after)) :
    host.Answers bus call reply after := by
  cases call with
  | bringUp bits =>
      simp only [Host.call, bringUp] at answered
      split at answered
      next up =>
        cases answered
        exact .enacted rfl (.cons (.bringUpAgain up) .nil)
      next down =>
        cases answered
        exact .enacted rfl (.cons (.bringUp (Bool.eq_false_iff.2 down)) .nil)
  | configure device mode baudHz =>
      rcases configured : host.configure device mode baudHz bus with ⟨outcome, mid⟩
      simp only [Host.call, configured, Option.some.injEq, Prod.mk.injEq] at answered
      obtain ⟨rfl, rfl⟩ := answered
      obtain ⟨rfl, enacted⟩ | ⟨failure, objection, rfl, rfl⟩ := configure_cases configured
      · exact .enacted rfl (.cons enacted .nil)
      · exact .refused objection rfl
  | select device =>
      rcases selected : host.select device bus with ⟨outcome, mid⟩
      simp only [Host.call, selected, Option.some.injEq, Prod.mk.injEq] at answered
      obtain ⟨rfl, rfl⟩ := answered
      obtain ⟨rfl, enacted⟩ | ⟨failure, refused, rfl, rfl⟩ := select_cases selected
      · exact .enacted rfl (.cons enacted .nil)
      · exact .refused (.of_refusal refused) rfl
  | openSession held device mode baudHz =>
      rcases result : host.openSession held device mode baudHz bus with ⟨opened, mid⟩
      simp only [Host.call, result] at answered
      obtain ⟨rfl, enacts⟩ | ⟨failure, objection, rfl, rfl⟩ := openSession_cases result
      · cases answered
        exact .enacted rfl enacts
      · cases answered
        exact .refused objection rfl
  | deselect device =>
      obtain ⟨⟨outcome, _⟩, released, same⟩ := Option.map_eq_some_iff.1 answered
      cases same
      exact deselect_answers rfl (fun _ => rfl) released
  | closeSession session =>
      rw [Host.call, closeSession_eq] at answered
      obtain ⟨⟨outcome, _⟩, released, same⟩ := Option.map_eq_some_iff.1 answered
      cases same
      exact deselect_answers rfl (fun _ => rfl) released
  | abandonSession session =>
      obtain ⟨_, abandoned, same⟩ := Option.map_eq_some_iff.1 answered
      cases same
      exact abandonSession_answers abandoned
  | flush =>
      obtain ⟨⟨_, _⟩, flushed, same⟩ := Option.map_eq_some_iff.1 answered
      cases same
      exact flush_answers rfl flushed
  | drain w =>
      refine shifting_answers answered rfl ?_
      rintro ⟨outcome, after⟩ flushed
      exact flush_answers rfl flushed
  | transceive w outgoing incoming length =>
      refine shifting_answers answered rfl ?_
      rintro ⟨outcome, back, after⟩ exchanged
      exact (transceive_transfers exchanged).answers (.exchanged w) (fun _ => rfl)
        (Reply.failure?_exchanged w) (fun _ => rfl)
  | receive w incoming =>
      refine shifting_answers answered rfl ?_
      rintro ⟨outcome, back, after⟩ exchanged
      exact (receive_transfers exchanged).answers
        (fun outcome back => .exchanged w outcome (some back)) (fun _ => rfl)
        (fun outcome back => Reply.failure?_exchanged w outcome (some back)) (fun _ => rfl)
  | transmit w outgoing =>
      refine shifting_answers answered rfl ?_
      rintro ⟨outcome, after⟩ exchanged
      exact (transmit_transfers exchanged).answers (fun outcome _ => .outcome outcome)
        (fun _ => rfl) (fun outcome _ => Reply.failure?_outcome outcome) (fun _ => rfl)
  | transfer w incoming outgoing =>
      refine shifting_answers answered rfl ?_
      rintro ⟨outcome, back, after⟩ exchanged
      exact (exchange_transfers exchanged).answers
        (fun outcome back => .exchanged w outcome (some back)) (fun _ => rfl)
        (fun outcome back => Reply.failure?_exchanged w outcome (some back)) (fun _ => rfl)
  | transferInPlace w words =>
      refine shifting_answers answered rfl ?_
      rintro ⟨outcome, back, after⟩ exchanged
      exact (exchange_transfers exchanged).answers
        (fun outcome back => .exchanged w outcome (some back)) (fun _ => rfl)
        (fun outcome back => Reply.failure?_exchanged w outcome (some back)) (fun _ => rfl)
  | transact w operations =>
      refine shifting_answers answered rfl ?_
      rintro ⟨outcome, done, after⟩ transacted
      exact .transacted transacted
  | prepareDma =>
      refine withDma_answers answered rfl fun _ => ?_
      obtain ⟨events, arming, armed⟩ :=
        host.commandAll_arming [.disable, .fixedPriority, .enable] bus
      rw [prepareDma, armed]
      exact .armed rfl rfl arming
  | transmitByDma channel buffer length =>
      exact withDma_answers answered rfl fun handshakes =>
        transmitByDma_answers handshakes channel buffer length
  | receiveByDma channel buffer length =>
      exact withDma_answers answered rfl fun handshakes =>
        receiveByDma_answers handshakes channel buffer length
  | clearOverrun =>
      refine withDma_answers answered rfl fun _ => ?_
      rw [clearOverrun, read_eq]
      exact .armed rfl rfl fun event member => .inr ⟨_, List.mem_singleton.1 member⟩

/-- **Every call is traffic followed by the deeds that its reply tells.** -/
theorem call_leads (answered : host.call bus call = some (reply, after)) :
    host.Leads (call.deeds reply) bus after := by
  cases call_answers answered with
  | unavailable nothing => exact nothing ▸ .nothing
  | refused objection nothing => exact nothing ▸ .nothing
  | enacted fine enacts => exact ⟨[], by simp, by simp, enacts⟩
  | drained waited told enacts =>
      exact (Leads.of_quiet fun event member => (waited.waiting event member).quiet).trans
        ⟨[], by simp, by simp, enacts⟩
  | shifted allowed shifted told faulty =>
      rw [faulty, told]
      have transfers : host.Transfers bus () _ () _ := .shifted allowed shifted
      exact transfers.leads.2
  | armed fine nothing arming =>
      rw [nothing]
      exact .of_quiet fun event member => (arming event member).quiet
  | transacted result =>
      have attached : host.Leads [] bus bus.attachAdapter := by
        rw [Bus.attachAdapter, note_adapter_eq]
        exact .of_quiet (by simp [Event.Quiet])
      simpa [Call.deeds] using attached.trans (transact_leads result)

end Host

/-! ## Failures -/

section Failures

variable {failure : Failure} {outcome : Outcome} {events : List (Event ρ)}

theorem Waited.timeout_of_failure {controller : Controller ρ} {condition : Condition}
    (waited : Waited controller condition outcome events)
    (failed : outcome.failure? = some failure) : ∃ condition, failure = .timeout condition := by
  rcases waited.outcome_cases with rfl | rfl
  · cases failed
  · cases failed
    exact ⟨condition, rfl⟩

theorem Shifted.timeout_of_failure {controller : Controller ρ} {w : Width} {β : Type}
    {feed : Feed w β} {left index : Nat} {buffers final : β}
    (shifted : Shifted controller feed left index buffers outcome final events)
    (failed : outcome.failure? = some failure) : ∃ condition, failure = .timeout condition := by
  rcases shifted.outcome_cases with rfl | rfl | rfl
  · cases failed
  · cases failed
    exact ⟨.txReady, rfl⟩
  · cases failed
    exact ⟨.rxReady, rfl⟩

namespace Host

variable {host : Host ρ σ κ} {bus after : Bus ρ σ κ}

/-- An operation fails for an objection or a timeout. -/
theorem Operates.failure_cases (operates : host.Operates bus outcome after)
    (failed : outcome.failure? = some failure) :
    host.Objection failure ∨ ∃ condition, failure = .timeout condition := by
  cases operates with
  | transferred transfers =>
      cases transfers with
      | refused objection =>
          cases failed
          exact .inl objection
      | shifted allowed shifted => exact .inr (shifted.timeout_of_failure failed)
  | delayed waited => cases failed
  | undrained waited => exact .inr (waited.timeout_of_failure failed)

theorem transact_failure_cases {w : Width} {operations done : List (Operation w)}
    (result : host.transact operations bus = some (outcome, done, after))
    (failed : outcome.failure? = some failure) :
    host.Objection failure ∨ ∃ condition, failure = .timeout condition := by
  obtain ⟨carried, drained, mid, events, carriedOut, -, waited, rfl, reported⟩ :=
    transact_cases result
  have operated := operateAll_relates
    (fun outcome _ _ => ∀ failure, outcome.failure? = some failure →
      host.Objection failure ∨ ∃ condition, failure = .timeout condition)
    (fun _ _ => nofun) (fun _ second => second)
    (fun operates failure failed => operates.failure_cases failed) carriedOut
  rcases reported with ⟨rfl, _⟩ | ⟨rfl, _⟩
  · exact operated failure failed
  · exact .inr (waited.timeout_of_failure failed)

/-- Whatever fails, fails for an objection or a timeout, and an objection comes before
anything is done.  Only a transaction may find it after some of its operations. -/
theorem Answers.failure_cases {call : Call} {reply : Reply}
    (answers : host.Answers bus call reply after) (failed : reply.failure? = some failure) :
    (host.Objection failure ∧ ((∀ w operations, call ≠ .transact w operations) →
        reply = call.refused failure ∧ after = bus)) ∨
      ∃ condition, failure = .timeout condition := by
  cases answers with
  | unavailable nothing => cases failed
  | refused objection nothing =>
      obtain rfl := Option.some.inj ((Call.failure?_refused _ call).symm.trans failed)
      exact .inl ⟨objection, fun _ => ⟨rfl, rfl⟩⟩
  | enacted fine enacts => cases fine.symm.trans failed
  | drained waited told enacts =>
      rcases told with fine | told
      · cases fine.symm.trans failed
      · exact .inr (waited.timeout_of_failure (told.symm.trans failed))
  | shifted allowed shifted told faulty =>
      exact .inr (shifted.timeout_of_failure (told.symm.trans failed))
  | armed fine nothing arming => cases fine.symm.trans failed
  | transacted result =>
      rw [Reply.failure?_transacted] at failed
      rcases transact_failure_cases result failed with objection | timeout
      · exact .inl ⟨objection, fun single => absurd rfl (single _ _)⟩
      · exact .inr timeout

end Host

end Failures

/-! ## Nothing is done by a call that fails -/

/-- The buffer for received words that a call brings along. -/
def Call.buffer? : Call → Option (Σ w : Width, Option (List w.Word))
  | .transceive w _ incoming _ => some ⟨w, incoming⟩
  | .receive w incoming => some ⟨w, some incoming⟩
  | .transfer w incoming _ => some ⟨w, some incoming⟩
  | .transferInPlace w words => some ⟨w, some words⟩
  | _ => none

/-- The buffer that a reply gives back. -/
def Reply.buffer? : Reply → Option (Σ w : Width, Option (List w.Word))
  | .exchanged w _ incoming => some ⟨w, incoming⟩
  | _ => none

theorem Call.buffer?_refused (failure : Failure) (call : Call) :
    (call.refused failure).buffer? = call.buffer? := by
  cases call <;> rfl

/-- **A call that fails for another reason than a timeout has done nothing.**  The bus is
as it was, its hardware, its lines and its trace included, and so is the buffer of
the caller.  Opening a session does nothing when it fails, for whatever reason. -/
theorem failure_leaves_bus {host : Host ρ σ κ} {bus after : Bus ρ σ κ} {call : Call}
    {reply : Reply} {failure : Failure} (single : ∀ w operations, call ≠ .transact w operations)
    (answered : host.call bus call = some (reply, after))
    (failed : reply.failure? = some failure) :
    ((∀ condition, failure ≠ .timeout condition) →
        after = bus ∧ reply.buffer? = call.buffer?) ∧
      (∀ held device mode baudHz, call = .openSession held device mode baudHz →
        after = bus) := by
  constructor
  · intro noTimeout
    rcases (Host.call_answers answered).failure_cases failed with
      ⟨_, untouched⟩ | ⟨condition, timeout⟩
    · obtain ⟨rfl, rfl⟩ := untouched single
      exact ⟨rfl, call.buffer?_refused failure⟩
    · exact absurd timeout (noTimeout condition)
  · rintro held device mode baudHz rfl
    rcases result : host.openSession held device mode baudHz bus with ⟨opened, mid⟩
    simp only [Host.call, result] at answered
    obtain ⟨rfl, _⟩ | ⟨found, _, rfl, rfl⟩ := Host.openSession_cases result
    · cases answered
      cases failed
    · cases answered
      rfl

/-- A buffer comes back from a transfer after a fault as it was given. -/
theorem failure_leaves_bus_constant :
    let bus : Bus Backend.standard.Register Unit Unit :=
      { hardware := (), lines := (), stage := .faulted }
    ∃ reply after, (Host.constant 0x203).call bus (.receive .eight [1, 2]) = some (reply, after) ∧
      reply.failure? = some (.outOfOrder .faulted) ∧ after = bus ∧
      reply.buffer? = some ⟨.eight, some [1, 2]⟩ := by
  intro bus
  have replied : ((Host.constant 0x203).call bus (.receive .eight [1, 2])).map Prod.fst =
      some (.exchanged .eight (.error (.outOfOrder .faulted)) (some [1, 2])) := rfl
  obtain ⟨⟨_, after⟩, answered, rfl⟩ := Option.map_eq_some_iff.1 replied
  have single : ∀ w operations, Call.receive .eight [1, 2] ≠ .transact w operations := nofun
  obtain ⟨same, buffer⟩ := (failure_leaves_bus single answered rfl).1 nofun
  exact ⟨_, after, answered, rfl, same, buffer⟩

end SerialBus
