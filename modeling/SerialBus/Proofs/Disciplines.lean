import SerialBus.Proofs.Sessions

/-!
# Two disciplines

A permissive host refuses nothing that a strict one carries out, and carries it out the
same way: the order of calls is checked before anything else is done, and nothing that
follows looks at the discipline.  So every answer of a host that is not a refusal for
the order of calls is the answer of its permissive sibling too (`call_permissive`).

A refused call leaves the bus as it was.  Left out of a run, it takes nothing with it,
and what remains is a run of the permissive sibling with the same answers and the same
buses, from the first turn to the last (`run_inOrder_permissive`).

Two kinds of call do not tell by their reply that they were refused, or tell it too late.
Abandoning a session reports nothing, so a session that is marked as open has to be the
one that was opened last and has not ended, as it is for a caller who has it in hand.  And a device adapter asks for the operations of
a transaction one by one, after it has driven its pin, so one that is refused halfway
has left its trace.  A caller who asks for the operations by themselves loses nothing.
-/

set_option autoImplicit false

namespace SerialBus

variable {ρ σ κ : Type}

/-- The session that a call abandons while it is open. -/
def Call.abandoned? : Call → Option Session
  | .abandonSession session => if session.isOpen then some session else none
  | _ => none

/-- The same host without any check on the order of calls. -/
abbrev Host.permissive (host : Host ρ σ κ) : Host ρ σ κ :=
  { host with discipline := .permissive }

/-- A failure, if there is one, that is not about the order of calls. -/
def InOrder (failure : Option Failure) : Prop :=
  ∀ breach, failure ≠ some (.outOfOrder breach)

theorem InOrder.none : InOrder none :=
  fun _ => nofun

theorem Reply.isOutOfOrder_iff {reply : Reply} :
    reply.isOutOfOrder = true ↔ ∃ breach, reply.failure? = some (.outOfOrder breach) := by
  unfold Reply.isOutOfOrder
  split
  next breach found => simp [found]
  next other => simpa using other

theorem Reply.isOutOfOrder_eq_false {reply : Reply} :
    reply.isOutOfOrder = false ↔ InOrder reply.failure? := by
  rw [← Bool.not_eq_true, Reply.isOutOfOrder_iff, not_exists]
  rfl

namespace Host

variable {host : Host ρ σ κ} {bus after : Bus ρ σ κ} {outcome : Outcome}

@[simp] theorem refusal_permissive (breach : Option Breach) :
    host.permissive.refusal breach = none := rfl

/-! What follows the checks does not look at the discipline. -/

theorem consult_permissive {α : Type} (clocked : Clocked α) (bus : Bus ρ σ κ) :
    host.permissive.consult clocked bus = host.consult clocked bus := by
  induction clocked generalizing bus with
  | answer value => rfl
  | ask next ih => exact ih ..

theorem pollUntil_permissive (condition : Condition) (polls : Nat) (budget : host.waits.Budget)
    (bus : Bus ρ σ κ) :
    host.permissive.pollUntil condition polls budget bus =
      host.pollUntil condition polls budget bus := by
  induction polls generalizing budget bus with
  | zero => rfl
  | succ polls ih =>
      have polled : host.permissive.poll condition bus = host.poll condition bus := rfl
      have spends : host.permissive.waits.spend budget = host.waits.spend budget := rfl
      rw [pollUntil, pollUntil, polled, spends]
      simp only [consult_permissive]
      split
      · rfl
      · split
        · rfl
        · exact ih ..

theorem wait_permissive (condition : Condition) (bus : Bus ρ σ κ) :
    host.permissive.wait condition bus = host.wait condition bus := by
  have start : host.permissive.waits.start = host.waits.start := rfl
  rw [wait, wait, start, consult_permissive]
  exact pollUntil_permissive ..

theorem await_permissive (condition : Condition) (bus : Bus ρ σ κ) :
    host.permissive.await condition bus = host.await condition bus := by
  rw [await, await, wait_permissive]

theorem shift_permissive {w : Width} {β : Type} (feed : Feed w β) (left index : Nat) (buffers : β)
    (bus : Bus ρ σ κ) :
    host.permissive.shift feed left index buffers bus =
      host.shift feed left index buffers bus := by
  induction left generalizing index buffers bus with
  | zero => rfl
  | succ left ih =>
      rw [shift, shift]
      simp only [await_permissive, ih]
      rfl

theorem not_inOrder_of_refusal {breach : Option Breach} {failure : Failure}
    (refused : host.refusal breach = some failure) : ¬ InOrder (some failure) := by
  obtain ⟨reason, _, rfl⟩ := outOfOrder_of_refusal refused
  exact fun inOrder => inOrder reason rfl

/-! ## Calls that are in order -/

theorem configure_permissive {device : Device} {mode : Mode} {baudHz : UInt32}
    (result : host.configure device mode baudHz bus = (outcome, after))
    (inOrder : InOrder outcome.failure?) :
    host.permissive.configure device mode baudHz bus = (outcome, after) := by
  rw [configure] at result
  split at result
  next refused =>
    cases result
    exact absurd inOrder (not_inOrder_of_refusal refused)
  next => exact result

theorem select_permissive {device : Device}
    (result : host.select device bus = (outcome, after)) (inOrder : InOrder outcome.failure?) :
    host.permissive.select device bus = (outcome, after) := by
  rw [select] at result
  split at result
  next refused =>
    cases result
    exact absurd inOrder (not_inOrder_of_refusal refused)
  next => exact result

theorem deselect_permissive {device : Device}
    (result : host.deselect device bus = some (outcome, after))
    (inOrder : InOrder outcome.failure?) :
    host.permissive.deselect device bus = some (outcome, after) := by
  rw [deselect] at result
  split at result
  next refused =>
    cases result
    exact absurd inOrder (not_inOrder_of_refusal refused)
  next =>
    rw [deselect, refusal_permissive, wait_permissive]
    exact result

theorem exchange_permissive {w : Width} {β : Type} {feed : Feed w β} {length : Nat}
    {buffers final : β}
    (result : host.exchange feed length buffers bus = some (outcome, final, after))
    (inOrder : InOrder outcome.failure?) :
    host.permissive.exchange feed length buffers bus = some (outcome, final, after) := by
  rw [exchange] at result
  split at result
  next refused =>
    cases result
    exact absurd inOrder (not_inOrder_of_refusal refused)
  next =>
    rw [exchange, refusal_permissive, shift_permissive]
    exact result

theorem transceive_permissive {w : Width} {outgoing incoming final : Option (List w.Word)}
    {length : Nat}
    (result : host.transceive w outgoing incoming length bus = some (outcome, final, after))
    (inOrder : InOrder outcome.failure?) :
    host.permissive.transceive w outgoing incoming length bus = some (outcome, final, after) := by
  rw [transceive] at result ⊢
  split at result
  next => exact result
  next =>
    split at result
    next => exact result
    next => exact exchange_permissive result inOrder

theorem receive_permissive {w : Width} {incoming final : List w.Word}
    (result : host.receive w incoming bus = some (outcome, final, after))
    (inOrder : InOrder outcome.failure?) :
    host.permissive.receive w incoming bus = some (outcome, final, after) := by
  obtain ⟨⟨_, _, _⟩, transceived, same⟩ := Option.map_eq_some_iff.1 result
  cases same
  rw [receive, transceive_permissive transceived inOrder]
  rfl

theorem transmit_permissive {w : Width} {outgoing : List w.Word}
    (result : host.transmit w outgoing bus = some (outcome, after))
    (inOrder : InOrder outcome.failure?) :
    host.permissive.transmit w outgoing bus = some (outcome, after) := by
  obtain ⟨⟨_, _, _⟩, transceived, same⟩ := Option.map_eq_some_iff.1 result
  cases same
  rw [transmit, transceive_permissive transceived inOrder]
  rfl

theorem openSession_permissive {held : Guard} {device : Device} {mode : Mode} {baudHz : UInt32}
    {opened : Except Failure Session}
    (result : host.openSession held device mode baudHz bus = (opened, after))
    (inOrder : ∀ breach, opened ≠ .error (.outOfOrder breach)) :
    host.permissive.openSession held device mode baudHz bus = (opened, after) := by
  rw [openSession] at result ⊢
  split at result
  next failure _ configured =>
    cases result
    have other : InOrder (some failure) := fun breach same =>
      inOrder breach (congrArg Except.error (Option.some.inj same))
    rw [configure_permissive configured other]
  next configured =>
    rw [configure_permissive configured .none]
    split at result
    next failure _ selected =>
      cases result
      have other : InOrder (some failure) := fun breach same =>
        inOrder breach (congrArg Except.error (Option.some.inj same))
      simp only [select_permissive selected other]
    next selected =>
      cases result
      simp only [select_permissive selected .none]

/-! ## Transactions that are in order -/

theorem flush_permissive (bus : Bus ρ σ κ) : host.permissive.flush bus = host.flush bus :=
  wait_permissive ..

theorem performed_permissive {w : Width} {operation done : Operation w}
    (performed : operation.Performed host bus outcome done after)
    (inOrder : InOrder outcome.failure?) :
    operation.Performed host.permissive bus outcome done after := by
  cases performed with
  | receive answered => exact .receive (receive_permissive answered inOrder)
  | transmit answered => exact .transmit (transmit_permissive answered inOrder)
  | transfer answered => exact .transfer (exchange_permissive answered inOrder)
  | transferInPlace answered => exact .transferInPlace (exchange_permissive answered inOrder)
  | @delay _ flushed drained =>
      have drained : host.permissive.flush bus = some (.ok (), flushed) :=
        (flush_permissive bus).trans drained
      exact .delay drained
  | undrained failed => exact .undrained ((flush_permissive bus).trans failed)

theorem operateAll_permissive {w : Width} {operations done : List (Operation w)}
    (result : host.operateAll bus operations = some (outcome, done, after))
    (inOrder : InOrder outcome.failure?) :
    host.permissive.operateAll bus operations = some (outcome, done, after) := by
  rw [← performedInOrder_iff] at result ⊢
  induction result with
  | nil => exact .nil
  | failed performed => exact .failed (performed_permissive performed inOrder)
  | next performed _ ih => exact .next (performed_permissive performed .none) (ih inOrder)

theorem transact_permissive {w : Width} {operations done : List (Operation w)}
    (result : host.transact operations bus = some (outcome, done, after))
    (inOrder : InOrder outcome.failure?) :
    host.permissive.transact operations bus = some (outcome, done, after) := by
  rw [transact] at result ⊢
  split at result
  next => simp at result
  next carried operated mid carriedOut =>
    -- the failure of an operation is that of the transaction
    have carriedInOrder : InOrder carried.failure? := by
      cases carried with
      | ok => exact .none
      | error failure =>
          obtain ⟨_, _, same⟩ := Option.map_eq_some_iff.1 result
          cases same
          exact inOrder
    rw [operateAll_permissive carriedOut carriedInOrder]
    simp only [flush_permissive]
    exact result

/-! ## Every call that is in order -/

variable {call : Call} {reply : Reply}

/-- A call for words of a width is answered alike, if what it asks for is. -/
theorem shifting_permissive {α : Type} {w : Width} {result result' : Option α}
    {answer : α → Reply × Bus ρ σ κ}
    (answered : host.shifting w bus (result.map answer) = some (reply, after))
    (alike : ∀ found ∈ result, answer found = (reply, after) → result' = some found) :
    host.permissive.shifting w bus (result'.map answer) = some (reply, after) := by
  rw [shifting] at answered ⊢
  split at answered
  next shifts =>
    obtain ⟨found, resulted, same⟩ := Option.map_eq_some_iff.1 answered
    rw [if_pos shifts, alike found resulted same, Option.map_some, same]
  next short =>
    rw [if_neg short]
    exact answered

/-- **What a host answers in order, its permissive sibling answers as well.** -/
theorem call_permissive (answered : host.call bus call = some (reply, after))
    (inOrder : InOrder reply.failure?)
    (engaged : ∀ session ∈ call.abandoned?, bus.stage.engaged) :
    host.permissive.call bus call = some (reply, after) := by
  cases call with
  | bringUp bits => exact answered
  | configure device mode baudHz =>
      rcases result : host.configure device mode baudHz bus with ⟨outcome, mid⟩
      simp only [Host.call, result, Option.some.injEq, Prod.mk.injEq] at answered
      obtain ⟨rfl, rfl⟩ := answered
      rw [Reply.failure?_outcome] at inOrder
      rw [Host.call, configure_permissive result inOrder]
  | select device =>
      rcases result : host.select device bus with ⟨outcome, mid⟩
      simp only [Host.call, result, Option.some.injEq, Prod.mk.injEq] at answered
      obtain ⟨rfl, rfl⟩ := answered
      rw [Reply.failure?_outcome] at inOrder
      rw [Host.call, select_permissive result inOrder]
  | deselect device =>
      obtain ⟨⟨outcome, _⟩, released, same⟩ := Option.map_eq_some_iff.1 answered
      cases same
      rw [Reply.failure?_outcome] at inOrder
      rw [Host.call, deselect_permissive released inOrder]
      rfl
  | closeSession session =>
      obtain ⟨⟨outcome, _⟩, released, same⟩ := Option.map_eq_some_iff.1 answered
      cases same
      rw [Reply.failure?_outcome] at inOrder
      rw [closeSession_eq] at released
      rw [Host.call, closeSession_eq, deselect_permissive released inOrder]
      rfl
  | abandonSession session =>
      cases isOpen : session.isOpen with
      | true =>
          have held := engaged session (if_pos isOpen)
          rw [Host.call, abandonSession_of_open isOpen, deselect_of_engaged held] at answered
          rw [Host.call, abandonSession_of_open isOpen, deselect_of_engaged held,
            wait_permissive]
          exact answered
      | false =>
          rw [Host.call, abandonSession_of_closed isOpen] at answered ⊢
          exact answered
  | openSession held device mode baudHz =>
      rcases result : host.openSession held device mode baudHz bus with ⟨opened, mid⟩
      have other : ∀ breach, opened ≠ .error (.outOfOrder breach) := by
        rintro breach rfl
        simp only [Host.call, result, Option.some.injEq, Prod.mk.injEq] at answered
        obtain ⟨rfl, rfl⟩ := answered
        exact inOrder breach rfl
      rw [Host.call, result] at answered
      rw [Host.call, openSession_permissive result other]
      exact answered
  | flush =>
      rw [Host.call, flush_permissive]
      exact answered
  | drain w =>
      rw [Host.call, flush_permissive]
      exact answered
  | transceive w outgoing incoming length =>
      refine shifting_permissive answered ?_
      rintro ⟨outcome, back, after⟩ exchanged same
      cases same
      rw [Reply.failure?_exchanged] at inOrder
      exact transceive_permissive exchanged inOrder
  | receive w incoming =>
      refine shifting_permissive answered ?_
      rintro ⟨outcome, back, after⟩ received same
      cases same
      rw [Reply.failure?_exchanged] at inOrder
      exact receive_permissive received inOrder
  | transmit w outgoing =>
      refine shifting_permissive answered ?_
      rintro ⟨outcome, after⟩ transmitted same
      cases same
      rw [Reply.failure?_outcome] at inOrder
      exact transmit_permissive transmitted inOrder
  | transfer w incoming outgoing =>
      refine shifting_permissive answered ?_
      rintro ⟨outcome, back, after⟩ exchanged same
      cases same
      rw [Reply.failure?_exchanged] at inOrder
      exact exchange_permissive exchanged inOrder
  | transferInPlace w words =>
      refine shifting_permissive answered ?_
      rintro ⟨outcome, back, after⟩ exchanged same
      cases same
      rw [Reply.failure?_exchanged] at inOrder
      exact exchange_permissive exchanged inOrder
  | transact w operations =>
      refine shifting_permissive answered ?_
      rintro ⟨outcome, done, after⟩ transacted same
      cases same
      rw [Reply.failure?_transacted] at inOrder
      exact transact_permissive transacted inOrder
  | prepareDma | transmitByDma | receiveByDma | clearOverrun => exact answered

/-- A permissive host refuses nothing for the order of calls. -/
theorem inOrder_of_permissive (permissive : host.discipline = .permissive)
    (answered : host.call bus call = some (reply, after)) : InOrder reply.failure? := by
  intro breach failed
  rcases (call_answers answered).failure_cases failed with ⟨objection, _⟩ | ⟨condition, timeout⟩
  · cases objection with
    | outOfOrder strict => cases permissive.symm.trans strict
  · cases timeout

end Host

/-! ## Runs without the calls that were refused -/

/-- Whether a call is a transaction of a device adapter. -/
def Call.isTransaction : Call → Bool
  | .transact _ _ => true
  | _ => false

/-- A run, its calls the latest first, in which no session was abandoned while it was
marked as open but the one that was. -/
def AbandonsOpen : List (Answered ρ σ κ) → Prop
  | [] => True
  | entry :: earlier =>
      (∀ session ∈ entry.call.abandoned?, openAfter earlier = some session) ∧
        AbandonsOpen earlier

instance : (log : List (Answered ρ σ κ)) → Decidable (AbandonsOpen log)
  | [] => isTrue trivial
  | entry :: earlier =>
      have := instDecidableAbandonsOpen earlier
      inferInstanceAs (Decidable
        ((∀ session ∈ entry.call.abandoned?, openAfter earlier = some session) ∧
          AbandonsOpen earlier))

theorem AbandonsOpen.of_append {first second : List (Answered ρ σ κ)}
    (abandons : AbandonsOpen (first ++ second)) : AbandonsOpen second := by
  induction first with
  | nil => exact abandons
  | cons entry first ih => exact ih abandons.2

/-- The turns of a run and what came of them, less the calls refused for their order. -/
def inOrder (turns : List (Turn σ)) (log : List (Option Reply × Bus ρ σ κ)) :
    List (Turn σ × Option Reply × Bus ρ σ κ) :=
  (turns.zip log).filter fun (_, reply, _) => !reply.any Reply.isOutOfOrder

section Runs

variable {host : Host ρ σ κ} {start bus : Bus ρ σ κ} {turns : List (Turn σ)}
  {log : List (Option Reply × Bus ρ σ κ)}

theorem inOrder_cons {turn : Turn σ} {reply : Option Reply}
    (kept : reply.any Reply.isOutOfOrder = false) :
    inOrder (turn :: turns) ((reply, bus) :: log) = (turn, reply, bus) :: inOrder turns log := by
  simp [inOrder, kept]

theorem inOrder_cons_refused {turn : Turn σ} {reply : Option Reply}
    (refused : reply.any Reply.isOutOfOrder = true) :
    inOrder (turn :: turns) ((reply, bus) :: log) = inOrder turns log := by
  simp [inOrder, refused]

/-- A call that is refused for its order leaves the bus as it was. -/
theorem Host.bus_eq_of_outOfOrder {call : Call} {reply : Reply} {after : Bus ρ σ κ}
    (answered : host.call bus call = some (reply, after)) (refused : reply.isOutOfOrder = true)
    (single : call.isTransaction = false) : after = bus := by
  have notTransacted : ∀ w operations, call ≠ .transact w operations := by
    rintro w operations rfl
    cases single
  obtain ⟨breach, failed⟩ := Reply.isOutOfOrder_iff.1 refused
  rcases (call_answers answered).failure_cases failed with ⟨_, untouched⟩ | ⟨_, timeout⟩
  · exact (untouched notTransacted).2
  · cases timeout

/-- The induction behind the theorem below: a run may go on from wherever an earlier one
got, because which session is open depends on the calls before. -/
theorem Host.turns_permissive {earlier : List (Answered ρ σ κ)}
    (reached : host.Reaches (fun _ _ => True) start earlier bus)
    (ran : host.turns bus turns = some log) (abandons : AbandonsOpen (answers turns log ++ earlier))
    (whole : ∀ entry ∈ answers turns log, entry.call.isTransaction →
      entry.reply.isOutOfOrder = false) :
    host.permissive.turns bus ((inOrder turns log).map Prod.fst) =
        some ((inOrder turns log).map Prod.snd) ∧
      bus.afterRun ((inOrder turns log).map Prod.snd) = bus.afterRun log := by
  induction turns generalizing bus earlier log with
  | nil =>
      cases ran
      exact ⟨rfl, rfl⟩
  | cons first rest ih =>
      rw [Host.turns] at ran
      split at ran
      next => simp at ran
      next reply mid turned =>
        obtain ⟨log, continued, rfl⟩ := Option.map_eq_some_iff.1 ran
        cases first with
        | change new =>
            cases turned
            obtain ⟨later, laterBus⟩ := ih (reached.drift trivial) continued abandons whole
            rw [inOrder_cons rfl, List.map_cons, List.map_cons, Bus.afterRun_cons,
              Bus.afterRun_cons]
            exact ⟨turns_cons rfl later, laterBus⟩
        | call call =>
            obtain ⟨⟨reply, after⟩, answered, same⟩ := Option.map_eq_some_iff.1 turned
            cases same
            rw [answers_call, List.append_assoc] at abandons
            rw [answers_call] at whole
            obtain ⟨later, laterBus⟩ := ih (reached.call answered) continued abandons
              fun entry member => whole entry (List.mem_append_left _ member)
            rw [Bus.afterRun_cons]
            cases refused : reply.isOutOfOrder with
            | true =>
                have single : call.isTransaction = false := by
                  have kept := whole ⟨call, reply, mid⟩ (by simp)
                  simpa [refused] using kept
                obtain rfl := bus_eq_of_outOfOrder answered refused single
                have left : (some reply).any Reply.isOutOfOrder = true := refused
                rw [inOrder_cons_refused left]
                exact ⟨later, laterBus⟩
            | false =>
                have kept : (some reply).any Reply.isOutOfOrder = false := refused
                have engaged : ∀ session ∈ call.abandoned?, bus.stage.engaged := by
                  intro session abandoned
                  have opened : openAfter earlier = some session :=
                    abandons.of_append.1 session abandoned
                  exact reached.engaged_of_open (opened ▸ rfl)
                have same :=
                  call_permissive answered (Reply.isOutOfOrder_eq_false.1 refused) engaged
                rw [inOrder_cons kept, List.map_cons, List.map_cons, Bus.afterRun_cons]
                refine ⟨turns_cons ?_ later, laterBus⟩
                rw [turn, same]
                rfl

/-- **A strict host is a permissive one that leaves calls out.**  Take any run of a host, on
any controller, hardware, lines and waits, from any bus, with any changes of the hardware
on the way.  Less the calls that were refused for their order, it is a run of the
permissive sibling in which every turn gets the same reply, buffers included, and leaves
the same bus, trace included; and it ends with the same bus.  The permissive sibling
itself refuses no call for its order.

The session that is abandoned is the one that is open, and a transaction that counts as
one call had none of its operations refused. -/
theorem run_inOrder_permissive (ran : host.turns start turns = some log)
    (abandons : AbandonsOpen (answers turns log))
    (whole : ∀ entry ∈ answers turns log, entry.call.isTransaction →
      entry.reply.isOutOfOrder = false) :
    host.permissive.turns start ((inOrder turns log).map Prod.fst) =
        some ((inOrder turns log).map Prod.snd) ∧
      start.afterRun ((inOrder turns log).map Prod.snd) = start.afterRun log ∧
      ∀ bus call reply after, host.permissive.call bus call = some (reply, after) →
        reply.isOutOfOrder = false := by
  have abandonsAll : AbandonsOpen (answers turns log ++ []) :=
    (List.append_nil _).symm ▸ abandons
  obtain ⟨permitted, ended⟩ := Host.turns_permissive .start ran abandonsAll whole
  refine ⟨permitted, ended, ?_⟩
  intro bus call reply after answered
  exact Reply.isOutOfOrder_eq_false.2 (Host.inOrder_of_permissive rfl answered)

/-- A selection that comes too early and a transfer that comes too late are left out. -/
theorem run_inOrder_permissive_constant :
    let session : List (Turn Unit) := [
      .call (.openSession ⟨0⟩ ⟨0, 1, .eight⟩ (.ofBits 0) 1000000),
      .call (.transceive .eight (some [1, 2]) (some [0, 0]) 2),
      .call (.abandonSession ⟨⟨0, 1, .eight⟩, true⟩)]
    let turns : List (Turn Unit) := .call (.bringUp 8) :: .call (.select ⟨0, 1, .eight⟩) ::
      session ++ [.call (.transmit .eight [3])]
    ∃ log, (Host.constant 0x203).turns (.fresh () ()) turns = some log ∧
      ∃ kept, (Host.constant 0x203).permissive.turns (.fresh () ())
          (.call (.bringUp 8) :: session) = some kept ∧
        (Bus.fresh () ()).afterRun kept = (Bus.fresh () ()).afterRun log := by
  intro session turns
  have ran : ((Host.constant 0x203).turns (.fresh () ()) turns).map (fun log =>
      ((inOrder turns log).map Prod.fst, decide (AbandonsOpen (answers turns log)),
        (answers turns log).map fun entry => entry.call.isTransaction)) =
      some (.call (.bringUp 8) :: session, true, List.replicate 6 false) := rfl
  obtain ⟨log, ran, told⟩ := Option.map_eq_some_iff.1 ran
  simp only [Prod.mk.injEq, decide_eq_true_eq] at told
  obtain ⟨kept, abandons, single⟩ := told
  have whole : ∀ entry ∈ answers turns log, entry.call.isTransaction →
      entry.reply.isOutOfOrder = false := by
    intro entry member transaction
    have listed := List.mem_map_of_mem (f := fun entry => entry.call.isTransaction) member
    rw [single] at listed
    cases transaction.symm.trans (List.eq_of_mem_replicate listed)
  obtain ⟨permitted, ended, _⟩ := run_inOrder_permissive ran abandons whole
  rw [kept] at permitted
  exact ⟨log, ran, _, permitted, ended⟩

end Runs

end SerialBus
