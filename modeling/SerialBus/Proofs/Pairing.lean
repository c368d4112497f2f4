import SerialBus.Proofs.Fields
import SerialBus.Proofs.Runs

/-!
# Units and their answers

Every unit that goes out is owed an answer, and no unit goes out while an answer is owed
to the one before it.  `Paired` is the set of stretches of a trace that keep to this: an
access to a data register comes right after a status read that allows it, sends and
takes are in turn, and the stretch tells whether an answer is owed where it begins and
where it ends.

A call begins with nothing owed and ends with an answer owed exactly if its transfer
timed out for want of one (`call_paired`); the next call then begins afresh.  So in a
whole run there are more units sent than taken, by one for every such timeout
(`data_path_of_reaches`).

Nothing but transfers touches the data registers, because the scripts of a controller
leave them alone (`Controller.SparesData`) and so do waits and DMA commands.
-/

set_option autoImplicit false

namespace SerialBus

variable {ρ σ κ : Type}

/-! ## Answers that never came -/

/-- Whether a failure is that of a unit whose answer never came. -/
def unanswered (failure : Option Failure) : Bool :=
  failure = some (.timeout .rxReady)

/-- No check objects that an answer never came. -/
theorem Host.Objection.unanswered_eq {host : Host ρ σ κ} {failure : Failure}
    (objection : host.Objection failure) : unanswered (some failure) = false := by
  cases objection <;> rfl

/-- The wait for everything sent to leave the controller is for no answer. -/
theorem Waited.unanswered_eq {controller : Controller ρ} {outcome : Outcome}
    {events : List (Event ρ)} (waited : Waited controller .txEmpty outcome events) :
    unanswered outcome.failure? = false := by
  rcases waited.outcome_cases with rfl | rfl
  · rfl
  · rfl

/-! ## The data path -/

variable [DecidableEq ρ]

/-- The two ways in which a unit passes through the data registers. -/
inductive Side where
  /-- A unit was written to the transmit register. -/
  | sent
  /-- A unit was read from the receive register. -/
  | taken
  deriving DecidableEq, Repr

namespace Side

/-- What the status register must report before a unit passes. -/
def condition : Side → Condition
  | .sent => .txReady
  | .taken => .rxReady

/-- The position of the status bit that reports it. -/
def readyBit : Side → Nat
  | .sent => 1
  | .taken => 0

/-- The side whose turn comes next. -/
def other : Side → Side
  | .sent => .taken
  | .taken => .sent

/-- Sides that take turns, the first of them given. -/
def InTurn : Side → List Side → Prop
  | _, [] => True
  | first, side :: rest => side = first ∧ InTurn first.other rest

end Side

/-- The side of an access to a data register. -/
def Event.side? (controller : Controller ρ) : Event ρ → Option Side
  | .write register _ => if register = controller.transmit then some .sent else none
  | .read register _ => if register = controller.receive then some .taken else none
  | _ => none

theorem Event.side?_transmit (controller : Controller ρ) (unit : UInt32) :
    (Event.write controller.transmit unit).side? controller = some .sent :=
  if_pos rfl

theorem Event.side?_receive (controller : Controller ρ) (value : UInt32) :
    (Event.read controller.receive value).side? controller = some .taken :=
  if_pos rfl

namespace Trace

/-- The sides of the accesses to data registers, in order. -/
def sides (controller : Controller ρ) (events : List (Event ρ)) : List Side :=
  events.filterMap (Event.side? controller)

/-- Every access to a data register comes right after a status read that allows it. -/
def Granted (controller : Controller ρ) (events : List (Event ρ)) : Prop :=
  ∀ before event rest side, events = before ++ event :: rest →
    event.side? controller = some side →
    ∃ earlier status, before = earlier ++ [.read controller.status status] ∧
      controller.reports side.condition status = true

variable {controller : Controller ρ} {event : Event ρ} {first second : List (Event ρ)}

theorem Granted.nil : Granted controller [] := by
  intro before event rest side split
  simp at split

theorem Granted.append (before : Granted controller first) (after : Granted controller second) :
    Granted controller (first ++ second) := by
  intro earlier event rest side split access
  rcases List.append_eq_append_iff.1 split with ⟨more, rfl, inSecond⟩ | ⟨more, inFirst, same⟩
  · obtain ⟨between, status, rfl, reported⟩ := after more event rest side inSecond access
    exact ⟨first ++ between, status, (List.append_assoc ..).symm, reported⟩
  · cases more with
    | nil =>
        obtain ⟨between, status, nothing, _⟩ := after [] event rest side same.symm access
        simp at nothing
    | cons found more =>
        obtain ⟨rfl, _⟩ := List.cons.inj same
        exact before earlier event more side inFirst access

theorem Granted.of_silent (silent : ∀ event ∈ first, event.side? controller = none) :
    Granted controller first := by
  intro before event rest side split access
  have member : event ∈ first := split ▸ by simp
  simp [silent event member] at access

/-- A status read that allows an access grants it. -/
theorem Granted.access {side : Side} {status : UInt32}
    (apart : controller.status ≠ controller.receive) (access : event.side? controller = some side)
    (reported : controller.reports side.condition status = true) :
    Granted controller [.read controller.status status, event] := by
  intro before found rest other split passes
  match before, split with
  | [], split =>
      obtain ⟨rfl, _⟩ := List.cons.inj split
      simp [Event.side?, apart] at passes
  | [_], split =>
      obtain ⟨rfl, tail⟩ := List.cons.inj split
      obtain ⟨rfl, _⟩ := List.cons.inj tail
      obtain rfl := Option.some.inj (access.symm.trans passes)
      exact ⟨[], status, rfl, reported⟩
  | _ :: _ :: _, split => simp at split

end Trace

/-! ## Paired stretches of a trace -/

/-- A stretch of a trace in which every access to a data register is granted and sends
and takes are in turn, by whether an answer is owed before it and after it. -/
inductive Paired (controller : Controller ρ) : (owed : Bool) → List (Event ρ) → (left : Bool) → Prop
    where
  | nil {owed : Bool} : Paired controller owed [] owed
  | other {owed left : Bool} {event : Event ρ} {rest : List (Event ρ)}
      (silent : event.side? controller = none) (later : Paired controller owed rest left) :
      Paired controller owed (event :: rest) left
  | send {left : Bool} {status unit : UInt32} {rest : List (Event ρ)}
      (room : controller.reports .txReady status = true)
      (later : Paired controller true rest left) :
      Paired controller false
        (.read controller.status status :: .write controller.transmit unit :: rest) left
  | take {left : Bool} {status value : UInt32} {rest : List (Event ρ)}
      (answer : controller.reports .rxReady status = true)
      (later : Paired controller false rest left) :
      Paired controller true
        (.read controller.status status :: .read controller.receive value :: rest) left

namespace Paired

variable {controller : Controller ρ} {owed mid left : Bool} {first second : List (Event ρ)}

theorem append (before : Paired controller owed first mid)
    (after : Paired controller mid second left) :
    Paired controller owed (first ++ second) left := by
  induction before with
  | nil => exact after
  | other silent _ ih => exact .other silent (ih after)
  | send room _ ih => exact .send room (ih after)
  | take answer _ ih => exact .take answer (ih after)

theorem of_silent (silent : ∀ event ∈ first, event.side? controller = none) :
    Paired controller owed first owed := by
  induction first with
  | nil => exact .nil
  | cons event rest ih =>
      have later := ih fun event member => silent event (List.mem_cons_of_mem _ member)
      exact .other (silent event List.mem_cons_self) later

/-! What a paired stretch says about the data path. -/

section Apart

variable (apart : controller.status ≠ controller.receive)
include apart

theorem granted (paired : Paired controller owed first left) : Trace.Granted controller first := by
  induction paired with
  | nil => exact .nil
  | @other _ _ event rest silent _ ih =>
      have alone : Trace.Granted controller [event] := .of_silent (by simpa using silent)
      exact alone.append ih
  | send room _ ih =>
      exact (Trace.Granted.access apart (Event.side?_transmit ..) room).append ih
  | take answer _ ih =>
      exact (Trace.Granted.access apart (Event.side?_receive ..) answer).append ih

theorem inTurn (paired : Paired controller owed first left) :
    Side.InTurn (if owed then .taken else .sent) (Trace.sides controller first) := by
  induction paired with
  | nil => exact trivial
  | other silent _ ih => simpa [Trace.sides, silent] using ih
  | send room _ ih => simpa [Trace.sides, Event.side?, apart, Side.InTurn, Side.other] using ih
  | take answer _ ih => simpa [Trace.sides, Event.side?, apart, Side.InTurn, Side.other] using ih

/-- Units sent and taken balance, up to the answers owed before and after. -/
theorem count_eq (paired : Paired controller owed first left) :
    (Trace.sides controller first).count .sent + owed.toNat =
      (Trace.sides controller first).count .taken + left.toNat := by
  induction paired with
  | nil => rfl
  | other silent _ ih => simpa [Trace.sides, silent] using ih
  | send room _ ih =>
      simp [Trace.sides, Event.side?, apart] at ih ⊢
      omega
  | take answer _ ih =>
      simp [Trace.sides, Event.side?, apart] at ih ⊢
      omega

end Apart

end Paired

/-! ## Waits and exchanges -/

section Grammar

variable {controller : Controller ρ} {condition : Condition} {outcome : Outcome}
  {events : List (Event ρ)} (apart : controller.status ≠ controller.receive)
include apart

theorem Event.Waiting.side?_eq_none {event : Event ρ} (waiting : event.Waiting controller) :
    event.side? controller = none := by
  rcases waiting with clock | ⟨value, rfl⟩
  · cases event with
    | clock now => rfl
    | _ => exact clock.elim
  · exact if_neg apart

theorem Waited.side?_eq_none (waited : Waited controller condition outcome events) :
    ∀ event ∈ events, event.side? controller = none :=
  fun event member => (waited.waiting event member).side?_eq_none apart

/-- A wait for room and then a unit. -/
theorem Waited.paired_send (waited : Waited controller .txReady (.ok ()) events)
    {unit : UInt32} {rest : List (Event ρ)} {left : Bool}
    (later : Paired controller true rest left) :
    Paired controller false (events ++ .write controller.transmit unit :: rest) left := by
  obtain ⟨earlier, status, rfl, room, waiting⟩ := waited.last_of_ok
  rw [List.append_assoc]
  exact (Paired.of_silent fun event member =>
    (waiting event member).side?_eq_none apart).append (.send room later)

/-- A wait for an answer and then the answer. -/
theorem Waited.paired_take (waited : Waited controller .rxReady (.ok ()) events)
    {value : UInt32} {rest : List (Event ρ)} {left : Bool}
    (later : Paired controller false rest left) :
    Paired controller true (events ++ .read controller.receive value :: rest) left := by
  obtain ⟨earlier, status, rfl, answer, waiting⟩ := waited.last_of_ok
  rw [List.append_assoc]
  exact (Paired.of_silent fun event member =>
    (waiting event member).side?_eq_none apart).append (.take answer later)

/-- An exchange owes an answer at its end exactly if it timed out for want of one. -/
theorem Shifted.paired {w : Width} {β : Type} {feed : Feed w β} {length index : Nat}
    {buffers final : β}
    (shifted : Shifted controller feed length index buffers outcome final events) :
    Paired controller false events (unanswered outcome.failure?) := by
  induction shifted with
  | done => exact .nil
  | noRoom room => exact .of_silent (room.side?_eq_none apart)
  | noAnswer room answer =>
      exact room.paired_send apart (.of_silent (answer.side?_eq_none apart))
  | unit room answer _ ih => exact room.paired_send apart (answer.paired_take apart ih)

end Grammar

/-! ## Scripts -/

/-- An access of a script that leaves the data registers alone. -/
def Access.Spares (controller : Controller ρ) : Access ρ → Prop
  | .enable => True
  | .write register _ => register ≠ controller.transmit
  | .modify register _ => register ≠ controller.transmit ∧ register ≠ controller.receive

/-- A controller whose scripts leave its data registers alone. -/
structure Controller.SparesData (controller : Controller ρ) : Prop where
  apart : controller.status ≠ controller.receive
  bringUp : ∀ clockHz, ∀ access ∈ controller.bringUp clockHz, access.Spares controller
  configure : ∀ device mode divisor, ∀ access ∈ controller.configure device mode divisor,
    access.Spares controller
  select : ∀ device, ∀ access ∈ controller.select device, access.Spares controller
  finish : ∀ access ∈ controller.finish, access.Spares controller

theorem Hardware.side?_eventsOfScript {hardware : Hardware ρ σ} {controller : Controller ρ}
    {script : List (Access ρ)} (spares : ∀ access ∈ script, access.Spares controller)
    (state : σ) : ∀ event ∈ hardware.eventsOfScript state script,
      event.side? controller = none := by
  intro event member
  obtain ⟨access, inScript, later, member⟩ := mem_eventsOfScript member
  have spared := spares access inScript
  cases access with
  | enable =>
      rw [List.mem_singleton.1 member]
      rfl
  | write register value =>
      rw [List.mem_singleton.1 member]
      exact if_neg spared
  | modify register change =>
      rcases List.mem_cons.1 member with rfl | member
      · exact if_neg spared.2
      · rw [List.mem_singleton.1 member]
        exact if_neg spared.1

/-- The scripts of both backends leave the data registers alone. -/
theorem Backend.sparesData (backend : Backend) : backend.controller.SparesData where
  apart := backend.status_ne_receive
  bringUp := by
    cases backend with
    | standard => simp [controller, Standard.controller, Standard.bringUp, Access.Spares]
    | usart => simp [controller, Usart.controller, Usart.bringUp, Access.Spares]
  configure := by
    cases backend with
    | standard => simp [controller, Standard.controller, Standard.configure, Access.Spares]
    | usart => simp [controller, Usart.controller, Usart.configure, Access.Spares]
  select := by
    cases backend with
    | standard => simp [controller, Standard.controller, Standard.select, Access.Spares]
    | usart => simp [controller, Usart.controller]
  finish := by
    cases backend with
    | standard => simp [controller, Standard.controller, Standard.finish, Access.Spares]
    | usart => simp [controller, Usart.controller]

/-- Both backends report readiness in the same two status bits. -/
theorem Backend.reports_side (backend : Backend) (side : Side) (status : UInt32) :
    backend.controller.reports side.condition status = testBit status side.readyBit := by
  cases backend <;> cases side <;> exact Field.isFull_bit (by decide) status

namespace Host

variable {host : Host ρ σ κ} {bus mid after : Bus ρ σ κ} {owed : Bool}

/-- Between two buses the trace has grown by events that leave the data registers alone. -/
def Spared (host : Host ρ σ κ) (bus after : Bus ρ σ κ) : Prop :=
  ∃ events, after.trace = bus.trace ++ events ∧
    ∀ event ∈ events, event.side? host.controller = none

theorem Spared.refl : host.Spared bus bus :=
  ⟨[], by simp, by simp⟩

theorem Spared.trans (first : host.Spared bus mid) (second : host.Spared mid after) :
    host.Spared bus after := by
  obtain ⟨before, trace, silent⟩ := first
  obtain ⟨later, laterTrace, laterSilent⟩ := second
  refine ⟨before ++ later, by rw [laterTrace, trace, List.append_assoc], ?_⟩
  intro event member
  rcases List.mem_append.1 member with here | there
  · exact silent event here
  · exact laterSilent event there

theorem after_spared {events : List (Event ρ)}
    (silent : ∀ event ∈ events, event.side? host.controller = none) :
    host.Spared bus (host.after events bus) :=
  ⟨events, host.after_trace events bus, silent⟩

theorem run_spared {script : List (Access ρ)}
    (spares : ∀ access ∈ script, access.Spares host.controller) :
    host.Spared bus (host.run script bus) := by
  rw [run_eq]
  exact after_spared (Hardware.side?_eventsOfScript spares bus.hardware)

theorem drive_spared (number : UInt8) (level : Level) :
    host.Spared bus (host.drive number level bus) := by
  refine ⟨_, host.trace_drive bus number level, ?_⟩
  intro event shown
  obtain ⟨line, _, rfl⟩ := Option.map_eq_some_iff.1 (Option.mem_toList.1 shown)
  rfl

/-- The pin of a device adapter is no data register. -/
theorem note_adapter_spared (level : Level) : host.Spared bus (bus.note (.adapter level)) := by
  rw [host.note_adapter_eq]
  exact after_spared (by simp [Event.side?])

/-- A deed leaves the data registers alone. -/
theorem Enacted.spared (spares : host.controller.SparesData) {deed : Deed}
    (enacted : host.Enacted deed bus after) : host.Spared bus after := by
  cases enacted with
  | bringUp down => exact run_spared (spares.bringUp _)
  | bringUpAgain up => exact .refl
  | configure allowed legal => exact run_spared (spares.configure _ _ _)
  | select allowed => exact (run_spared (spares.select _)).trans (drive_spared _ _)
  | release allowed => exact (run_spared spares.finish).trans (drive_spared _ _)
  | releaseNothing refused => exact .refl
  | fault allowed => exact .refl

theorem Enacts.spared (spares : host.controller.SparesData) {deeds : List Deed}
    (enacts : host.Enacts deeds bus after) : host.Spared bus after := by
  induction enacts with
  | nil => exact .refl
  | cons first _ ih => exact (first.spared spares).trans ih

/-! ## Calls -/

/-- Between two buses the trace has grown by a stretch in which no answer is owed at
first, and at the end one is owed or not. -/
def Trades (host : Host ρ σ κ) (owed : Bool) (bus after : Bus ρ σ κ) : Prop :=
  ∃ events, after.trace = bus.trace ++ events ∧ Paired host.controller false events owed

theorem Trades.trans (first : host.Trades false bus mid) (second : host.Trades owed mid after) :
    host.Trades owed bus after := by
  obtain ⟨before, trace, paired⟩ := first
  obtain ⟨later, laterTrace, laterPaired⟩ := second
  refine ⟨before ++ later, ?_, paired.append laterPaired⟩
  rw [laterTrace, trace, List.append_assoc]

theorem Spared.trades (spared : host.Spared bus after) : host.Trades false bus after := by
  obtain ⟨events, trace, silent⟩ := spared
  exact ⟨events, trace, .of_silent silent⟩

/-- Nothing but a transfer settles what is owed. -/
theorem Trades.spared (first : host.Trades owed bus mid) (second : host.Spared mid after) :
    host.Trades owed bus after := by
  obtain ⟨before, trace, paired⟩ := first
  obtain ⟨later, laterTrace, silent⟩ := second
  refine ⟨before ++ later, ?_, paired.append (.of_silent silent)⟩
  rw [laterTrace, trace, List.append_assoc]

section Calls

variable (spares : host.controller.SparesData) {outcome : Outcome}
include spares

theorem waited_spared {condition : Condition} {events : List (Event ρ)}
    (waited : Waited host.controller condition outcome events) :
    host.Spared bus (host.after events bus) :=
  after_spared (waited.side?_eq_none spares.apart)

theorem Transfers.trades {γ : Type} {given back : γ}
    (transfers : host.Transfers bus given outcome back after) :
    host.Trades (unanswered outcome.failure?) bus after := by
  cases transfers with
  | refused objection =>
      rw [Outcome.failure?, objection.unanswered_eq]
      exact Spared.refl.trades
  | @shifted _ _ _ _ _ _ _ events _ allowed shifted =>
      exact ⟨events, by simp, shifted.paired spares.apart⟩

theorem Operates.trades (operates : host.Operates bus outcome after) :
    host.Trades (unanswered outcome.failure?) bus after := by
  cases operates with
  | transferred transfers => exact transfers.trades spares
  | delayed waited =>
      rw [← after_after]
      exact ((waited_spared spares waited).trans (after_spared (by simp [Event.side?]))).trades
  | undrained waited => exact (waited_spared spares waited).trades

theorem transact_trades {w : Width} {operations done : List (Operation w)}
    (result : host.transact operations bus = some (outcome, done, after)) :
    host.Trades (unanswered outcome.failure?) bus after := by
  obtain ⟨carried, drained, mid, events, carriedOut, -, waited, rfl, reported⟩ :=
    transact_cases result
  have operated := operateAll_relates
    (fun outcome bus after => host.Trades (unanswered outcome.failure?) bus after)
    (fun _ => Spared.refl.trades) (fun first second => first.trans second)
    (fun operates => operates.trades spares) carriedOut
  rw [← after_after, ← note_adapter_eq]
  have drainedMid : host.Spared mid (host.after events mid) := waited_spared spares waited
  have carriedThrough := ((note_adapter_spared .low).trades.trans operated).spared
    (drainedMid.trans (note_adapter_spared .high))
  rcases reported with ⟨rfl, _⟩ | ⟨rfl, rfl⟩
  · exact carriedThrough
  · rw [waited.unanswered_eq]
    exact carriedThrough

/-- **A call owes an answer at its end exactly if its transfer timed out for want of one.** -/
theorem call_paired {call : Call} {reply : Reply}
    (answered : host.call bus call = some (reply, after)) :
    host.Trades (unanswered reply.failure?) bus after := by
  cases call_answers answered with
  | unavailable nothing => exact Spared.refl.trades
  | refused objection nothing =>
      rw [Call.failure?_refused, objection.unanswered_eq]
      exact Spared.refl.trades
  | enacted fine enacts =>
      rw [fine]
      exact (enacts.spared spares).trades
  | drained waited told enacts =>
      have settled : unanswered reply.failure? = false := by
        rcases told with fine | told
        · rw [fine]
          rfl
        · rw [told, waited.unanswered_eq]
      rw [settled]
      exact ((waited_spared spares waited).trans (enacts.spared spares)).trades
  | @shifted _ _ _ _ _ _ _ _ _ events allowed shifted told faulty =>
      rw [told]
      exact ⟨events, by simp, shifted.paired spares.apart⟩
  | armed fine nothing arming =>
      rw [fine]
      refine (after_spared fun event member => ?_).trades
      rcases arming event member with ⟨command, rfl⟩ | ⟨value, rfl⟩
      · rfl
      · exact if_neg spares.apart
  | transacted result =>
      rw [Reply.failure?_transacted]
      exact (note_adapter_spared .high).trades.trans (transact_trades spares result)

end Calls

end Host

/-! ## Runs -/

section Runs

variable {host : Host ρ σ κ} {drift : σ → σ → Prop} {hardware : σ} {lines : κ}
  {log : List (Answered ρ σ κ)} {bus : Bus ρ σ κ}

/-- Wherever a run can get, every access to a data register was granted, and as many
answers are missing as there were calls that timed out for want of one. -/
theorem Host.Reaches.data_path (spares : host.controller.SparesData)
    (reached : host.Reaches drift (.fresh hardware lines) log bus) :
    Trace.Granted host.controller bus.trace ∧
      (Trace.sides host.controller bus.trace).count .sent =
        (Trace.sides host.controller bus.trace).count .taken +
          log.countP fun entry => unanswered entry.reply.failure? := by
  induction reached with
  | start => exact ⟨.nil, rfl⟩
  | drift _ _ ih => exact ih
  | @call log bus after call reply _ answered ih =>
      obtain ⟨granted, balance⟩ := ih
      obtain ⟨events, trace, paired⟩ := Host.call_paired spares answered
      rw [trace]
      refine ⟨granted.append (paired.granted spares.apart), ?_⟩
      have counted := paired.count_eq spares.apart
      have owed : (unanswered reply.failure?).toNat =
          if unanswered reply.failure? then 1 else 0 := by
        cases unanswered reply.failure? with
        | false => rfl
        | true => rfl
      rw [List.countP_cons, ← owed]
      simp only [Trace.sides, List.filterMap_append, List.count_append] at balance counted ⊢
      simp only [Bool.toNat_false, Nat.add_zero] at counted
      omega

/-- **The data path of either backend.**  Wherever a run can get, every access to a data
register comes right after a read of the status register whose value had the ready bit
of that register set.  In every call, sends and takes are in turn, a send first.  And as
many more units were sent than taken as there were calls whose transfer timed out for
want of an answer. -/
theorem data_path_of_reaches (backend : Backend) {host : Host backend.Register σ κ}
    (drives : host.controller = backend.controller) {drift : σ → σ → Prop} {hardware : σ}
    {lines : κ} {log : List (Answered backend.Register σ κ)} {bus : Bus backend.Register σ κ}
    (reached : host.Reaches drift (.fresh hardware lines) log bus) :
    (∀ before event rest side, bus.trace = before ++ event :: rest →
        event.side? host.controller = some side →
        ∃ earlier status, before = earlier ++ [.read host.controller.status status] ∧
          testBit status side.readyBit = true) ∧
      (∀ call reply after, host.call bus call = some (reply, after) →
        ∃ events, after.trace = bus.trace ++ events ∧
          Side.InTurn .sent (Trace.sides host.controller events)) ∧
      (Trace.sides host.controller bus.trace).count .sent =
        (Trace.sides host.controller bus.trace).count .taken +
          log.countP fun entry => entry.reply.failure? = some (.timeout .rxReady) := by
  have spares : host.controller.SparesData := drives ▸ backend.sparesData
  obtain ⟨granted, balance⟩ := reached.data_path spares
  refine ⟨?_, ?_, ?_⟩
  · intro before event rest side split access
    obtain ⟨earlier, status, rfl, reported⟩ := granted before event rest side split access
    refine ⟨earlier, status, rfl, ?_⟩
    rw [drives, backend.reports_side] at reported
    exact reported
  · intro call reply after answered
    obtain ⟨events, trace, paired⟩ := Host.call_paired spares answered
    exact ⟨events, trace, paired.inTurn spares.apart⟩
  · exact balance

/-- A strict host on a standard controller to which no answer ever comes. -/
def Host.unheard : Host Backend.standard.Register Unit Unit :=
  { Host.constant 0x202 with waits := .pollLimit 2 }

/-- A transfer is left without an answer to its first unit, and another is refused. -/
theorem data_path_of_reaches_unheard :
    ∃ log bus, Host.unheard.Reaches (fun _ _ => True) (.fresh () ()) log bus ∧
      log.map (fun entry => entry.reply.failure?) =
        [some (.outOfOrder .faulted), some (.timeout .rxReady), none, none] ∧
      (Trace.sides Host.unheard.controller bus.trace).count .sent =
        (Trace.sides Host.unheard.controller bus.trace).count .taken + 1 ∧
      ∀ before unit rest,
        bus.trace = before ++ .write Host.unheard.controller.transmit unit :: rest →
        ∃ earlier status, before = earlier ++ [.read Host.unheard.controller.status status] ∧
          testBit status 1 = true := by
  let turns : List (Turn Unit) := [.call (.bringUp 8),
    .call (.openSession ⟨0⟩ ⟨0, 1, .eight⟩ (.ofBits 0) 1000000),
    .call (.transmit .eight [1, 2]), .call (.transmit .eight [3])]
  have ran : (Host.unheard.turns (.fresh () ()) turns).map
      (fun log => (answers turns log).map fun entry => entry.reply.failure?) =
      some [some (.outOfOrder .faulted), some (.timeout .rxReady), none, none] := rfl
  obtain ⟨log, ran, told⟩ := Option.map_eq_some_iff.1 ran
  have reached := Host.reaches_of_run ran
  obtain ⟨granted, _, balance⟩ := data_path_of_reaches .standard rfl reached
  refine ⟨_, _, reached, told, ?_, ?_⟩
  · have missing := congrArg (List.countP fun failure => failure = some (.timeout .rxReady)) told
    rw [List.countP_map] at missing
    exact balance.trans (congrArg _ missing)
  · intro before unit rest split
    exact granted before _ rest .sent split (Event.side?_transmit ..)

end Runs

end SerialBus
