import SerialBus.Proofs.Runs

/-!
# Buses without their lines

A host drives its chip-select lines and never learns what came of it.  So the lines can be
taken away: from the host, whose drives then do nothing, and from its buses, with the
events that only the lines show (`Host.unlined`, `Bus.unlined`).

Taking the lines away commutes with everything a host does.  Every primitive is the same
with lines and without, and so is whatever is made of primitives: waits, exchanges, the
calls (`Host.call_unlined`), and runs of turns (`Host.turns_unlined`).  What is left of a
run without the lines is its replies, the stages it passes through, and every event that
no line shows.
-/

set_option autoImplicit false

namespace SerialBus

variable {ρ σ κ α : Type}

/-! ## Taking the lines away -/

/-- The same host with other chip-select lines. -/
abbrev Host.withLines {κ' : Type} (host : Host ρ σ κ) (lines : SelectLines κ') :
    Host ρ σ κ' where
  controller := host.controller
  hardware := host.hardware
  lines := lines
  waits := host.waits
  clockHz := host.clockHz
  discipline := host.discipline
  fillerAddress := host.fillerAddress

/-- The same host without lines. -/
abbrev Host.unlined (host : Host ρ σ κ) : Host ρ σ Unit :=
  host.withLines .absent

/-- An event that the lines show. -/
def Event.isLine : Event ρ → Bool
  | .line _ => true
  | _ => false

/-- A bus without its lines and without what they have shown. -/
def Bus.unlined (bus : Bus ρ σ κ) : Bus ρ σ Unit where
  hardware := bus.hardware
  lines := ()
  up := bus.up
  stage := bus.stage
  configured := bus.configured
  history := bus.history.filter fun event => !event.isLine

namespace Host

variable (host : Host ρ σ κ) (bus : Bus ρ σ κ)

/-- A result with its bus, without the lines. -/
def unlinedEnd : α × Bus ρ σ κ → α × Bus ρ σ Unit :=
  Prod.map id Bus.unlined

/-- A result with its buffers and its bus, without the lines. -/
def unlinedEnds {β : Type} : α × β × Bus ρ σ κ → α × β × Bus ρ σ Unit :=
  Prod.map id unlinedEnd

@[simp] theorem unlinedEnd_mk (value : α) : unlinedEnd (value, bus) = (value, bus.unlined) := rfl

@[simp] theorem unlinedEnds_mk {β : Type} (value : α) (buffers : β) :
    unlinedEnds (value, buffers, bus) = (value, buffers, bus.unlined) := rfl

/-! ## Effects -/

theorem access_unlined (access : Access ρ) :
    host.unlined.access bus.unlined access = (host.access bus access).unlined := by
  cases access with
  | enable => rfl
  | write register value => rfl
  | modify register change => rfl

theorem run_unlined (script : List (Access ρ)) :
    host.unlined.run script bus.unlined = (host.run script bus).unlined := by
  induction script generalizing bus with
  | nil => rfl
  | cons access script ih => rw [run_cons, run_cons, access_unlined, ih]

theorem commandAll_unlined (commands : List Dma.Command) :
    host.unlined.commandAll commands bus.unlined = (host.commandAll commands bus).unlined := by
  induction commands generalizing bus with
  | nil => rfl
  | cons command commands ih => exact ih (host.command command bus)

/-- Without its lines a bus does not show that they were driven. -/
theorem drive_unlined (number : UInt8) (level : Level) :
    (host.drive number level bus).unlined = bus.unlined := by
  unfold drive
  rcases host.lines.drive number level bus.lines with ⟨lines, event⟩
  cases event with
  | none => rfl
  | some event => rfl

theorem consult_unlined (clocked : Clocked α) :
    host.unlined.consult clocked bus.unlined = unlinedEnd (host.consult clocked bus) := by
  induction clocked generalizing bus with
  | answer value => rfl
  | ask next ih =>
      exact ih (host.hardware.now bus.hardware).1
        (host.after [.clock (host.hardware.now bus.hardware).1] bus)

/-! ## Waits and exchanges -/

theorem pollUntil_unlined (condition : Condition) (polls : Nat) (budget : host.waits.Budget) :
    host.unlined.pollUntil condition polls budget bus.unlined =
      (host.pollUntil condition polls budget bus).map unlinedEnd := by
  induction polls generalizing budget bus with
  | zero => rfl
  | succ polls ih =>
      have polled : host.unlined.poll condition bus.unlined =
          unlinedEnd (host.poll condition bus) := rfl
      have spends : host.unlined.waits.spend budget = host.waits.spend budget := rfl
      rw [pollUntil, pollUntil, polled, spends]
      rcases host.poll condition bus with ⟨seen, bus⟩
      cases seen with
      | true => rfl
      | false =>
          dsimp only [unlinedEnd_mk]
          rw [consult_unlined]
          rcases host.consult (host.waits.spend budget) bus with ⟨⟨spent, budget⟩, bus⟩
          cases spent with
          | true => rfl
          | false => exact ih ..

theorem wait_unlined (condition : Condition) :
    host.unlined.wait condition bus.unlined = (host.wait condition bus).map unlinedEnd := by
  have start : host.unlined.waits.start = host.waits.start := rfl
  rw [wait, wait, start, consult_unlined]
  exact host.pollUntil_unlined ..

theorem await_unlined (condition : Condition) :
    host.unlined.await condition bus.unlined = (host.await condition bus).map unlinedEnd := by
  rw [await, await, wait_unlined]
  cases host.wait condition bus with
  | none => rfl
  | some waited =>
      obtain ⟨outcome, bus⟩ := waited
      cases outcome with
      | ok => rfl
      | error failure => rfl

theorem shift_unlined {w : Width} {β : Type} (feed : Feed w β) (left index : Nat) (buffers : β) :
    host.unlined.shift feed left index buffers bus.unlined =
      (host.shift feed left index buffers bus).map unlinedEnds := by
  induction left generalizing index buffers bus with
  | zero => rfl
  | succ left ih =>
      rw [shift, shift, await_unlined]
      cases host.await .txReady bus with
      | none => rfl
      | some waited =>
          obtain ⟨outcome, bus⟩ := waited
          cases outcome with
          | error failure => rfl
          | ok =>
              have sent : host.unlined.send (w.toUnit (feed.next index buffers)) (left = 0)
                  bus.unlined =
                    (host.send (w.toUnit (feed.next index buffers)) (left = 0) bus).unlined := rfl
              dsimp only [Option.map_some, unlinedEnd_mk]
              rw [sent, await_unlined]
              cases host.await .rxReady
                  (host.send (w.toUnit (feed.next index buffers)) (left = 0) bus) with
              | none => rfl
              | some waited =>
                  obtain ⟨outcome, bus⟩ := waited
                  cases outcome with
                  | error failure => rfl
                  | ok =>
                      exact ih (host.take bus).2 (index + 1)
                        (feed.store index (w.ofUnit (host.take bus).1) buffers)

theorem exchange_unlined {w : Width} {β : Type} (feed : Feed w β) (length : Nat) (buffers : β) :
    host.unlined.exchange feed length buffers bus.unlined =
      (host.exchange feed length buffers bus).map unlinedEnds := by
  have refusal : host.unlined.refusal bus.unlined.exchangeBreach =
      host.refusal bus.exchangeBreach := rfl
  rw [exchange, exchange, refusal]
  cases host.refusal bus.exchangeBreach with
  | some failure => rfl
  | none => exact host.shift_unlined ..

theorem transceive_unlined {w : Width} (outgoing incoming : Option (List w.Word))
    (length : Nat) :
    host.unlined.transceive w outgoing incoming length bus.unlined =
      (host.transceive w outgoing incoming length bus).map unlinedEnds := by
  rw [transceive, transceive]
  cases shortage outgoing length with
  | some failure => rfl
  | none =>
      cases shortage incoming length with
      | some failure => rfl
      | none => exact host.exchange_unlined ..

theorem receive_unlined {w : Width} (incoming : List w.Word) :
    host.unlined.receive w incoming bus.unlined =
      (host.receive w incoming bus).map unlinedEnds := by
  rw [receive, receive, transceive_unlined, Option.map_map, Option.map_map]
  rfl

theorem transmit_unlined {w : Width} (outgoing : List w.Word) :
    host.unlined.transmit w outgoing bus.unlined =
      (host.transmit w outgoing bus).map unlinedEnd := by
  rw [transmit, transmit, transceive_unlined, Option.map_map, Option.map_map]
  rfl

/-! ## The conversation -/

theorem bringUp_unlined (bits : UInt32) :
    host.unlined.bringUp bits bus.unlined = unlinedEnd (host.bringUp bits bus) := by
  have up : bus.unlined.up = bus.up := rfl
  rw [bringUp, bringUp, up, run_unlined]
  cases bus.up with
  | true => rfl
  | false => rfl

theorem configure_unlined (device : Device) (mode : Mode) (baudHz : UInt32) :
    host.unlined.configure device mode baudHz bus.unlined =
      unlinedEnd (host.configure device mode baudHz bus) := by
  have refusal : host.unlined.refusal bus.unlined.configureBreach =
      host.refusal bus.configureBreach := rfl
  have divisor : host.unlined.controller.divisor host.unlined.clockHz baudHz =
      host.controller.divisor host.clockHz baudHz := rfl
  rw [configure, configure, refusal, divisor]
  cases host.refusal bus.configureBreach with
  | some failure => rfl
  | none =>
      cases host.controller.divisor host.clockHz baudHz with
      | none => rfl
      | some divisor =>
          dsimp only
          rw [run_unlined]
          rfl

theorem drive_run_unlined (number : UInt8) (level : Level) (script : List (Access ρ)) :
    host.unlined.drive number level (host.unlined.run script bus.unlined) =
      (host.drive number level (host.run script bus)).unlined := by
  rw [drive_unlined, run_unlined]
  rfl

theorem select_unlined (device : Device) :
    host.unlined.select device bus.unlined = unlinedEnd (host.select device bus) := by
  have refusal : host.unlined.refusal (bus.unlined.selectBreach device) =
      host.refusal (bus.selectBreach device) := rfl
  rw [select, select, refusal]
  cases host.refusal (bus.selectBreach device) with
  | some failure => rfl
  | none =>
      have driven := host.drive_run_unlined bus device.line .low (host.controller.select device)
      exact congrArg (fun bus => (Except.ok (), { bus with stage := .selected })) driven

theorem letGo_unlined (device : Device) :
    host.unlined.letGo device bus.unlined = (host.letGo device bus).unlined := by
  have driven := host.drive_run_unlined bus device.line .high host.controller.finish
  exact congrArg (fun bus => { bus with stage := .deselected }) driven

theorem deselect_unlined (device : Device) :
    host.unlined.deselect device bus.unlined = (host.deselect device bus).map unlinedEnd := by
  have refusal : host.unlined.refusal bus.unlined.deselectBreach =
      host.refusal bus.deselectBreach := rfl
  rw [deselect, deselect, refusal]
  cases host.refusal bus.deselectBreach with
  | some failure => rfl
  | none =>
      dsimp only
      rw [wait_unlined]
      cases host.wait .txEmpty bus with
      | none => rfl
      | some waited =>
          exact congrArg (fun bus => some (waited.1, bus)) (host.letGo_unlined waited.2 device)

theorem abandonSession_unlined (session : Session) :
    host.unlined.abandonSession session bus.unlined =
      (host.abandonSession session bus).map Bus.unlined := by
  cases isOpen : session.isOpen with
  | true =>
      rw [abandonSession_of_open isOpen, abandonSession_of_open isOpen, deselect_unlined,
        Option.map_map, Option.map_map]
      rfl
  | false =>
      rw [abandonSession_of_closed isOpen, abandonSession_of_closed isOpen]
      rfl

theorem openSession_unlined (held : Guard) (device : Device) (mode : Mode) (baudHz : UInt32) :
    host.unlined.openSession held device mode baudHz bus.unlined =
      unlinedEnd (host.openSession held device mode baudHz bus) := by
  rw [openSession, openSession, configure_unlined]
  rcases host.configure device mode baudHz bus with ⟨outcome, bus⟩
  cases outcome with
  | error failure => rfl
  | ok =>
      dsimp only [unlinedEnd_mk]
      rw [select_unlined]
      rcases host.select device bus with ⟨outcome, bus⟩
      cases outcome with
      | error failure => rfl
      | ok => rfl

/-! ## Transactions -/

theorem operate_unlined {w : Width} (operation : Operation w) :
    host.unlined.operate bus.unlined operation =
      (host.operate bus operation).map unlinedEnds := by
  cases operation with
  | receive incoming =>
      rw [operate, operate, receive_unlined, Option.map_map, Option.map_map]
      rfl
  | transmit outgoing =>
      rw [operate, operate, transmit_unlined, Option.map_map, Option.map_map]
      rfl
  | transfer incoming outgoing =>
      rw [operate, operate, transfer, transfer, exchange_unlined, Option.map_map, Option.map_map]
      rfl
  | transferInPlace words =>
      rw [operate, operate, transferInPlace, transferInPlace, exchange_unlined, Option.map_map,
        Option.map_map]
      rfl
  | delay nanoseconds =>
      rw [operate, operate, flush, flush, wait_unlined]
      cases host.wait .txEmpty bus with
      | none => rfl
      | some waited =>
          obtain ⟨outcome, bus⟩ := waited
          cases outcome with
          | ok => rfl
          | error failure => rfl

theorem operateAll_unlined {w : Width} (operations : List (Operation w)) :
    host.unlined.operateAll bus.unlined operations =
      (host.operateAll bus operations).map unlinedEnds := by
  induction operations generalizing bus with
  | nil => rfl
  | cons operation rest ih =>
      rw [operateAll, operateAll, operate_unlined]
      cases host.operate bus operation with
      | none => rfl
      | some operated =>
          obtain ⟨outcome, done, bus⟩ := operated
          cases outcome with
          | error failure => rfl
          | ok =>
              dsimp only [Option.map_some, unlinedEnds_mk]
              rw [ih]
              cases host.operateAll bus rest with
              | none => rfl
              | some carried => rfl

theorem transact_unlined {w : Width} (operations : List (Operation w)) :
    host.unlined.transact operations bus.unlined =
      (host.transact operations bus).map unlinedEnds := by
  have lowered : bus.unlined.note (.adapter .low) = (bus.note (.adapter .low)).unlined := rfl
  rw [transact, transact, lowered, operateAll_unlined]
  cases host.operateAll (bus.note (.adapter .low)) operations with
  | none => rfl
  | some carried =>
      obtain ⟨outcome, done, bus⟩ := carried
      dsimp only [Option.map_some, unlinedEnds_mk]
      rw [flush, flush, wait_unlined]
      cases host.wait .txEmpty bus with
      | none => rfl
      | some waited => rfl

/-! ## Calls -/

theorem shifting_unlined (w : Width) (answer : Option (Reply × Bus ρ σ κ)) :
    host.unlined.shifting w bus.unlined (answer.map unlinedEnd) =
      (host.shifting w bus answer).map unlinedEnd := by
  have shifts : host.unlined.controller.shifts w = host.controller.shifts w := rfl
  rw [shifting, shifting, shifts]
  cases host.controller.shifts w with
  | true => rfl
  | false => rfl

theorem withDma_unlined {unlined : Handshakes → Reply × Bus ρ σ Unit}
    {answer : Handshakes → Reply × Bus ρ σ κ}
    (same : ∀ handshakes, unlined handshakes = unlinedEnd (answer handshakes)) :
    host.unlined.withDma bus.unlined unlined = unlinedEnd (host.withDma bus answer) := by
  have handshakes : host.unlined.controller.handshakes = host.controller.handshakes := rfl
  rw [withDma, withDma, handshakes]
  cases host.controller.handshakes with
  | none => rfl
  | some handshakes => exact same handshakes

theorem arm_unlined (channel : UInt8) (settings : Dma.Settings) (register : ρ)
    (describe : UInt64 → Dma.Descriptor) :
    host.unlined.arm channel settings register describe bus.unlined =
      (host.arm channel settings register describe bus).unlined := by
  rw [arm, arm, commandAll_unlined]
  exact host.commandAll_unlined _ _

theorem transmitByDma_unlined (handshakes : Handshakes) (channel : UInt8)
    (buffer : Option Dma.Buffer) (length : Nat) :
    host.unlined.transmitByDma handshakes channel buffer length bus.unlined =
      unlinedEnd (host.transmitByDma handshakes channel buffer length bus) := by
  unfold transmitByDma
  cases Dma.refusal buffer length with
  | some failure => rfl
  | none => exact congrArg (Prod.mk (Except.ok ())) (host.arm_unlined bus ..)

theorem receiveByDma_unlined (handshakes : Handshakes) (channel : UInt8) (buffer : Dma.Buffer)
    (length : Nat) :
    host.unlined.receiveByDma handshakes channel buffer length bus.unlined =
      unlinedEnd (host.receiveByDma handshakes channel buffer length bus) := by
  unfold receiveByDma
  cases Dma.refusal (some buffer) length with
  | some failure => rfl
  | none =>
      exact congrArg (Prod.mk (Except.ok ())) (host.arm_unlined (host.clearOverrun bus) ..)

/-- **Without its lines a host answers every call as it does with them.** -/
theorem call_unlined (call : Call) :
    host.unlined.call bus.unlined call = (host.call bus call).map unlinedEnd := by
  cases call with
  | bringUp bits =>
      rw [Host.call, Host.call, bringUp_unlined]
      rfl
  | configure device mode baudHz =>
      rw [Host.call, Host.call, configure_unlined]
      rfl
  | select device =>
      rw [Host.call, Host.call, select_unlined]
      rfl
  | openSession held device mode baudHz =>
      rw [Host.call, Host.call, openSession_unlined]
      rcases host.openSession held device mode baudHz bus with ⟨opened, bus⟩
      cases opened with
      | error failure => rfl
      | ok session => rfl
  | deselect device =>
      rw [Host.call, Host.call, deselect_unlined, Option.map_map, Option.map_map]
      rfl
  | closeSession session =>
      rw [Host.call, Host.call, closeSession_eq, closeSession_eq, deselect_unlined,
        Option.map_map, Option.map_map]
      rfl
  | abandonSession session =>
      rw [Host.call, Host.call, abandonSession_unlined, Option.map_map, Option.map_map]
      rfl
  | flush =>
      rw [Host.call, Host.call, flush, flush, wait_unlined, Option.map_map, Option.map_map]
      rfl
  | drain w =>
      rw [Host.call, Host.call, ← shifting_unlined, flush, flush, wait_unlined, Option.map_map,
        Option.map_map]
      rfl
  | transceive w outgoing incoming length =>
      rw [Host.call, Host.call, ← shifting_unlined, transceive_unlined, Option.map_map,
        Option.map_map]
      rfl
  | receive w incoming =>
      rw [Host.call, Host.call, ← shifting_unlined, receive_unlined, Option.map_map,
        Option.map_map]
      rfl
  | transmit w outgoing =>
      rw [Host.call, Host.call, ← shifting_unlined, transmit_unlined, Option.map_map,
        Option.map_map]
      rfl
  | transfer w incoming outgoing =>
      rw [Host.call, Host.call, ← shifting_unlined, transfer, transfer, exchange_unlined,
        Option.map_map, Option.map_map]
      rfl
  | transferInPlace w words =>
      rw [Host.call, Host.call, ← shifting_unlined, transferInPlace, transferInPlace,
        exchange_unlined, Option.map_map, Option.map_map]
      rfl
  | transact w operations =>
      have attached : bus.unlined.attachAdapter = bus.attachAdapter.unlined := rfl
      rw [Host.call, Host.call, ← shifting_unlined, attached, transact_unlined, Option.map_map,
        Option.map_map]
      rfl
  | prepareDma =>
      refine congrArg some (host.withDma_unlined bus fun _ => ?_)
      exact congrArg (Prod.mk (Reply.outcome (.ok ()))) (host.commandAll_unlined bus _)
  | transmitByDma channel buffer length =>
      refine congrArg some (host.withDma_unlined bus fun handshakes => ?_)
      rw [transmitByDma_unlined]
      rfl
  | receiveByDma channel buffer length =>
      refine congrArg some (host.withDma_unlined bus fun handshakes => ?_)
      rw [receiveByDma_unlined]
      rfl
  | clearOverrun =>
      exact congrArg some (host.withDma_unlined bus fun _ => rfl)

/-! ## Runs -/

theorem turn_unlined (turn : Turn σ) :
    host.unlined.turn bus.unlined turn = (host.turn bus turn).map unlinedEnd := by
  cases turn with
  | change new => rfl
  | call call =>
      rw [Host.turn, Host.turn, call_unlined, Option.map_map, Option.map_map]
      rfl

/-- **Without its lines a host goes through every run as it does with them.** -/
theorem turns_unlined (turns : List (Turn σ)) :
    host.unlined.turns bus.unlined turns =
      (host.turns bus turns).map (List.map unlinedEnd) := by
  induction turns generalizing bus with
  | nil => rfl
  | cons first rest ih =>
      rw [Host.turns, Host.turns, turn_unlined]
      cases host.turn bus first with
      | none => rfl
      | some answer =>
          obtain ⟨reply, bus⟩ := answer
          dsimp only [Option.map_some, unlinedEnd_mk]
          rw [ih, Option.map_map, Option.map_map]
          rfl

end Host

end SerialBus
