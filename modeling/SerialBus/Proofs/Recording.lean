import SerialBus.Proofs.Hearing
import SerialBus.Proofs.Runs

/-!
# What is heard is in the trace

The trace of a bus tells what its host has heard.  Every poll is a read of the status
register whose value reports the condition or does not, every byte is the low part of a
value from the receive register, and every instant is a reading of the clock.  All other
events are mute, so what was heard can be read off the trace with nothing left out
(`Recorded`).

Dialogues leave such a trace (`carry_records`).  Whatever else a call for bytes does is
mute, because scripts read neither of the two registers and cannot look at the clock
(`Controller.Deaf`).  So what is heard in a whole run is what the run adds to the trace
(`hears_recorded`).
-/

set_option autoImplicit false

namespace SerialBus

variable {ρ σ κ α β : Type} {controller : Controller ρ}

/-! ## What a trace tells -/

/-- An event that tells a host nothing. -/
def Event.Mute (controller : Controller ρ) : Event ρ → Prop
  | .read register _ => register ≠ controller.status ∧ register ≠ controller.receive
  | .clock _ => False
  | _ => True

/-- What was heard is what the events of a trace tell, in order. -/
inductive Recorded (controller : Controller ρ) : Heard → List (Event ρ) → Prop where
  | nothing : Recorded controller {} []
  | poll {later : Heard} {rest : List (Event ρ)} (condition : Condition) (status : UInt32)
      (afterwards : Recorded controller later rest) :
      Recorded controller ({ polls := [controller.reports condition status] } ++ later)
        (.read controller.status status :: rest)
  | byte {later : Heard} {rest : List (Event ρ)} (value : UInt32)
      (afterwards : Recorded controller later rest) :
      Recorded controller ({ bytes := [value.toUInt8] } ++ later)
        (.read controller.receive value :: rest)
  | clock {later : Heard} {rest : List (Event ρ)} (now : UInt64)
      (afterwards : Recorded controller later rest) :
      Recorded controller ({ clocks := [now] } ++ later) (.clock now :: rest)
  | mute {later : Heard} {event : Event ρ} {rest : List (Event ρ)}
      (silent : event.Mute controller) (afterwards : Recorded controller later rest) :
      Recorded controller later (event :: rest)

namespace Recorded

variable {first second : Heard} {before later : List (Event ρ)}

theorem append (recorded : Recorded controller first before)
    (afterwards : Recorded controller second later) :
    Recorded controller (first ++ second) (before ++ later) := by
  induction recorded with
  | nothing => exact afterwards
  | poll condition status _ ih =>
      rw [Heard.append_assoc]
      exact .poll condition status ih
  | byte value _ ih =>
      rw [Heard.append_assoc]
      exact .byte value ih
  | clock now _ ih =>
      rw [Heard.append_assoc]
      exact .clock now ih
  | mute silent _ ih => exact .mute silent ih

theorem of_mute (silent : ∀ event ∈ before, event.Mute controller) :
    Recorded controller {} before := by
  induction before with
  | nil => exact .nothing
  | cons event rest ih =>
      refine .mute (silent event List.mem_cons_self) (ih ?_)
      intro later member
      exact silent later (List.mem_cons_of_mem _ member)

end Recorded

/-! ## What is done aloud -/

namespace Host

/-- What was done aloud has added to the trace of a bus what was heard. -/
def Records (host : Host ρ σ κ) (bus : Bus ρ σ κ) (left : α → Bus ρ σ κ) (done : Aloud α) :
    Prop :=
  ∀ value, done.2 = some value →
    ∃ events, (left value).trace = bus.trace ++ events ∧ Recorded host.controller done.1 events

/-- Between two buses only mute events have happened. -/
def Mutely (host : Host ρ σ κ) (bus after : Bus ρ σ κ) : Prop :=
  ∃ events, after.trace = bus.trace ++ events ∧ ∀ event ∈ events, event.Mute host.controller

variable {host : Host ρ σ κ} {bus mid after : Bus ρ σ κ} {left : α → Bus ρ σ κ}

theorem Mutely.refl : host.Mutely bus bus :=
  ⟨[], by simp, by simp⟩

theorem Mutely.trans (first : host.Mutely bus mid) (second : host.Mutely mid after) :
    host.Mutely bus after := by
  obtain ⟨before, trace, silent⟩ := first
  obtain ⟨later, laterTrace, laterSilent⟩ := second
  refine ⟨before ++ later, by rw [laterTrace, trace, List.append_assoc], ?_⟩
  intro event member
  rcases List.mem_append.1 member with here | there
  · exact silent event here
  · exact laterSilent event there

namespace Records

theorem of_mutely {value : α} (mutely : host.Mutely bus (left value)) :
    host.Records bus left ({}, some value) := by
  intro result same
  obtain rfl : value = result := Option.some.inj same
  obtain ⟨events, trace, silent⟩ := mutely
  exact ⟨events, trace, .of_mute silent⟩

/-- What was heard before comes first. -/
theorem preceded {heard : Heard} {events : List (Event ρ)} {done : Aloud α}
    (records : host.Records mid left done) (trace : mid.trace = bus.trace ++ events)
    (recorded : Recorded host.controller heard events) :
    host.Records bus left (heard ++ done.1, done.2) := by
  intro value came
  obtain ⟨later, laterTrace, afterwards⟩ := records value came
  exact ⟨events ++ later, by rw [laterTrace, trace, List.append_assoc],
    recorded.append afterwards⟩

theorem map {done : Aloud α} (records : host.Records bus left done) {change : α → β}
    {newLeft : β → Bus ρ σ κ}
    (mutely : ∀ value, host.Mutely (left value) (newLeft (change value))) :
    host.Records bus newLeft (done.map change) := by
  intro result same
  obtain ⟨value, came, rfl⟩ := Option.map_eq_some_iff.1 same
  obtain ⟨events, trace, recorded⟩ := records value came
  obtain ⟨later, laterTrace, silent⟩ := mutely value
  refine ⟨events ++ later, by rw [laterTrace, trace, List.append_assoc], ?_⟩
  have whole := recorded.append (Recorded.of_mute silent)
  rwa [Heard.append_nothing] at whole

theorem andThen {done : Aloud α} (records : host.Records bus left done) {next : α → Aloud β}
    {newLeft : β → Bus ρ σ κ} (goesOn : ∀ value, host.Records (left value) newLeft (next value)) :
    host.Records bus newLeft (done.andThen next) := by
  obtain ⟨heard, result⟩ := done
  cases result with
  | none => exact nofun
  | some value =>
      obtain ⟨events, trace, recorded⟩ := records value rfl
      exact preceded (goesOn value) trace recorded

end Records

/-- Dialogues add to the trace what is heard in them. -/
theorem carry_records (talk : Talk α) (bus : Bus ρ σ κ) :
    host.Records bus Prod.snd (host.carry talk bus) := by
  induction talk generalizing bus with
  | stop result =>
      cases result with
      | none => exact nofun
      | some value => exact .of_mutely .refl
  | poll condition next ih =>
      rw [carry_poll]
      have status := host.after_trace
        [.read host.controller.status (host.read host.controller.status bus).1] bus
      exact .preceded (ih _ _) status (.poll condition _ .nothing)
  | clock next ih =>
      rw [carry_clock]
      have now := host.after_trace [.clock (host.hardware.now bus.hardware).1] bus
      exact .preceded (ih _ _) now (.clock _ .nothing)
  | send byte last next ih =>
      rw [carry]
      have sent := host.after_trace [.write host.controller.transmit
        (host.controller.encode (Width.eight.toUnit byte) last)] bus
      exact .preceded (ih _) sent (.mute trivial .nothing)
  | take next ih =>
      rw [carry_take]
      have taken := host.after_trace
        [.read host.controller.receive (host.read host.controller.receive bus).1] bus
      exact .preceded (ih _ _) taken (.byte _ .nothing)
  | fault next ih => exact ih _

end Host

/-! ## Scripts -/

/-- An access of a script that cannot tell a host anything. -/
def Access.Deaf (controller : Controller ρ) : Access ρ → Prop
  | .modify register _ => register ≠ controller.status ∧ register ≠ controller.receive
  | _ => True

/-- A controller whose scripts cannot tell a host anything. -/
structure Controller.Deaf (controller : Controller ρ) : Prop where
  bringUp : ∀ clockHz, ∀ access ∈ controller.bringUp clockHz, access.Deaf controller
  configure : ∀ device mode divisor, ∀ access ∈ controller.configure device mode divisor,
    access.Deaf controller
  select : ∀ device, ∀ access ∈ controller.select device, access.Deaf controller
  finish : ∀ access ∈ controller.finish, access.Deaf controller

/-- The scripts of both backends read neither the status nor the receive register. -/
theorem Backend.deaf (backend : Backend) : backend.controller.Deaf where
  bringUp := by
    cases backend with
    | standard => simp [controller, Standard.controller, Standard.bringUp, Access.Deaf]
    | usart => simp [controller, Usart.controller, Usart.bringUp, Access.Deaf]
  configure := by
    cases backend with
    | standard => simp [controller, Standard.controller, Standard.configure, Access.Deaf]
    | usart => simp [controller, Usart.controller, Usart.configure, Access.Deaf]
  select := by
    cases backend with
    | standard => simp [controller, Standard.controller, Standard.select, Access.Deaf]
    | usart => simp [controller, Usart.controller]
  finish := by
    cases backend with
    | standard => simp [controller, Standard.controller, Standard.finish, Access.Deaf]
    | usart => simp [controller, Usart.controller]

namespace Host

variable {host : Host ρ σ κ} (bus : Bus ρ σ κ)

theorem run_mutely {script : List (Access ρ)}
    (deaf : ∀ access ∈ script, access.Deaf host.controller) :
    host.Mutely bus (host.run script bus) := by
  rw [run_eq]
  refine ⟨_, host.after_trace _ bus, ?_⟩
  intro event member
  obtain ⟨access, inScript, later, member⟩ := Hardware.mem_eventsOfScript member
  have spared := deaf access inScript
  cases access with
  | enable =>
      rw [List.mem_singleton.1 member]
      exact trivial
  | write register value =>
      rw [List.mem_singleton.1 member]
      exact trivial
  | modify register change =>
      rcases List.mem_cons.1 member with rfl | member
      · exact spared
      · rw [List.mem_singleton.1 member]
        exact trivial

theorem drive_mutely (number : UInt8) (level : Level) :
    host.Mutely bus (host.drive number level bus) := by
  refine ⟨_, host.trace_drive bus number level, ?_⟩
  intro event shown
  obtain ⟨line, _, rfl⟩ := Option.map_eq_some_iff.1 (Option.mem_toList.1 shown)
  exact trivial

theorem exchangeAloud_records (feed : Feed .eight β) (length : Nat) (buffers : β) :
    host.Records bus (fun (_, _, bus) => bus) (host.exchangeAloud feed length buffers bus) := by
  rw [exchangeAloud]
  cases host.refusal bus.exchangeBreach with
  | some failure => exact .of_mutely .refl
  | none => exact (carry_records _ bus).map fun _ => .refl

theorem transceiveAloud_records (outgoing incoming : Option (List UInt8)) (length : Nat) :
    host.Records bus (fun (_, _, bus) => bus)
      (host.transceiveAloud outgoing incoming length bus) := by
  rw [transceiveAloud]
  cases shortage outgoing length with
  | some failure => exact .of_mutely .refl
  | none =>
      cases shortage incoming length with
      | some failure => exact .of_mutely .refl
      | none => exact exchangeAloud_records bus _ length incoming

section Calls

variable (deaf : host.controller.Deaf)
include deaf

theorem bringUp_mutely (bits : UInt32) : host.Mutely bus (host.bringUp bits bus).2 := by
  rw [bringUp]
  cases bus.up with
  | true => exact .refl
  | false => exact run_mutely bus (deaf.bringUp host.clockHz)

theorem configure_mutely (device : Device) (mode : Mode) (baudHz : UInt32) :
    host.Mutely bus (host.configure device mode baudHz bus).2 := by
  rw [configure]
  cases host.refusal bus.configureBreach with
  | some failure => exact .refl
  | none =>
      cases host.controller.divisor host.clockHz baudHz with
      | none => exact .refl
      | some divisor => exact run_mutely bus (deaf.configure device mode divisor)

theorem select_mutely (device : Device) : host.Mutely bus (host.select device bus).2 := by
  rw [select]
  cases host.refusal (bus.selectBreach device) with
  | some failure => exact .refl
  | none => exact (run_mutely bus (deaf.select device)).trans (drive_mutely _ device.line .low)

theorem letGo_mutely (device : Device) : host.Mutely bus (host.letGo device bus) :=
  (run_mutely bus deaf.finish).trans (drive_mutely _ device.line .high)

theorem openSession_mutely (held : Guard) (device : Device) (mode : Mode) (baudHz : UInt32) :
    host.Mutely bus (host.openSession held device mode baudHz bus).2 := by
  have configured := configure_mutely bus deaf device mode baudHz
  rw [openSession]
  generalize host.configure device mode baudHz bus = answer at configured ⊢
  obtain ⟨outcome, mid⟩ := answer
  cases outcome with
  | error failure => exact configured
  | ok =>
      have selected := select_mutely mid deaf device
      dsimp only
      generalize host.select device mid = answer at selected ⊢
      obtain ⟨outcome, after⟩ := answer
      cases outcome with
      | error failure => exact configured.trans selected
      | ok => exact configured.trans selected

theorem deselectAloud_records (device : Device) :
    host.Records bus Prod.snd (host.deselectAloud device bus) := by
  rw [deselectAloud]
  cases host.refusal bus.deselectBreach with
  | some failure => exact .of_mutely .refl
  | none => exact (carry_records _ bus).map fun drained => letGo_mutely drained.2 deaf device

/-- A call for bytes adds to the trace what is heard during it. -/
theorem aloud_records {call : Call} {legal : UInt32 → Prop} (forBytes : call.ForBytes legal) :
    host.Records bus Prod.snd (host.aloud bus call) := by
  have flushed : host.Records bus Prod.snd (host.aloud bus .flush) :=
    (carry_records _ bus).map fun _ => .refl
  cases call with
  | bringUp bits => exact .of_mutely (bringUp_mutely bus deaf bits)
  | configure device mode baudHz =>
      exact .of_mutely (configure_mutely bus deaf device mode baudHz)
  | select device => exact .of_mutely (select_mutely bus deaf device)
  | openSession held device mode baudHz =>
      have opened := openSession_mutely bus deaf held device mode baudHz
      change host.Records bus Prod.snd ({}, host.call bus (.openSession held device mode baudHz))
      rw [call]
      generalize host.openSession held device mode baudHz bus = answer at opened ⊢
      obtain ⟨opening, after⟩ := answer
      cases opening with
      | error failure => exact .of_mutely opened
      | ok session => exact .of_mutely opened
  | flush => exact flushed
  | drain w =>
      obtain rfl : w = .eight := forBytes
      exact flushed
  | deselect device => exact (deselectAloud_records bus deaf device).map fun _ => .refl
  | closeSession session =>
      exact (deselectAloud_records bus deaf session.device).map fun _ => .refl
  | abandonSession session =>
      rw [aloud]
      cases session.isOpen with
      | true => exact (deselectAloud_records bus deaf session.device).map fun _ => .refl
      | false => exact .of_mutely .refl
  | transceive w outgoing incoming length =>
      obtain rfl : w = .eight := forBytes
      exact (transceiveAloud_records bus outgoing incoming length).map fun _ => .refl
  | receive w incoming =>
      obtain rfl : w = .eight := forBytes
      exact (transceiveAloud_records bus none (some incoming) incoming.length).map fun _ => .refl
  | transmit w outgoing =>
      obtain rfl : w = .eight := forBytes
      exact (transceiveAloud_records bus (some outgoing) none outgoing.length).map fun _ => .refl
  | transfer w incoming outgoing =>
      obtain rfl : w = .eight := forBytes
      exact (exchangeAloud_records bus _ _ incoming).map fun _ => .refl
  | transferInPlace w words =>
      obtain rfl : w = .eight := forBytes
      exact (exchangeAloud_records bus _ _ words).map fun _ => .refl
  | _ => exact forBytes.elim

/-- Turns with calls for bytes add to the trace what is heard during them. -/
theorem turnsAloud_records {turns : List (Turn σ)} {legal : UInt32 → Prop}
    (forBytes : ∀ call, some call ∈ turns.map Turn.call? → call.ForBytes legal) :
    host.Records bus bus.afterRun (host.turnsAloud bus turns) := by
  induction turns generalizing bus with
  | nil => exact .of_mutely .refl
  | cons first rest ih =>
      have taken : host.Records bus Prod.snd (host.turnAloud bus first) := by
        cases first with
        | change new => exact .of_mutely .refl
        | call call =>
            exact (aloud_records bus deaf (forBytes call List.mem_cons_self)).map fun _ => .refl
      apply taken.andThen
      rintro ⟨reply, mid⟩
      have later := ih mid fun call member => forBytes call (List.mem_cons_of_mem _ member)
      refine later.map fun log => ?_
      rw [Bus.afterRun_cons]
      exact .refl

end Calls

end Host

/-- **What is heard is in the trace.**  A run of calls for bytes that comes back has added
to the trace exactly what was heard: its status reads are the polls, the low eight bits of
what was read from the receive register are the bytes, and its readings of the clock are
the instants, all in order. -/
theorem hears_recorded {backend : Backend} {host : Host backend.Register σ κ}
    (drives : host.controller = backend.controller) {start : Bus backend.Register σ κ}
    {turns : List (Turn σ)} {log : List (Option Reply × Bus backend.Register σ κ)}
    {legal : UInt32 → Prop}
    (forBytes : ∀ call, some call ∈ turns.map Turn.call? → call.ForBytes legal)
    (ran : host.turns start turns = some log) :
    ∃ events, (start.afterRun log).trace = start.trace ++ events ∧
      Recorded host.controller (host.hears start turns) events := by
  have deaf : host.controller.Deaf := drives ▸ backend.deaf
  have bytes : host.controller.MovesBytes := drives ▸ backend.movesBytes
  apply Host.turnsAloud_records start deaf forBytes
  rw [host.turnsAloud_snd bytes, ran]

end SerialBus
