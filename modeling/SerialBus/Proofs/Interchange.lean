import SerialBus.Proofs.Hearing
import SerialBus.Proofs.Pairing

/-!
# The two backends are interchangeable for bytes

Two hosts with different controllers carry the same dialogues out.  If the controllers
and clocks tell them the same, as far as both get to ask, then they ask the same to the
end, come to the same result, and leave the same to be seen: the stage and the device
configured, the levels of the lines, and every drive of a line and every byte sent, in
one order (`carry_echo`).

What the controllers do on the side when a device is configured, selected or released is
not to be seen, because scripts neither drive lines nor send bytes (`seen_run`).  So
every call for bytes is answered alike (`aloud_echo`), and by induction every run of such
calls is, up to the call that never comes back, if there is one (`turnsAloud_echo`).  The
two backends are such controllers, with their different registers, status bits and
layouts of a unit (`backends_interchangeable`).
-/

set_option autoImplicit false

namespace SerialBus

variable {ρ σ κ : Type}

/-! ## What is to be seen of a bus -/

/-- What the outside notices of an event. -/
inductive Shown where
  /-- A line was driven. -/
  | line (event : LineEvent)
  /-- A byte was sent, in the low eight bits of the transmit register. -/
  | byte (low : UInt8)
  deriving DecidableEq, Repr

/-- What is to be seen of a bus, whatever its controller and its hardware. -/
@[ext] structure Seen (κ : Type) where
  up : Bool
  stage : Stage
  configured : Option Device
  lines : κ
  /-- All lines driven and all bytes sent, in order. -/
  shown : List Shown

/-- What is to be seen once a line was driven. -/
def Seen.drive (lines : SelectLines κ) (number : UInt8) (level : Level) (seen : Seen κ) : Seen κ :=
  { seen with
    lines := (lines.drive number level seen.lines).1
    shown := seen.shown ++ ((lines.drive number level seen.lines).2.map Shown.line).toList }

variable [DecidableEq ρ]

/-- What the outside notices of an event, if anything. -/
def Event.shown? (controller : Controller ρ) : Event ρ → Option Shown
  | .line event => some (.line event)
  | .write register value =>
      if register = controller.transmit then some (.byte value.toUInt8) else none
  | _ => none

/-- What is to be seen of a bus. -/
def Bus.seen (controller : Controller ρ) (bus : Bus ρ σ κ) : Seen κ where
  up := bus.up
  stage := bus.stage
  configured := bus.configured
  lines := bus.lines
  shown := bus.trace.filterMap (Event.shown? controller)

section Laws

variable {controller : Controller ρ} (host : Host ρ σ κ) (bus : Bus ρ σ κ)

theorem seen_after (events : List (Event ρ)) :
    (host.after events bus).seen controller =
      { bus.seen controller with
        shown := (bus.seen controller).shown ++ events.filterMap (Event.shown? controller) } := by
  simp only [Bus.seen, Host.after_trace, List.filterMap_append]
  rfl

/-- Events of which nobody notices anything change nothing that is to be seen. -/
theorem seen_after_of_silent {events : List (Event ρ)}
    (silent : ∀ event ∈ events, event.shown? controller = none) :
    (host.after events bus).seen controller = bus.seen controller := by
  rw [seen_after, List.filterMap_eq_nil_iff.2 silent, List.append_nil]

theorem seen_read (register : ρ) :
    (host.read register bus).2.seen controller = bus.seen controller := by
  rw [host.read_eq]
  apply seen_after_of_silent
  intro event member
  rw [List.mem_singleton.1 member]
  rfl

theorem seen_consult {α : Type} (clocked : Clocked α) :
    (host.consult clocked bus).2.seen controller = bus.seen controller := by
  obtain ⟨value, clocks, areClocks, consulted⟩ := host.consult_eq clocked bus
  rw [consulted]
  apply seen_after_of_silent
  intro event member
  cases event with
  | clock now => rfl
  | _ => exact (areClocks _ member).elim

theorem seen_send (bytes : host.controller.MovesBytes) (byte : UInt8) (last : Bool) :
    (host.send (Width.eight.toUnit byte) last bus).seen host.controller =
      { bus.seen host.controller with
        shown := (bus.seen host.controller).shown ++ [.byte byte] } := by
  rw [host.send_eq, seen_after]
  simp [Event.shown?, bytes.encode]

/-- Scripts that leave the data registers alone are not to be seen. -/
theorem seen_run {script : List (Access ρ)}
    (spares : ∀ access ∈ script, access.Spares controller) :
    (host.run script bus).seen controller = bus.seen controller := by
  rw [host.run_eq]
  apply seen_after_of_silent
  intro event member
  obtain ⟨access, inScript, later, member⟩ := Hardware.mem_eventsOfScript member
  have spared := spares access inScript
  cases access with
  | enable =>
      rw [List.mem_singleton.1 member]
      rfl
  | write register value =>
      rw [List.mem_singleton.1 member]
      exact if_neg spared
  | modify register change =>
      rcases List.mem_cons.1 member with rfl | member
      · rfl
      · rw [List.mem_singleton.1 member]
        exact if_neg spared.1

theorem seen_drive (number : UInt8) (level : Level) :
    (host.drive number level bus).seen controller =
      (bus.seen controller).drive host.lines number level := by
  ext1
  case shown =>
    rw [Bus.seen, host.trace_drive, List.filterMap_append]
    simp only [Seen.drive, Bus.seen]
    cases (host.lines.drive number level bus.lines).2 with
    | none => rfl
    | some event => rfl
  all_goals rfl

section Calls

variable (spares : host.controller.SparesData)
include spares

theorem seen_bringUp (bits : UInt32) :
    (host.bringUp bits bus).2.seen host.controller =
      if bus.up then bus.seen host.controller
      else { bus.seen host.controller with up := true, stage := .idle } := by
  rw [Host.bringUp]
  cases up : bus.up with
  | true => rfl
  | false =>
      exact congrArg (fun seen : Seen κ => { seen with up := true, stage := .idle })
        (seen_run host bus (spares.bringUp host.clockHz))

theorem seen_letGo (device : Device) :
    (host.letGo device bus).seen host.controller =
      { (bus.seen host.controller).drive host.lines device.line .high with
        stage := .deselected } := by
  have driven : (host.drive device.line .high (host.run host.controller.finish bus)).seen
      host.controller = (bus.seen host.controller).drive host.lines device.line .high := by
    rw [seen_drive, seen_run host bus spares.finish]
  exact congrArg (fun seen : Seen κ => { seen with stage := .deselected }) driven

end Calls

end Laws

/-! ## Echoes -/

namespace Heard

variable {first second : Heard}

/-! The first answer of a kind can be taken off what was heard. -/

theorem poll_cancel {seen other : Bool}
    (same : { polls := [seen] } ++ first = { polls := [other] } ++ second) :
    seen = other ∧ first = second := by
  have polls := List.cons.inj (congrArg Heard.polls same)
  have bytes : first.bytes = second.bytes := by simpa using congrArg Heard.bytes same
  have clocks : first.clocks = second.clocks := by simpa using congrArg Heard.clocks same
  exact ⟨polls.1, Heard.ext polls.2 bytes clocks⟩

theorem byte_cancel {byte other : UInt8}
    (same : { bytes := [byte] } ++ first = { bytes := [other] } ++ second) :
    byte = other ∧ first = second := by
  have polls : first.polls = second.polls := by simpa using congrArg Heard.polls same
  have bytes := List.cons.inj (congrArg Heard.bytes same)
  have clocks : first.clocks = second.clocks := by simpa using congrArg Heard.clocks same
  exact ⟨bytes.1, Heard.ext polls bytes.2 clocks⟩

theorem clock_cancel {now other : UInt64}
    (same : { clocks := [now] } ++ first = { clocks := [other] } ++ second) :
    now = other ∧ first = second := by
  have polls : first.polls = second.polls := by simpa using congrArg Heard.polls same
  have bytes : first.bytes = second.bytes := by simpa using congrArg Heard.bytes same
  have clocks := List.cons.inj (congrArg Heard.clocks same)
  exact ⟨clocks.1, Heard.ext polls bytes clocks.2⟩

theorem append_cancel {whole : Heard} (same : whole ++ first = whole ++ second) :
    first = second := by
  ext1
  · exact List.append_cancel_left (congrArg Heard.polls same)
  · exact List.append_cancel_left (congrArg Heard.bytes same)
  · exact List.append_cancel_left (congrArg Heard.clocks same)

end Heard

section Echo

variable {α β γ δ ε ζ : Type} {view : α → γ} {otherView : β → γ}

/-- Two things done aloud of which the second is an echo of the first: if they hear the
same as far as both get, they hear the same, and their results look the same. -/
def Echo (view : α → γ) (otherView : β → γ) (first : Aloud α) (second : Aloud β) : Prop :=
  ∀ rest otherRest, first.1 ++ rest = second.1 ++ otherRest →
    first.1 = second.1 ∧ first.2.map view = second.2.map otherView

/-- What hears nothing is echoed as soon as the results look the same. -/
theorem Echo.silent {value : α} {other : β} (same : view value = otherView other) :
    Echo view otherView ({}, some value) ({}, some other) :=
  fun _ _ _ => ⟨rfl, congrArg some same⟩

/-- Two things that begin with an answer of one kind are echoes if they go on as echoes
whenever the answers are the same. -/
theorem Echo.answered {kind : δ → Heard} {answer other : δ} {later : Aloud α}
    {otherLater : Aloud β}
    (cancel : ∀ {answer other first second},
      kind answer ++ first = kind other ++ second → answer = other ∧ first = second)
    (goesOn : answer = other → Echo view otherView later otherLater) :
    Echo view otherView (kind answer ++ later.1, later.2)
      (kind other ++ otherLater.1, otherLater.2) := by
  intro rest otherRest same
  rw [Heard.append_assoc, Heard.append_assoc] at same
  obtain ⟨rfl, afterwards⟩ := cancel same
  obtain ⟨heard, results⟩ := goesOn rfl rest otherRest afterwards
  exact ⟨congrArg (kind answer ++ ·) heard, results⟩

variable {first : Aloud α} {second : Aloud β} {newView : δ → ζ} {otherNewView : ε → ζ}

/-- A change that makes results look the same that looked the same before keeps an echo. -/
theorem Echo.map (echo : Echo view otherView first second) {change : α → δ} {otherChange : β → ε}
    (alike : ∀ value other, view value = otherView other →
      newView (change value) = otherNewView (otherChange other)) :
    Echo newView otherNewView (first.map change) (second.map otherChange) := by
  intro rest otherRest same
  obtain ⟨heard, results⟩ := echo rest otherRest same
  refine ⟨heard, ?_⟩
  obtain ⟨_, result⟩ := first
  obtain ⟨_, other⟩ := second
  cases result with
  | none =>
      cases other with
      | none => rfl
      | some other => cases results
  | some value =>
      cases other with
      | none => cases results
      | some other => exact congrArg some (alike value other (Option.some.inj results))

/-- Echoes that go on as echoes are echoes. -/
theorem Echo.andThen (echo : Echo view otherView first second) {next : α → Aloud δ}
    {otherNext : β → Aloud ε}
    (goesOn : ∀ value other, view value = otherView other →
      Echo newView otherNewView (next value) (otherNext other)) :
    Echo newView otherNewView (first.andThen next) (second.andThen otherNext) := by
  obtain ⟨before, result⟩ := first
  obtain ⟨otherBefore, other⟩ := second
  intro rest otherRest same
  cases result with
  | none =>
      cases other with
      | none =>
          obtain ⟨heard, _⟩ := echo rest otherRest same
          exact ⟨heard, rfl⟩
      | some other =>
          rw [Aloud.andThen, Aloud.andThen, Heard.append_assoc] at same
          cases (echo _ _ same).2
  | some value =>
      cases other with
      | none =>
          rw [Aloud.andThen, Aloud.andThen, Heard.append_assoc] at same
          cases (echo _ _ same).2
      | some other =>
          rw [Aloud.andThen, Aloud.andThen, Heard.append_assoc, Heard.append_assoc] at same
          obtain ⟨heard, results⟩ := echo _ _ same
          obtain rfl : before = otherBefore := heard
          have afterwards := Heard.append_cancel same
          obtain ⟨heard, laterResults⟩ :=
            goesOn value other (Option.some.inj results) rest otherRest afterwards
          exact ⟨congrArg (before ++ ·) heard, laterResults⟩

end Echo

/-! ## Dialogues -/

variable {τ ρ' : Type}

/-- Two hosts that differ in their controllers and their hardware, and whose controllers
both move bytes. -/
structure Host.Twins (host : Host ρ σ κ) (other : Host ρ' τ κ) : Prop where
  bytes : host.controller.MovesBytes
  otherBytes : other.controller.MovesBytes
  spares : host.controller.SparesData
  otherSpares : other.controller.SparesData
  lines : other.lines = host.lines
  waits : other.waits = host.waits
  discipline : other.discipline = host.discipline

variable [DecidableEq ρ']

namespace Host.Twins

variable {host : Host ρ σ κ} {other : Host ρ' τ κ} (twins : host.Twins other)
  {bus : Bus ρ σ κ} {twin : Bus ρ' τ κ}
  (alike : bus.seen host.controller = twin.seen other.controller)
include alike

theorem read_alike (register : ρ) (otherRegister : ρ') :
    (host.read register bus).2.seen host.controller =
      (other.read otherRegister twin).2.seen other.controller :=
  (seen_read host bus register).trans (alike.trans (seen_read other twin otherRegister).symm)

include twins

/-- Dialogues carried out by twins are echoes. -/
theorem carry_echo {α : Type} (talk : Talk α) :
    Echo (Prod.map id (Bus.seen host.controller)) (Prod.map id (Bus.seen other.controller))
      (host.carry talk bus) (other.carry talk twin) := by
  induction talk generalizing bus twin with
  | stop result =>
      cases result with
      | none => exact fun _ _ _ => ⟨rfl, rfl⟩
      | some value => exact Echo.silent (Prod.ext rfl alike)
  | poll condition next ih =>
      have kept := read_alike alike host.controller.status other.controller.status
      rw [Host.carry_poll, Host.carry_poll]
      apply Echo.answered Heard.poll_cancel
      intro answer
      rw [← answer]
      exact ih _ kept
  | clock next ih =>
      have kept : (host.consult (.ask .answer) bus).2.seen host.controller =
          (other.consult (.ask .answer) twin).2.seen other.controller :=
        (seen_consult host bus (.ask .answer)).trans
          (alike.trans (seen_consult other twin (.ask .answer)).symm)
      rw [Host.carry_clock, Host.carry_clock]
      apply Echo.answered Heard.clock_cancel
      intro answer
      rw [← answer]
      exact ih _ kept
  | send byte last next ih =>
      have kept := seen_send host bus twins.bytes byte last
      have otherKept := seen_send other twin twins.otherBytes byte last
      rw [alike] at kept
      exact ih (kept.trans otherKept.symm)
  | take next ih =>
      have kept := read_alike alike host.controller.receive other.controller.receive
      rw [Host.carry_take, Host.carry_take]
      apply Echo.answered Heard.byte_cancel
      intro answer
      rw [← answer]
      exact ih _ kept
  | fault next ih =>
      exact ih (congrArg (fun seen =>
        { seen with stage := if seen.stage = Stage.selected then .faulted else seen.stage }) alike)

end Host.Twins

/-! ## Calls -/

/-- A baud rate for which a host finds a divisor. -/
def Host.LegalBaud (host : Host ρ σ κ) (baudHz : UInt32) : Prop :=
  (host.controller.divisor host.clockHz baudHz).isSome

namespace Host.Twins

variable {host : Host ρ σ κ} {other : Host ρ' τ κ} (twins : host.Twins other)
  {bus : Bus ρ σ κ} {twin : Bus ρ' τ κ}
  (alike : bus.seen host.controller = twin.seen other.controller)
include twins alike

/-! Whether a call is refused is to be seen beforehand. -/

theorem refusal_configure :
    host.refusal bus.configureBreach = other.refusal twin.configureBreach := by
  have up : bus.up = twin.up := congrArg Seen.up alike
  have stage : bus.stage = twin.stage := congrArg Seen.stage alike
  rw [Host.refusal, Host.refusal, twins.discipline, Bus.configureBreach, Bus.configureBreach, up,
    stage]

theorem refusal_select (device : Device) :
    host.refusal (bus.selectBreach device) = other.refusal (twin.selectBreach device) := by
  have stage : bus.stage = twin.stage := congrArg Seen.stage alike
  have configured : bus.configured = twin.configured := congrArg Seen.configured alike
  rw [Host.refusal, Host.refusal, twins.discipline, Bus.selectBreach, Bus.selectBreach, stage,
    configured]

theorem refusal_deselect :
    host.refusal bus.deselectBreach = other.refusal twin.deselectBreach := by
  have stage : bus.stage = twin.stage := congrArg Seen.stage alike
  rw [Host.refusal, Host.refusal, twins.discipline, Bus.deselectBreach, Bus.deselectBreach, stage]

theorem refusal_exchange :
    host.refusal bus.exchangeBreach = other.refusal twin.exchangeBreach := by
  have stage : bus.stage = twin.stage := congrArg Seen.stage alike
  rw [Host.refusal, Host.refusal, twins.discipline, Bus.exchangeBreach, Bus.exchangeBreach, stage]

/-! Calls that hear nothing come to results that look the same. -/

theorem bringUp_alike {bits : UInt32} (narrow : bits ≠ 16) :
    Prod.map id (Bus.seen host.controller) (host.bringUp bits bus) =
      Prod.map id (Bus.seen other.controller) (other.bringUp bits twin) := by
  have up : bus.up = twin.up := congrArg Seen.up alike
  have eight : Width.ofBits bits = .eight := if_neg narrow
  apply Prod.ext
  · simp only [Prod.map_fst, Host.bringUp, eight, Width.narrower]
    rw [up]
    cases twin.up with
    | true => rfl
    | false => rfl
  · simp only [Prod.map_snd]
    rw [seen_bringUp host bus twins.spares, seen_bringUp other twin twins.otherSpares, up, alike]

theorem configure_alike (device : Device) (mode : Mode) {baudHz : UInt32}
    (legal : host.LegalBaud baudHz) (otherLegal : other.LegalBaud baudHz) :
    Prod.map id (Bus.seen host.controller) (host.configure device mode baudHz bus) =
      Prod.map id (Bus.seen other.controller) (other.configure device mode baudHz twin) := by
  obtain ⟨divisor, found⟩ := Option.isSome_iff_exists.1 legal
  obtain ⟨otherDivisor, otherFound⟩ := Option.isSome_iff_exists.1 otherLegal
  rw [Host.configure, Host.configure, twins.refusal_configure alike, found, otherFound]
  cases other.refusal twin.configureBreach with
  | some failure => exact Prod.ext rfl alike
  | none =>
      have kept := seen_run host bus (twins.spares.configure device mode divisor)
      have otherKept := seen_run other twin (twins.otherSpares.configure device mode otherDivisor)
      exact Prod.ext rfl (congrArg
        (fun seen : Seen κ => { seen with configured := some device, stage := .configured })
        (kept.trans (alike.trans otherKept.symm)))

theorem select_alike (device : Device) :
    Prod.map id (Bus.seen host.controller) (host.select device bus) =
      Prod.map id (Bus.seen other.controller) (other.select device twin) := by
  rw [Host.select, Host.select, twins.refusal_select alike]
  cases other.refusal (twin.selectBreach device) with
  | some failure => exact Prod.ext rfl alike
  | none =>
      have driven : (host.drive device.line .low (host.run (host.controller.select device) bus)).seen
          host.controller =
          (other.drive device.line .low (other.run (other.controller.select device) twin)).seen
          other.controller := by
        rw [seen_drive, seen_drive, seen_run host bus (twins.spares.select device),
          seen_run other twin (twins.otherSpares.select device), alike, twins.lines]
      exact Prod.ext rfl (congrArg (fun seen : Seen κ => { seen with stage := .selected }) driven)

theorem letGo_alike (device : Device) :
    (host.letGo device bus).seen host.controller =
      (other.letGo device twin).seen other.controller := by
  rw [seen_letGo host bus twins.spares, seen_letGo other twin twins.otherSpares, alike, twins.lines]

theorem openSession_alike (held : Guard) (device : Device) (mode : Mode) {baudHz : UInt32}
    (legal : host.LegalBaud baudHz) (otherLegal : other.LegalBaud baudHz) :
    Prod.map id (Bus.seen host.controller) (host.openSession held device mode baudHz bus) =
      Prod.map id (Bus.seen other.controller)
        (other.openSession held device mode baudHz twin) := by
  have configured := twins.configure_alike alike device mode legal otherLegal
  rw [Host.openSession, Host.openSession]
  generalize host.configure device mode baudHz bus = answer,
    other.configure device mode baudHz twin = otherAnswer at configured ⊢
  obtain ⟨outcome, bus⟩ := answer
  obtain ⟨otherOutcome, twin⟩ := otherAnswer
  obtain ⟨same, alike⟩ := Prod.mk.inj configured
  obtain rfl : outcome = otherOutcome := same
  cases outcome with
  | error failure => exact Prod.ext rfl alike
  | ok =>
      have selected := twins.select_alike alike device
      dsimp only
      generalize host.select device bus = answer, other.select device twin = otherAnswer
        at selected ⊢
      obtain ⟨outcome, bus⟩ := answer
      obtain ⟨otherOutcome, twin⟩ := otherAnswer
      obtain ⟨same, alike⟩ := Prod.mk.inj selected
      obtain rfl : outcome = otherOutcome := same
      cases outcome with
      | error failure => exact Prod.ext rfl alike
      | ok => exact Prod.ext rfl alike

/-! Calls that wait are echoes. -/

theorem exchangeAloud_echo {β : Type} (feed : Feed .eight β) (length : Nat) (buffers : β) :
    Echo (Prod.map id (Prod.map id (Bus.seen host.controller)))
      (Prod.map id (Prod.map id (Bus.seen other.controller)))
      (host.exchangeAloud feed length buffers bus)
      (other.exchangeAloud feed length buffers twin) := by
  rw [Host.exchangeAloud, Host.exchangeAloud, twins.refusal_exchange alike, twins.waits]
  cases other.refusal twin.exchangeBreach with
  | some failure => exact Echo.silent (Prod.ext rfl (Prod.ext rfl alike))
  | none =>
      exact (twins.carry_echo alike _).map fun _ _ same =>
        congrArg (fun answer => (answer.1.1, answer.1.2, answer.2)) same

theorem transceiveAloud_echo (outgoing incoming : Option (List UInt8)) (length : Nat) :
    Echo (Prod.map id (Prod.map id (Bus.seen host.controller)))
      (Prod.map id (Prod.map id (Bus.seen other.controller)))
      (host.transceiveAloud outgoing incoming length bus)
      (other.transceiveAloud outgoing incoming length twin) := by
  rw [Host.transceiveAloud, Host.transceiveAloud]
  cases shortage outgoing length with
  | some failure => exact Echo.silent (Prod.ext rfl (Prod.ext rfl alike))
  | none =>
      cases shortage incoming length with
      | some failure => exact Echo.silent (Prod.ext rfl (Prod.ext rfl alike))
      | none => exact twins.exchangeAloud_echo alike (.separate .eight outgoing) length incoming

theorem deselectAloud_echo (device : Device) :
    Echo (Prod.map id (Bus.seen host.controller)) (Prod.map id (Bus.seen other.controller))
      (host.deselectAloud device bus) (other.deselectAloud device twin) := by
  rw [Host.deselectAloud, Host.deselectAloud, twins.refusal_deselect alike, twins.waits]
  cases other.refusal twin.deselectBreach with
  | some failure => exact Echo.silent (Prod.ext rfl alike)
  | none =>
      refine (twins.carry_echo alike _).map ?_
      rintro ⟨drained, bus⟩ ⟨otherDrained, twin⟩ same
      obtain ⟨same, alike⟩ := Prod.mk.inj same
      exact Prod.ext same (twins.letGo_alike alike device)

/-- Calls for bytes on twins are echoes. -/
theorem aloud_echo {call : Call}
    (forBytes : call.ForBytes fun baudHz => host.LegalBaud baudHz ∧ other.LegalBaud baudHz) :
    Echo (Prod.map id (Bus.seen host.controller)) (Prod.map id (Bus.seen other.controller))
      (host.aloud bus call) (other.aloud twin call) := by
  -- the dialogue of a flush, whichever caller asks for it
  have flushed :
      Echo (Prod.map id (Bus.seen host.controller)) (Prod.map id (Bus.seen other.controller))
        (host.aloud bus .flush) (other.aloud twin .flush) := by
    rw [Host.aloud, Host.aloud, twins.waits]
    exact (twins.carry_echo alike _).map fun _ _ same =>
      congrArg (Prod.map Reply.outcome id) same
  cases call with
  | bringUp bits =>
      exact Echo.silent (congrArg (Prod.map Reply.width id) (twins.bringUp_alike alike forBytes))
  | configure device mode baudHz =>
      exact Echo.silent (congrArg (Prod.map Reply.outcome id)
        (twins.configure_alike alike device mode forBytes.1 forBytes.2))
  | select device =>
      exact Echo.silent (congrArg (Prod.map Reply.outcome id) (twins.select_alike alike device))
  | openSession held device mode baudHz =>
      have opened := twins.openSession_alike alike held device mode forBytes.1 forBytes.2
      change Echo _ _ ({}, host.call bus (.openSession held device mode baudHz))
        ({}, other.call twin (.openSession held device mode baudHz))
      rw [Host.call, Host.call]
      generalize host.openSession held device mode baudHz bus = answer,
        other.openSession held device mode baudHz twin = otherAnswer at opened ⊢
      obtain ⟨opening, bus⟩ := answer
      obtain ⟨otherOpening, twin⟩ := otherAnswer
      obtain ⟨same, alike⟩ := Prod.mk.inj opened
      obtain rfl : opening = otherOpening := same
      cases opening with
      | error failure => exact Echo.silent (Prod.ext rfl alike)
      | ok session => exact Echo.silent (Prod.ext rfl alike)
  | flush => exact flushed
  | drain w =>
      obtain rfl : w = .eight := forBytes
      exact flushed
  | deselect device =>
      exact (twins.deselectAloud_echo alike device).map fun _ _ same =>
        congrArg (Prod.map Reply.outcome id) same
  | closeSession session =>
      exact (twins.deselectAloud_echo alike session.device).map fun _ _ same =>
        congrArg (Prod.map Reply.outcome id) same
  | abandonSession session =>
      rw [Host.aloud, Host.aloud]
      cases session.isOpen with
      | true =>
          exact (twins.deselectAloud_echo alike session.device).map fun _ _ same =>
            congrArg (fun answer => (Reply.outcome (.ok ()), answer.2)) same
      | false => exact Echo.silent (Prod.ext rfl alike)
  | transceive w outgoing incoming length =>
      obtain rfl : w = .eight := forBytes
      exact (twins.transceiveAloud_echo alike outgoing incoming length).map fun _ _ same =>
        congrArg (fun answer => (Reply.exchanged .eight answer.1 answer.2.1, answer.2.2)) same
  | receive w incoming =>
      obtain rfl : w = .eight := forBytes
      exact (twins.transceiveAloud_echo alike none (some incoming) incoming.length).map
        fun _ _ same => congrArg (fun answer =>
          (Reply.exchanged .eight answer.1 (some (answer.2.1.getD incoming)), answer.2.2)) same
  | transmit w outgoing =>
      obtain rfl : w = .eight := forBytes
      exact (twins.transceiveAloud_echo alike (some outgoing) none outgoing.length).map
        fun _ _ same => congrArg (Prod.map Reply.outcome Prod.snd) same
  | transfer w incoming outgoing =>
      obtain rfl : w = .eight := forBytes
      exact (twins.exchangeAloud_echo alike (.padded .eight outgoing)
          (max incoming.length outgoing.length) incoming).map
        fun _ _ same => congrArg (fun answer =>
          (Reply.exchanged .eight answer.1 (some answer.2.1), answer.2.2)) same
  | transferInPlace w words =>
      obtain rfl : w = .eight := forBytes
      exact (twins.exchangeAloud_echo alike (.inPlace .eight) words.length words).map
        fun _ _ same => congrArg (fun answer =>
          (Reply.exchanged .eight answer.1 (some answer.2.1), answer.2.2)) same
  | _ => exact forBytes.elim

end Host.Twins

/-! ## Runs -/

/-- Two lists that have the same at every place that both have. -/
def Agree {α : Type} (first second : List α) : Prop :=
  ∀ (k : Nat) (value other : α), first[k]? = some value → second[k]? = some other → value = other

/-- The same was heard, as far as something was heard on both sides. -/
structure Heard.Agrees (first second : Heard) : Prop where
  polls : Agree first.polls second.polls
  bytes : Agree first.bytes second.bytes
  clocks : Agree first.clocks second.clocks

theorem Heard.Agrees.refl (heard : Heard) : heard.Agrees heard where
  polls := fun _ _ _ first second => Option.some.inj (first.symm.trans second)
  bytes := fun _ _ _ first second => Option.some.inj (first.symm.trans second)
  clocks := fun _ _ _ first second => Option.some.inj (first.symm.trans second)

/-- Of two lists that agree, one goes on where the other ends. -/
theorem Agree.exists_append_eq {α : Type} {first second : List α} (agree : Agree first second) :
    ∃ rest otherRest, first ++ rest = second ++ otherRest := by
  induction first generalizing second with
  | nil => exact ⟨second, [], (List.append_nil _).symm⟩
  | cons value first ih =>
      cases second with
      | nil => exact ⟨[], value :: first, List.append_nil _⟩
      | cons other second =>
          obtain rfl : value = other := agree 0 value other rfl rfl
          obtain ⟨rest, otherRest, same⟩ := ih fun k => agree (k + 1)
          exact ⟨rest, otherRest, congrArg (value :: ·) same⟩

theorem Heard.Agrees.exists_append_eq {first second : Heard} (agrees : first.Agrees second) :
    ∃ rest otherRest, first ++ rest = second ++ otherRest := by
  obtain ⟨polls, otherPolls, samePolls⟩ := agrees.polls.exists_append_eq
  obtain ⟨bytes, otherBytes, sameBytes⟩ := agrees.bytes.exists_append_eq
  obtain ⟨clocks, otherClocks, sameClocks⟩ := agrees.clocks.exists_append_eq
  exact ⟨⟨polls, bytes, clocks⟩, ⟨otherPolls, otherBytes, otherClocks⟩,
    Heard.ext samePolls sameBytes sameClocks⟩

namespace Host.Twins

variable {host : Host ρ σ κ} {other : Host ρ' τ κ} (twins : host.Twins other)
  {bus : Bus ρ σ κ} {twin : Bus ρ' τ κ}
include twins

theorem turnAloud_echo (alike : bus.seen host.controller = twin.seen other.controller)
    {turn : Turn σ} {otherTurn : Turn τ} (sameCall : turn.call? = otherTurn.call?)
    (forBytes : ∀ call, turn.call? = some call →
      call.ForBytes fun baudHz => host.LegalBaud baudHz ∧ other.LegalBaud baudHz) :
    Echo (Prod.map id (Bus.seen host.controller)) (Prod.map id (Bus.seen other.controller))
      (host.turnAloud bus turn) (other.turnAloud twin otherTurn) := by
  cases turn with
  | change new =>
      cases otherTurn with
      | change otherNew => exact Echo.silent (Prod.ext rfl alike)
      | call call => cases sameCall
  | call call =>
      cases otherTurn with
      | change otherNew => cases sameCall
      | call otherCall =>
          obtain rfl : call = otherCall := Option.some.inj sameCall
          exact (twins.aloud_echo alike (forBytes call rfl)).map fun _ _ same =>
            congrArg (Prod.map some id) same

/-- Runs of calls for bytes on twins are echoes. -/
theorem turnsAloud_echo (alike : bus.seen host.controller = twin.seen other.controller)
    {turns : List (Turn σ)} {otherTurns : List (Turn τ)}
    (sameCalls : turns.map Turn.call? = otherTurns.map Turn.call?)
    (forBytes : ∀ call, some call ∈ turns.map Turn.call? →
      call.ForBytes fun baudHz => host.LegalBaud baudHz ∧ other.LegalBaud baudHz) :
    Echo (List.map (Prod.map id (Bus.seen host.controller)))
      (List.map (Prod.map id (Bus.seen other.controller)))
      (host.turnsAloud bus turns) (other.turnsAloud twin otherTurns) := by
  induction turns generalizing bus twin otherTurns with
  | nil =>
      obtain rfl := List.map_eq_nil_iff.1 sameCalls.symm
      exact Echo.silent rfl
  | cons first rest ih =>
      cases otherTurns with
      | nil => cases sameCalls
      | cons otherFirst otherRest =>
          obtain ⟨sameCall, callsAfter⟩ := List.cons.inj sameCalls
          have begins := twins.turnAloud_echo alike sameCall fun call made =>
            forBytes call (made ▸ List.mem_cons_self)
          refine begins.andThen ?_
          rintro ⟨reply, bus⟩ ⟨otherReply, twin⟩ answered
          have goesOn := ih (Prod.mk.inj answered).2 callsAfter fun call member =>
            forBytes call (List.mem_cons_of_mem _ member)
          exact goesOn.map fun _ _ logs => List.cons_eq_cons.2 ⟨answered, logs⟩

end Host.Twins

/-! ## The backends -/

/-- What a run looks like: what its turns answered, and what was to be seen after each. -/
def Host.appearance (host : Host ρ σ κ) (bus : Bus ρ σ κ) (turns : List (Turn σ)) :
    Option (List (Option Reply × Seen κ)) :=
  (host.turns bus turns).map (List.map (Prod.map id (Bus.seen host.controller)))

/-- **The backends are interchangeable for bytes.**  Take two hosts on any two backends and
any hardware, with the same lines, the same budgets of waits and the same discipline, and
with nothing different to be seen at the start.  Both make the same calls for bytes, with
baud rates that are legal on both.  If their polls, the low eight bits of what they receive
and their looks at the clock agree, each kind at every place of the run that both get to,
then both hear the same to the end.  And after any number of turns, either both runs have
come back or neither has, and their replies, buffers included, have been the same, and so
have, after every turn, the stage, the device configured, the levels of the lines, and all
that was driven and all bytes that were sent, in order. -/
theorem backends_interchangeable {backend otherBackend : Backend}
    {host : Host backend.Register σ κ} {other : Host otherBackend.Register τ κ}
    (drives : host.controller = backend.controller)
    (otherDrives : other.controller = otherBackend.controller)
    (lines : other.lines = host.lines) (waits : other.waits = host.waits)
    (discipline : other.discipline = host.discipline) {start : Bus backend.Register σ κ}
    {otherStart : Bus otherBackend.Register τ κ}
    (alike : start.seen host.controller = otherStart.seen other.controller)
    {turns : List (Turn σ)} {otherTurns : List (Turn τ)}
    (sameCalls : turns.map Turn.call? = otherTurns.map Turn.call?)
    (forBytes : ∀ call, some call ∈ turns.map Turn.call? →
      call.ForBytes fun baudHz => host.LegalBaud baudHz ∧ other.LegalBaud baudHz)
    (agree : (host.hears start turns).Agrees (other.hears otherStart otherTurns)) :
    host.hears start turns = other.hears otherStart otherTurns ∧
      ∀ n, host.appearance start (turns.take n) =
        other.appearance otherStart (otherTurns.take n) := by
  have twins : host.Twins other :=
    { bytes := drives ▸ backend.movesBytes
      otherBytes := otherDrives ▸ otherBackend.movesBytes
      spares := drives ▸ backend.sparesData
      otherSpares := otherDrives ▸ otherBackend.sparesData
      lines := lines
      waits := waits
      discipline := discipline }
  obtain ⟨rest, otherRest, same⟩ := agree.exists_append_eq
  refine ⟨(twins.turnsAloud_echo alike sameCalls forBytes rest otherRest same).1, ?_⟩
  intro n
  have firstCalls : (turns.take n).map Turn.call? = (otherTurns.take n).map Turn.call? := by
    rw [List.map_take, List.map_take, sameCalls]
  have firstForBytes : ∀ call, some call ∈ (turns.take n).map Turn.call? →
      call.ForBytes fun baudHz => host.LegalBaud baudHz ∧ other.LegalBaud baudHz := by
    intro call made
    rw [List.map_take] at made
    exact forBytes call (List.mem_of_mem_take made)
  obtain ⟨later, heard⟩ := host.exists_hears_eq_take_append start turns n
  obtain ⟨otherLater, otherHeard⟩ :=
    other.exists_hears_eq_take_append otherStart otherTurns n
  rw [heard, otherHeard, Heard.append_assoc, Heard.append_assoc] at same
  have results := (twins.turnsAloud_echo alike firstCalls firstForBytes _ _ same).2
  rw [host.turnsAloud_snd twins.bytes, other.turnsAloud_snd twins.otherBytes] at results
  exact results

/-- A strict host on a USART whose registers always read the same. -/
def Host.constantUsart (value : UInt32) : Host Backend.usart.Register Unit Unit where
  controller := Backend.usart.controller
  hardware := .constant value
  lines := .recorded
  discipline := .strict

/-- A session with an exchange of two bytes, on registers that read differently above the
low eight bits. -/
theorem backends_interchangeable_constant :
    let turns : List (Turn Unit) := [.call (.bringUp 8),
      .call (.openSession ⟨0⟩ ⟨0, 1, .eight⟩ (.ofBits 0) 1000000),
      .call (.transceive .eight (some [1, 2]) (some [0, 0]) 2), .change id,
      .call (.closeSession ⟨⟨0, 1, .eight⟩, true⟩)]
    (Host.constant 0x203).hears (.fresh () ()) turns =
        (Host.constantUsart 0xF03).hears (.fresh () ()) turns ∧
      ((Host.constant 0x203).appearance (.fresh () ()) turns).isSome ∧
      (Host.constant 0x203).appearance (.fresh () ()) turns =
        (Host.constantUsart 0xF03).appearance (.fresh () ()) turns := by
  intro turns
  have drives : (Host.constant 0x203).controller = Backend.standard.controller := rfl
  have otherDrives : (Host.constantUsart 0xF03).controller = Backend.usart.controller := rfl
  have legal : (Host.constant 0x203).LegalBaud 1000000 ∧
      (Host.constantUsart 0xF03).LegalBaud 1000000 := ⟨rfl, rfl⟩
  have forBytes : ∀ call, some call ∈ turns.map Turn.call? → call.ForBytes fun baudHz =>
      (Host.constant 0x203).LegalBaud baudHz ∧ (Host.constantUsart 0xF03).LegalBaud baudHz := by
    intro call made
    simp only [turns, List.map_cons, List.map_nil, Turn.call?, List.mem_cons, List.not_mem_nil,
      Option.some.injEq, reduceCtorEq, or_false, false_or] at made
    rcases made with rfl | rfl | rfl | rfl
    · show (8 : UInt32) ≠ 16
      decide
    · exact legal
    · exact rfl
    · exact trivial
  have same : (Host.constant 0x203).hears (.fresh () ()) turns =
      (Host.constantUsart 0xF03).hears (.fresh () ()) turns := rfl
  have agree : ((Host.constant 0x203).hears (.fresh () ()) turns).Agrees
      ((Host.constantUsart 0xF03).hears (.fresh () ()) turns) := same ▸ Heard.Agrees.refl _
  obtain ⟨heard, looks⟩ := backends_interchangeable drives otherDrives rfl rfl rfl (by rfl) rfl
    forBytes agree
  exact ⟨heard, rfl, looks 5⟩

end SerialBus
