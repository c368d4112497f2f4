import SerialBus.Host.Call

/-!
# The trace accounts for the hardware

Every primitive of a host does one thing to the hardware and notes it, so the
hardware can be recovered from the trace: replaying the events of a trace on the
hardware it began with gives the hardware it ended with (`Hardware.replay`).  A
bus on which some events have happened and nothing else has changed is
`host.after events bus`, and the primitives are equal to such buses
(`read_eq`, `write_eq`, `command_eq`, `run_eq`, `consult_eq`).

Most events are traffic: they neither switch the controller on, nor write a
register other than the transmit register, nor drive a chip-select line
(`Event.Traffic`).  Polls, exchanges, DMA commands and the doings of a device
adapter are traffic; only the scripts of a controller and the drives of its lines
are not.
-/

set_option autoImplicit false

namespace SerialBus

/-! ## Replaying events on the hardware -/

namespace Hardware

variable {ρ σ : Type} (hardware : Hardware ρ σ)

/-- The hardware after one event. -/
def undergo (state : σ) : Event ρ → σ
  | .enable => hardware.enable state
  | .read register _ => (hardware.read register state).2
  | .write register value => hardware.write register value state
  | .line _ => state
  | .dma command => hardware.command command state
  | .clock _ => (hardware.now state).2
  | .adapter _ => state
  | .delay nanoseconds => hardware.elapse nanoseconds state

/-- The hardware after events, from first to last. -/
def replay (events : List (Event ρ)) (state : σ) : σ :=
  events.foldl hardware.undergo state

theorem replay_append (first second : List (Event ρ)) (state : σ) :
    hardware.replay (first ++ second) state =
      hardware.replay second (hardware.replay first state) :=
  List.foldl_append

/-- What every event keeps, a replay keeps. -/
theorem replay_invariant (kept : σ → Prop) {events : List (Event ρ)}
    (step : ∀ event ∈ events, ∀ state, kept state → kept (hardware.undergo state event))
    {state : σ} (start : kept state) : kept (hardware.replay events state) := by
  induction events generalizing state with
  | nil => exact start
  | cons event events ih =>
      refine ih (fun later member => step later (List.mem_cons_of_mem _ member)) ?_
      exact step event List.mem_cons_self state start

/-- The events of one access of a script. -/
def eventsOf (state : σ) : Access ρ → List (Event ρ)
  | .enable => [.enable]
  | .write register value => [.write register value]
  | .modify register change =>
      let value := (hardware.read register state).1
      [.read register value, .write register (change value)]

/-- The events of a script. -/
def eventsOfScript (state : σ) : List (Access ρ) → List (Event ρ)
  | [] => []
  | access :: script =>
      hardware.eventsOf state access ++
        eventsOfScript (hardware.replay (hardware.eventsOf state access) state) script

end Hardware

/-! ## Buses after events -/

namespace Bus

variable {ρ σ κ : Type} (stage : Stage) (bus : Bus ρ σ κ)

/-- A bus moved to a stage. -/
def setStage : Bus ρ σ κ :=
  { bus with stage := stage }

@[simp] theorem setStage_stage : (bus.setStage stage).stage = stage := rfl

@[simp] theorem setStage_up : (bus.setStage stage).up = bus.up := rfl

@[simp] theorem setStage_configured : (bus.setStage stage).configured = bus.configured := rfl

@[simp] theorem setStage_trace : (bus.setStage stage).trace = bus.trace := rfl

end Bus

namespace Host

variable {ρ σ κ : Type} (host : Host ρ σ κ)

/-- The bus after events that leave the lines and the conversation alone. -/
def after (events : List (Event ρ)) (bus : Bus ρ σ κ) : Bus ρ σ κ :=
  { bus with
    hardware := host.hardware.replay events bus.hardware
    history := events.reverse ++ bus.history }

variable (events : List (Event ρ)) (bus : Bus ρ σ κ)

@[simp] theorem after_nil : host.after [] bus = bus := rfl

@[simp] theorem after_up : (host.after events bus).up = bus.up := rfl

@[simp] theorem after_stage : (host.after events bus).stage = bus.stage := rfl

@[simp] theorem after_configured : (host.after events bus).configured = bus.configured := rfl

@[simp] theorem after_trace : (host.after events bus).trace = bus.trace ++ events := by
  simp [Bus.trace, after]

theorem after_after (later : List (Event ρ)) :
    host.after later (host.after events bus) = host.after (events ++ later) bus := by
  simp [after, Hardware.replay_append]

/-! ## The primitives -/

theorem read_eq (register : ρ) :
    host.read register bus =
      ((host.hardware.read register bus.hardware).1,
        host.after [.read register (host.hardware.read register bus.hardware).1] bus) := rfl

theorem write_eq (register : ρ) (value : UInt32) :
    host.write register value bus = host.after [.write register value] bus := rfl

theorem command_eq (command : Dma.Command) :
    host.command command bus = host.after [.dma command] bus := rfl

theorem elapse_eq (nanoseconds : UInt32) :
    host.elapse nanoseconds bus = host.after [.delay nanoseconds] bus := rfl

theorem note_adapter_eq (level : Level) :
    bus.note (.adapter level) = host.after [.adapter level] bus := rfl

theorem access_eq (access : Access ρ) :
    host.access bus access = host.after (host.hardware.eventsOf bus.hardware access) bus := by
  cases access with
  | enable => rfl
  | write register value => rfl
  | modify register change => rfl

theorem run_nil : host.run [] bus = bus := rfl

theorem run_cons (access : Access ρ) (script : List (Access ρ)) :
    host.run (access :: script) bus = host.run script (host.access bus access) := rfl

/-- Running a script leaves the events of the script and nothing else. -/
theorem run_eq (script : List (Access ρ)) :
    host.run script bus = host.after (host.hardware.eventsOfScript bus.hardware script) bus := by
  induction script generalizing bus with
  | nil => rfl
  | cons access script ih =>
      rw [run_cons, ih, access_eq, after_after]
      rfl

theorem run_trace (script : List (Access ρ)) :
    (host.run script bus).trace =
      bus.trace ++ host.hardware.eventsOfScript bus.hardware script := by
  rw [run_eq, after_trace]

theorem commandAll_eq (commands : List Dma.Command) :
    host.commandAll commands bus = host.after (commands.map .dma) bus := by
  induction commands generalizing bus with
  | nil => rfl
  | cons command commands ih =>
      have step : host.commandAll (command :: commands) bus =
          host.commandAll commands (host.command command bus) := rfl
      rw [step, ih, command_eq, after_after]
      rfl

/-- A channel is armed by five commands, of which the fourth tells the address that the
register has after the first three. -/
theorem arm_eq_commandAll (channel : UInt8) (settings : Dma.Settings) (register : ρ)
    (describe : UInt64 → Dma.Descriptor) :
    let configured := host.commandAll
      [.enable, .disableChannel channel, .configureChannel channel settings] bus
    let address := host.hardware.address register configured.hardware
    host.arm channel settings register describe bus =
      host.commandAll
        [.enable, .disableChannel channel, .configureChannel channel settings,
          .load channel (describe address), .enableChannel channel] bus := rfl

@[simp] theorem run_up (script : List (Access ρ)) : (host.run script bus).up = bus.up := by
  rw [run_eq, after_up]

@[simp] theorem run_stage (script : List (Access ρ)) :
    (host.run script bus).stage = bus.stage := by
  rw [run_eq, after_stage]

@[simp] theorem run_configured (script : List (Access ρ)) :
    (host.run script bus).configured = bus.configured := by
  rw [run_eq, after_configured]

@[simp] theorem drive_up (number : UInt8) (level : Level) :
    (host.drive number level bus).up = bus.up := rfl

@[simp] theorem drive_configured (number : UInt8) (level : Level) :
    (host.drive number level bus).configured = bus.configured := rfl

/-- A drive leaves what the lines show of it, which is one event at most. -/
theorem trace_drive (number : UInt8) (level : Level) :
    (host.drive number level bus).trace = bus.trace ++
      ((host.lines.drive number level bus.lines).2.map Event.line).toList := by
  cases shown : (host.lines.drive number level bus.lines).2 with
  | none => simp [drive, Bus.trace, shown]
  | some event => simp [drive, Bus.trace, shown]

@[simp] theorem letGo_up (device : Device) : (host.letGo device bus).up = bus.up := by
  simp [letGo]

@[simp] theorem letGo_stage (device : Device) : (host.letGo device bus).stage = .deselected := rfl

@[simp] theorem letGo_configured (device : Device) :
    (host.letGo device bus).configured = bus.configured := by
  simp [letGo]

end Host

/-! ## Traffic -/

namespace Event

variable {ρ : Type}

/-- A reading of the clock. -/
def IsClock : Event ρ → Prop
  | .clock _ => True
  | _ => False

/-- An event that neither switches the controller on, nor writes a register other
than the transmit register, nor drives a chip-select line. -/
def Traffic (controller : Controller ρ) : Event ρ → Prop
  | .enable => False
  | .write register _ => register = controller.transmit
  | .line _ => False
  | _ => True

theorem IsClock.traffic {controller : Controller ρ} {event : Event ρ} (clock : event.IsClock) :
    event.Traffic controller := by
  cases event with
  | clock now => exact trivial
  | _ => exact clock.elim

end Event

namespace Host

variable {ρ σ κ : Type} (host : Host ρ σ κ)

/-- Whatever reads the clock leaves readings of the clock and nothing else. -/
theorem consult_eq {α : Type} (clocked : Clocked α) (bus : Bus ρ σ κ) :
    ∃ value clocks, (∀ event ∈ clocks, event.IsClock) ∧
      host.consult clocked bus = (value, host.after clocks bus) := by
  induction clocked generalizing bus with
  | answer value => exact ⟨value, [], by simp, rfl⟩
  | ask next ih =>
      obtain ⟨value, clocks, areClocks, result⟩ :=
        ih (host.hardware.now bus.hardware).1
          (host.after [.clock (host.hardware.now bus.hardware).1] bus)
      refine ⟨value, .clock (host.hardware.now bus.hardware).1 :: clocks, ?_, ?_⟩
      · intro event member
        rcases List.mem_cons.1 member with rfl | later
        · exact trivial
        · exact areClocks event later
      · rw [after_after] at result
        exact result

end Host

/-- An event of a script is one of an access in it. -/
theorem Hardware.mem_eventsOfScript {ρ σ : Type} {hardware : Hardware ρ σ}
    {script : List (Access ρ)} {state : σ} {event : Event ρ}
    (member : event ∈ hardware.eventsOfScript state script) :
    ∃ access ∈ script, ∃ later, event ∈ hardware.eventsOf later access := by
  induction script generalizing state with
  | nil => simp [eventsOfScript] at member
  | cons access script ih =>
      rcases List.mem_append.1 member with here | there
      · exact ⟨access, List.mem_cons_self, state, here⟩
      · obtain ⟨found, inScript, later, event⟩ := ih there
        exact ⟨found, List.mem_cons_of_mem _ inScript, later, event⟩

end SerialBus
