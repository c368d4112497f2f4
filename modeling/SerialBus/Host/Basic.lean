import SerialBus.Hardware
import SerialBus.WaitPolicy
import SerialBus.Trace

/-!
# The host of a bus

A host is what stays fixed while a bus is in use: the controller, the hardware it
sits on, the chip-select lines, the budget of every wait, the clock that feeds the
controller, and whether calls out of order are refused.

A bus is what changes: the state of the hardware and of the lines, the stage that
the conversation with the devices has reached, the device last configured, and
the trace of everything that has happened.  Each primitive below performs one
effect and records it, so the trace is complete by construction.
-/

set_option autoImplicit false

namespace SerialBus

/-! ## Stages of a conversation -/

/-- How far the conversation on a bus has come. -/
inductive Stage where
  /-- The bus was never brought up. -/
  | down
  /-- The bus is up and no device was configured yet. -/
  | idle
  /-- The controller holds the settings of a device. -/
  | configured
  /-- A device is selected. -/
  | selected
  /-- The device was released and may be selected again. -/
  | deselected
  /-- A transfer timed out while its device was selected. -/
  | faulted
  deriving DecidableEq, Repr

namespace Stage

/-- The name of a stage. -/
def text : Stage → String
  | .down => "Uninitialized"
  | .idle => "Idle"
  | .configured => "Configured"
  | .selected => "Selected"
  | .deselected => "Deselected"
  | .faulted => "Faulted"

/-- Whether a device is held selected, be it after a fault. -/
def engaged : Stage → Bool
  | .selected | .faulted => true
  | _ => false

/-- Whether the settings of a device are in place and no device is selected. -/
def settled : Stage → Bool
  | .configured | .deselected => true
  | _ => false

end Stage

/-! ## Host and bus -/

/-- What a host does with calls out of order. -/
inductive Discipline where
  /-- They are carried out all the same. -/
  | permissive
  /-- They are refused. -/
  | strict
  deriving DecidableEq, Repr

/-- The name of a discipline. -/
def Discipline.text : Discipline → String
  | .permissive => "Permissive"
  | .strict => "Strict"

/-- The clock that feeds the controller when none is given. -/
def defaultClockHz : UInt32 := 84000000

/-- The fixed parts of a bus with controller registers `ρ`, hardware `σ` and
chip-select lines `κ`. -/
structure Host (ρ σ κ : Type) where
  controller : Controller ρ
  hardware : Hardware ρ σ
  lines : SelectLines κ
  waits : WaitPolicy := .pollLimit WaitPolicy.defaultPollLimit
  clockHz : UInt32 := defaultClockHz
  discipline : Discipline := .permissive
  /-- Where the byte lies that a DMA transfer without a buffer sends. -/
  fillerAddress : UInt64 := 0

/-- The changing parts of a bus. -/
structure Bus (ρ σ κ : Type) where
  hardware : σ
  lines : κ
  /-- Whether the bus was brought up. -/
  up : Bool := false
  stage : Stage := .down
  configured : Option Device := none
  /-- Everything that has happened, the latest first. -/
  history : List (Event ρ) := []

namespace Bus

variable {ρ σ κ : Type}

/-- Everything that has happened, in order. -/
def trace (bus : Bus ρ σ κ) : List (Event ρ) :=
  bus.history.reverse

/-- A bus on which one more thing has happened. -/
def note (event : Event ρ) (bus : Bus ρ σ κ) : Bus ρ σ κ :=
  { bus with history := event :: bus.history }

end Bus

/-! ## Effects -/

namespace Host

variable {ρ σ κ : Type} (host : Host ρ σ κ)

/-- Read a register. -/
def read (register : ρ) (bus : Bus ρ σ κ) : UInt32 × Bus ρ σ κ :=
  let (value, hardware) := host.hardware.read register bus.hardware
  (value, { bus with hardware := hardware, history := .read register value :: bus.history })

/-- Write a register. -/
def write (register : ρ) (value : UInt32) (bus : Bus ρ σ κ) : Bus ρ σ κ :=
  { bus with
    hardware := host.hardware.write register value bus.hardware
    history := .write register value :: bus.history }

/-- Make one access of a script. -/
def access (bus : Bus ρ σ κ) : Access ρ → Bus ρ σ κ
  | .enable =>
      { bus with
        hardware := host.hardware.enable bus.hardware
        history := .enable :: bus.history }
  | .write register value => host.write register value bus
  | .modify register change =>
      let (value, bus) := host.read register bus
      host.write register (change value) bus

/-- Make the accesses of a script, from first to last. -/
def run (script : List (Access ρ)) (bus : Bus ρ σ κ) : Bus ρ σ κ :=
  script.foldl host.access bus

/-- Drive a chip-select line. -/
def drive (number : UInt8) (level : Level) (bus : Bus ρ σ κ) : Bus ρ σ κ :=
  let (lines, event) := host.lines.drive number level bus.lines
  { bus with
    lines := lines
    history := (event.map Event.line).toList ++ bus.history }

/-- Give a command to the DMA engine. -/
def command (command : Dma.Command) (bus : Bus ρ σ κ) : Bus ρ σ κ :=
  { bus with
    hardware := host.hardware.command command bus.hardware
    history := .dma command :: bus.history }

/-- Carry out a computation that reads the clock. -/
def consult {α : Type} : Clocked α → Bus ρ σ κ → α × Bus ρ σ κ
  | .answer value, bus => (value, bus)
  | .ask next, bus =>
      let (now, hardware) := host.hardware.now bus.hardware
      consult (next now) { bus with hardware := hardware, history := .clock now :: bus.history }

/-- Read the status register once and see whether it reports a condition. -/
def poll (condition : Condition) (bus : Bus ρ σ κ) : Bool × Bus ρ σ κ :=
  let (status, bus) := host.read host.controller.status bus
  (host.controller.reports condition status, bus)

/-- Put a unit into the transmit register. -/
def send (unit : UInt16) (last : Bool) (bus : Bus ρ σ κ) : Bus ρ σ κ :=
  host.write host.controller.transmit (host.controller.encode unit last) bus

/-- Take a unit out of the receive register. -/
def take (bus : Bus ρ σ κ) : UInt16 × Bus ρ σ κ :=
  let (value, bus) := host.read host.controller.receive bus
  (host.controller.decode value, bus)

end Host

end SerialBus
