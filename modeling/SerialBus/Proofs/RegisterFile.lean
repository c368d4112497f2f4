import Mathlib.Logic.Function.Basic
import SerialBus.Proofs.Replay
import SerialBus.Proofs.StandardSettings

/-!
# Registers that hold what was written

The mode register and the slots of a standard controller are ordinary registers: they
read as last written, and nothing but a write or a reset changes them.  A register file
says this of a hardware by naming what its registers hold (`Standard.RegisterFile`), and
from it follows what each script of the controller leaves in them.

A register file leaves open whether a reset clears the registers; that it does is a
property of its own (`RegisterFile.Clears`).
-/

set_option autoImplicit false

namespace SerialBus

namespace Standard

/-! ## Registers that hold what was written -/

/-- What the mode register and the slots hold. -/
structure Contents where
  mode : UInt32
  settings : Fin 4 → UInt32

namespace Contents

/-- The contents after a reset that clears them. -/
def cleared : Contents where
  mode := 0
  settings := fun _ => 0

/-- The value of a register, if it is one of those. -/
def read? (contents : Contents) : Register → Option UInt32
  | .mode => some contents.mode
  | .settings slot => some (contents.settings slot)
  | _ => none

/-- The contents after a write of a register. -/
def write (contents : Contents) (register : Register) (value : UInt32) : Contents :=
  match register with
  | .mode => { contents with mode := value }
  | .settings slot => { contents with settings := Function.update contents.settings slot value }
  | _ => contents

/-- The contents after the settings of a device were put over them. -/
def configured (device : Device) (mode : Mode) (divisor : UInt32) (contents : Contents) :
    Contents :=
  (contents.write .mode (ModeControl.select (patternOf device.id)
    (contents.mode ||| ModeControl.masterBits))).write (.settings (slotOf device.id))
      (SlotSetting.assignAll (slotSettings device mode divisor)
        (contents.settings (slotOf device.id)))

end Contents

/-- Hardware on which the mode register and the slots read as last written.  A write of
the control register with the reset bit clears them or leaves them as they are. -/
structure RegisterFile {σ : Type} (hardware : Hardware Register σ) where
  contents : σ → Contents
  enable : ∀ state, contents (hardware.enable state) = contents state
  read : ∀ register state, contents (hardware.read register state).2 = contents state
  value : ∀ register state, ∀ value ∈ (contents state).read? register,
    (hardware.read register state).1 = value
  write : ∀ register value state,
    contents (hardware.write register value state) = (contents state).write register value ∨
      register = .control ∧ Control.reset.isFull value ∧
        contents (hardware.write register value state) = .cleared
  now : ∀ state, contents (hardware.now state).2 = contents state
  command : ∀ command state, contents (hardware.command command state) = contents state
  elapse : ∀ time state, contents (hardware.elapse time state) = contents state

/-- Every reset clears the mode register and the slots. -/
def RegisterFile.Clears {σ : Type} {hardware : Hardware Register σ}
    (file : RegisterFile hardware) : Prop :=
  ∀ value state, Control.reset.isFull value = true →
    file.contents (hardware.write .control value state) = .cleared

variable {σ κ : Type} {host : Host Register σ κ} (file : RegisterFile host.hardware)
  {bus : Bus Register σ κ}

namespace RegisterFile

/-- Traffic leaves the contents alone. -/
theorem contents_traffic (drives : host.controller = Standard.controller)
    {events : List (Event Register)}
    (traffic : ∀ event ∈ events, event.Traffic host.controller) (state : σ) :
    file.contents (host.hardware.replay events state) = file.contents state := by
  rw [drives] at traffic
  refine host.hardware.replay_invariant
    (fun later => file.contents later = file.contents state) ?_ rfl
  intro event member later same
  refine Eq.trans ?_ same
  have allowed := traffic event member
  cases event with
  | enable => exact file.enable later
  | read register value => exact file.read register later
  | write register value =>
      obtain rfl : register = .transmit := allowed
      rcases file.write .transmit value later with kept | ⟨control, _⟩
      · exact kept
      · cases control
  | line event => rfl
  | dma command => exact file.command command later
  | clock now => exact file.now later
  | adapter level => rfl
  | delay time => exact file.elapse time later

/-- A write without a reset does to the contents what it says. -/
theorem contents_write {register : Register} {value : UInt32}
    (noReset : register = .control → Control.reset.isFull value = false) :
    file.contents (host.write register value bus).hardware =
      (file.contents bus.hardware).write register value := by
  rcases file.write register value bus.hardware with kept | ⟨control, reset, _⟩
  · exact kept
  · rw [noReset control] at reset
    cases reset

/-- A reset clears the contents or leaves them as they are. -/
theorem contents_control (value : UInt32) :
    file.contents (host.write .control value bus).hardware = file.contents bus.hardware ∨
      file.contents (host.write .control value bus).hardware = .cleared := by
  rcases file.write .control value bus.hardware with kept | ⟨_, _, cleared⟩
  · exact .inl kept
  · exact .inr cleared

/-- Changing a register changes the value it holds. -/
theorem contents_modify {register : Register} {old : UInt32}
    (holds : (file.contents bus.hardware).read? register = some old)
    (change : UInt32 → UInt32) :
    file.contents (host.access bus (.modify register change)).hardware =
      (file.contents bus.hardware).write register (change old) := by
  have value := file.value register bus.hardware old holds
  have noReset : register = .control → Control.reset.isFull (change old) = false := by
    rintro rfl
    cases holds
  rw [Host.access, Host.read_eq, value]
  refine (file.contents_write noReset).trans ?_
  exact congrArg (Contents.write · register (change old)) (file.read register bus.hardware)

/-! What each script leaves in the registers. -/

theorem contents_run_bringUp (bus : Bus Register σ κ) :
    ∃ base, (base = file.contents bus.hardware ∨ base = .cleared) ∧
      file.contents (host.run Standard.bringUp bus).hardware =
        base.write .mode (ModeControl.select initialPattern
          (withoutBits (base.mode ||| ModeControl.masterBits) ModeControl.unwantedBits)) := by
  rw [Standard.bringUp, Host.run_cons, Host.run_cons, Host.run_cons, Host.run_nil]
  refine ⟨_, ?_, file.contents_modify rfl _⟩
  have enabled : file.contents (host.access bus .enable).hardware =
      file.contents bus.hardware := file.enable bus.hardware
  exact enabled ▸ file.contents_control _

/-- Configuring puts the settings of a device over what the reset has left. -/
theorem contents_run_configure_eq (device : Device) (mode : Mode) (divisor : UInt32)
    (bus : Bus Register σ κ) :
    file.contents (host.run (Standard.configure device mode divisor) bus).hardware =
      (file.contents (host.write .control Control.reset.mask bus).hardware).configured device mode
        divisor := by
  rw [Standard.configure, Host.run_cons, Host.run_cons, Host.run_cons, Host.run_cons,
    Host.run_nil]
  let started := host.access bus (.write .control Control.reset.mask)
  have mastered : file.contents (host.access started (.modify .mode _)).hardware = _ :=
    file.contents_modify rfl fun value =>
      ModeControl.select (patternOf device.id) (value ||| ModeControl.masterBits)
  have holds := congrArg (Contents.read? · (.settings (slotOf device.id))) mastered
  have filled := file.contents_modify holds
    (SlotSetting.assignAll (slotSettings device mode divisor))
  rw [mastered] at filled
  have enabled (mid : Bus Register σ κ) :
      file.contents (host.access mid (.write .control Control.enable.mask)).hardware =
        file.contents mid.hardware := file.contents_write fun _ => by decide
  exact (enabled _).trans filled

theorem contents_run_configure (device : Device) (mode : Mode) (divisor : UInt32)
    (bus : Bus Register σ κ) :
    ∃ base, (base = file.contents bus.hardware ∨ base = .cleared) ∧
      file.contents (host.run (Standard.configure device mode divisor) bus).hardware =
        base.configured device mode divisor :=
  ⟨_, file.contents_control Control.reset.mask,
    file.contents_run_configure_eq device mode divisor bus⟩

theorem contents_run_select (device : Device) :
    file.contents (host.run (Standard.select device) bus).hardware =
      (file.contents bus.hardware).write .mode
        (ModeControl.select (patternOf device.id) (file.contents bus.hardware).mode) := by
  rw [Standard.select, Host.run_cons, Host.run_nil]
  exact file.contents_modify rfl _

theorem contents_run_finish :
    file.contents (host.run Standard.finish bus).hardware =
      (file.contents bus.hardware).write .mode
        (ModeControl.select noneSelected (file.contents bus.hardware).mode) := by
  rw [Standard.finish, Host.run_cons, Host.run_cons, Host.run_nil]
  have ended : file.contents
      (host.access bus (.write .control Control.lastTransfer.mask)).hardware =
        file.contents bus.hardware := file.contents_write fun _ => by decide
  exact ended ▸ file.contents_modify rfl _

end RegisterFile

/-! ## Registers and nothing else -/

/-- Hardware that consists of the mode register and the slots.  Any other register
reads as a given value, and a reset clears what there is. -/
def Contents.ideal (other : UInt32) : Hardware Register Contents where
  enable := id
  read := fun register contents => ((contents.read? register).getD other, contents)
  write := fun register value contents =>
    if register = .control ∧ Control.reset.isFull value then .cleared
    else contents.write register value
  address := fun _ _ => 0
  now := fun contents => (0, contents)
  command := fun _ => id
  elapse := fun _ => id

/-- Such hardware is its own register file. -/
def Contents.registerFile (other : UInt32) : RegisterFile (Contents.ideal other) where
  contents := id
  enable := fun _ => rfl
  read := fun _ _ => rfl
  value := fun register contents value holds => by
    have same : contents.read? register = some value := holds
    simp [ideal, same]
  write := fun register value contents => by
    by_cases reset : register = .control ∧ Control.reset.isFull value
    · exact .inr ⟨reset.1, reset.2, if_pos reset⟩
    · exact .inl (if_neg reset)
  now := fun _ => rfl
  command := fun _ _ => rfl
  elapse := fun _ _ => rfl

theorem Contents.registerFile_clears (other : UInt32) : (registerFile other).Clears :=
  fun _ _ reset => if_pos ⟨rfl, reset⟩

end Standard

end SerialBus
