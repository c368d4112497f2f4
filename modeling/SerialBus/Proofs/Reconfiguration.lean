import SerialBus.Proofs.SettingsSafety

/-!
# Configuring a device forgets what came before

Neither controller is told what is in its registers when a device is configured.  The
standard controller changes its mode register and one slot field by field, so stale
fields are gone only because the reset before has cleared them, the slots of other
devices included.  The USART is written afresh, mode and divisor as a whole, so nothing
has to be known of its reset.

What is in the registers afterwards is said in numbers (`Standard.Contents.Only`,
`Usart.Contents.Only`): every register is the sum of the settings at their places, so
there is no other bit in it.  Numbers that are determined by the settings and the clock
are the same in any two runs, whatever devices, transfers and timeouts either of them
has seen (`configure_history_independent`).
-/

set_option autoImplicit false

namespace SerialBus

variable {ρ σ κ τ ι : Type}

/-- A successful configuration has found a divisor and has run the controller's script. -/
theorem Host.after_configure {host : Host ρ σ κ} {bus after : Bus ρ σ κ} {device : Device}
    {mode : Mode} {baudHz : UInt32}
    (configured : host.configure device mode baudHz bus = (.ok (), after)) :
    ∃ divisor, host.controller.divisor host.clockHz baudHz = some divisor ∧
      after = { host.run (host.controller.configure device mode divisor) bus with
        configured := some device
        stage := .configured } := by
  rcases configure_cases configured with ⟨_, enacted⟩ | ⟨_, _, failed, _⟩
  · cases enacted with
    | configure allowed legal => exact ⟨_, legal, rfl⟩
  · cases failed

theorem Host.configured_of_call {host : Host ρ σ κ} {bus after : Bus ρ σ κ} {device : Device}
    {mode : Mode} {baudHz : UInt32}
    (result : host.call bus (.configure device mode baudHz) = some (.outcome (.ok ()), after)) :
    ∃ divisor, host.controller.divisor host.clockHz baudHz = some divisor ∧
      after.hardware = (host.run (host.controller.configure device mode divisor) bus).hardware ∧
      after.stage = .configured := by
  simp only [call, Option.some.injEq, Prod.mk.injEq, Reply.outcome.injEq] at result
  obtain ⟨divisor, legal, rfl⟩ := after_configure (Prod.ext result.1 result.2)
  exact ⟨divisor, legal, rfl, rfl⟩

/-! ## The standard controller -/

namespace Standard

/-- The registers hold the settings of one device and not a bit besides. -/
structure Contents.Only (clockHz : UInt32) (settings : Settings) (contents : Contents) :
    Prop where
  /-- Master, no mode faults, and zero at the place of the device in the select pattern. -/
  mode : contents.mode.toNat =
    2 ^ 0 + 2 ^ 4 + 2 ^ 16 * (15 - 2 ^ (settings.device.id.toNat % 4))
  /-- Width, divisor, idle level and leading edge, each at its place. -/
  slot : (contents.settings (slotOf settings.device.id)).toNat =
    2 ^ 4 * (settings.device.width.bits.toNat - 8) +
      2 ^ 8 * ((clockHz.toNat + settings.baudHz.toNat - 1) / settings.baudHz.toNat) +
      2 ^ 0 * settings.mode.idlesHigh.toNat + 2 ^ 1 * settings.mode.capturesOnLeadingEdge.toNat
  divisorLegal : 1 ≤ (clockHz.toNat + settings.baudHz.toNat - 1) / settings.baudHz.toNat ∧
    (clockHz.toNat + settings.baudHz.toNat - 1) / settings.baudHz.toNat ≤ 255
  others : ∀ slot, slot ≠ slotOf settings.device.id → contents.settings slot = 0

/-- There is one way only to hold the settings of one device and nothing else. -/
theorem Contents.Only.unique {clockHz : UInt32} {settings : Settings} {contents other : Contents}
    (only : contents.Only clockHz settings) (otherOnly : other.Only clockHz settings) :
    contents = other := by
  have mode : contents.mode = other.mode :=
    UInt32.toNat_inj.1 (only.mode.trans otherOnly.mode.symm)
  have slots : contents.settings = other.settings := by
    funext slot
    by_cases own : slot = slotOf settings.device.id
    · subst own
      exact UInt32.toNat_inj.1 (only.slot.trans otherOnly.slot.symm)
    · exact (only.others slot own).trans (otherOnly.others slot own).symm
  cases contents
  cases other
  exact congrArg₂ Contents.mk mode slots

/-- Settings put over cleared registers are all there is. -/
theorem Contents.only_configured {clockHz divisor : UInt32} {settings : Settings}
    (legal : Standard.divisor clockHz settings.baudHz = some divisor) :
    (Contents.cleared.configured settings.device settings.mode divisor).Only clockHz settings := by
  obtain ⟨ceil, least, most⟩ := divisor_eq_ceil legal
  refine ⟨toNat_select_masterBits settings.device.id, ?_, ceil ▸ ⟨least, most⟩, ?_⟩
  · simp only [configured, write, Function.update_self]
    rw [← ceil]
    exact toNat_slotSettings most
  · intro slot other
    simp only [configured, write]
    exact Function.update_of_ne other _ _

/-- Where a reset clears the registers, configuring leaves the settings and nothing else. -/
theorem RegisterFile.only_of_call {host : Host Register σ κ} {file : RegisterFile host.hardware}
    (drives : host.controller = Standard.controller) (clears : file.Clears)
    {bus after : Bus Register σ κ} {settings : Settings}
    (result : host.call bus (.configure settings.device settings.mode settings.baudHz) =
      some (.outcome (.ok ()), after)) :
    (file.contents after.hardware).Only host.clockHz settings ∧ after.stage = .configured := by
  obtain ⟨divisor, legal, hardware, stage⟩ := Host.configured_of_call result
  rw [drives] at legal hardware
  have reset : file.contents (host.write .control Control.reset.mask bus).hardware = .cleared :=
    clears _ _ (by decide)
  have contents := file.contents_run_configure_eq settings.device settings.mode divisor bus
  rw [reset] at contents
  refine ⟨?_, stage⟩
  rw [hardware]
  exact contents ▸ Contents.only_configured legal

end Standard

/-! ## The USART -/

namespace Usart

/-- What the mode register and the divisor register hold. -/
structure Contents where
  mode : UInt32
  baudRate : UInt32

namespace Contents

/-- The value of a register, if it is one of those. -/
def read? (contents : Contents) : Register → Option UInt32
  | .mode => some contents.mode
  | .baudRate => some contents.baudRate
  | _ => none

/-- The contents after a write of a register. -/
def write (contents : Contents) (register : Register) (value : UInt32) : Contents :=
  match register with
  | .mode => { contents with mode := value }
  | .baudRate => { contents with baudRate := value }
  | _ => contents

end Contents

/-- Hardware on which the mode register and the divisor register store what is written.
A write of the control register with a reset bit may do anything to them. -/
structure RegisterFile {σ : Type} (hardware : Hardware Register σ) where
  contents : σ → Contents
  value : ∀ register state, ∀ value ∈ (contents state).read? register,
    (hardware.read register state).1 = value
  write : ∀ register value state,
    contents (hardware.write register value state) = (contents state).write register value ∨
      register = .control ∧ value &&& Control.resetBits ≠ 0

variable {host : Host Register σ κ} (file : RegisterFile host.hardware)

/-- A write without a reset does to the contents what it says. -/
theorem RegisterFile.contents_write (register : Register) (value : UInt32)
    (noReset : register = .control → value &&& Control.resetBits = 0) (bus : Bus Register σ κ) :
    file.contents (host.write register value bus).hardware =
      (file.contents bus.hardware).write register value := by
  rcases file.write register value bus.hardware with stored | ⟨control, reset⟩
  · exact stored
  · exact absurd (noReset control) reset

/-- Configuring writes both registers, whatever was in them and whatever a reset does. -/
theorem RegisterFile.contents_run_configure (mode : Mode) (divisor : UInt32)
    (bus : Bus Register σ κ) :
    file.contents (host.run (Usart.configure mode divisor) bus).hardware =
      ⟨modeValue mode, divisor⟩ := by
  let reset := host.write .control Control.resetBits bus
  let started := host.write .mode (modeValue mode) reset
  let divided := host.write .baudRate divisor started
  have enabled : file.contents (host.write .control Control.enableBits divided).hardware =
      file.contents divided.hardware :=
      file.contents_write .control _ (fun _ => by decide) divided
  have rated : file.contents divided.hardware =
      (file.contents started.hardware).write .baudRate divisor :=
    file.contents_write .baudRate divisor nofun started
  have moded : file.contents started.hardware =
      (file.contents reset.hardware).write .mode (modeValue mode) :=
    file.contents_write .mode (modeValue mode) nofun reset
  rw [moded] at rated
  exact enabled.trans rated

/-- The registers hold the settings of one configuration and not a bit besides. -/
structure Contents.Only (clockHz : UInt32) (mode : Mode) (baudHz : UInt32) (contents : Contents) :
    Prop where
  /-- Bus master, eight bits and clock output, with leading edge and idle level. -/
  mode : contents.mode.toNat = 14 + 2 ^ 6 * 3 + 2 ^ 18 +
    2 ^ 8 * mode.capturesOnLeadingEdge.toNat + 2 ^ 16 * mode.idlesHigh.toNat
  baudRate : contents.baudRate.toNat = clockHz.toNat / baudHz.toNat

theorem Contents.Only.unique {clockHz baudHz : UInt32} {mode : Mode} {contents other : Contents}
    (only : contents.Only clockHz mode baudHz) (otherOnly : other.Only clockHz mode baudHz) :
    contents = other := by
  have mode : contents.mode = other.mode :=
    UInt32.toNat_inj.1 (only.mode.trans otherOnly.mode.symm)
  have baudRate : contents.baudRate = other.baudRate :=
    UInt32.toNat_inj.1 (only.baudRate.trans otherOnly.baudRate.symm)
  cases contents
  cases other
  exact congrArg₂ Contents.mk mode baudRate

/-- The divisor is the clock divided by the baud rate, rounded down, if that is a legal one. -/
theorem divisor_eq_some_iff {clockHz baudHz count : UInt32} :
    divisor clockHz baudHz = some count ↔
      baudHz ≠ 0 ∧ count.toNat = clockHz.toNat / baudHz.toNat ∧
        1 ≤ count.toNat ∧ count.toNat ≤ 65535 := by
  rw [divisor, Option.ite_none_left_eq_some, legalDivisor_eq_some_iff]
  refine and_congr_right fun _ => and_congr_left' ?_
  rw [← UInt32.toNat_div, UInt32.toNat_inj]
  exact eq_comm

/-- A legal divisor is the clock divided by the baud rate, rounded down. -/
theorem divisor_eq_floor {clockHz baudHz count : UInt32}
    (legal : divisor clockHz baudHz = some count) :
    count.toNat = clockHz.toNat / baudHz.toNat :=
  (divisor_eq_some_iff.1 legal).2.1

theorem toNat_modeValue (mode : Mode) :
    (modeValue mode).toNat = 14 + 2 ^ 6 * 3 + 2 ^ 18 +
      2 ^ 8 * mode.capturesOnLeadingEdge.toNat + 2 ^ 16 * mode.idlesHigh.toNat := by
  obtain ⟨polarity, phase⟩ := mode
  cases polarity <;> cases phase <;> decide

variable {file}

theorem RegisterFile.only_of_call (drives : host.controller = Usart.controller)
    {bus after : Bus Register σ κ} {device : Device} {mode : Mode} {baudHz : UInt32}
    (result : host.call bus (.configure device mode baudHz) = some (.outcome (.ok ()), after)) :
    (file.contents after.hardware).Only host.clockHz mode baudHz := by
  obtain ⟨divisor, legal, hardware, _⟩ := Host.configured_of_call result
  rw [drives] at legal hardware
  have contents := file.contents_run_configure mode divisor bus
  rw [hardware]
  exact contents ▸ ⟨toNat_modeValue mode, divisor_eq_floor legal⟩

end Usart

/-! ## Two runs -/

/-- **Configuring a device forgets what came before.**  Let a device be configured in two
runs with the same clock, on buses that have come to any state by any calls.  On standard
controllers whose registers a reset clears, the mode register and all four slots are then
equal in both runs and hold the settings of the device and not a bit besides.  On USARTs
whose registers store what is written, the mode register and the divisor register are
equal as soon as mode and baud rate are, even for different devices. -/
theorem configure_history_independent :
    (∀ {host : Host Standard.Register σ κ} {other : Host Standard.Register τ ι}
      (file : Standard.RegisterFile host.hardware)
      (otherFile : Standard.RegisterFile other.hardware)
      {bus after : Bus Standard.Register σ κ} {otherBus otherAfter : Bus Standard.Register τ ι}
      (settings : Settings),
      host.controller = Standard.controller → other.controller = Standard.controller →
      file.Clears → otherFile.Clears → host.clockHz = other.clockHz →
      host.call bus (.configure settings.device settings.mode settings.baudHz) =
        some (.outcome (.ok ()), after) →
      other.call otherBus (.configure settings.device settings.mode settings.baudHz) =
        some (.outcome (.ok ()), otherAfter) →
      file.contents after.hardware = otherFile.contents otherAfter.hardware ∧
        (file.contents after.hardware).Only host.clockHz settings ∧
        after.stage = .configured ∧ otherAfter.stage = .configured) ∧
    (∀ {host : Host Usart.Register σ κ} {other : Host Usart.Register τ ι}
      (file : Usart.RegisterFile host.hardware) (otherFile : Usart.RegisterFile other.hardware)
      {bus after : Bus Usart.Register σ κ} {otherBus otherAfter : Bus Usart.Register τ ι}
      (device otherDevice : Device) (mode : Mode) (baudHz : UInt32),
      host.controller = Usart.controller → other.controller = Usart.controller →
      host.clockHz = other.clockHz →
      host.call bus (.configure device mode baudHz) = some (.outcome (.ok ()), after) →
      other.call otherBus (.configure otherDevice mode baudHz) =
        some (.outcome (.ok ()), otherAfter) →
      file.contents after.hardware = otherFile.contents otherAfter.hardware ∧
        (file.contents after.hardware).Only host.clockHz mode baudHz) := by
  constructor
  · intro host other file otherFile bus after otherBus otherAfter settings drives otherDrives
      clears otherClears clock configured otherConfigured
    obtain ⟨only, stage⟩ := Standard.RegisterFile.only_of_call drives clears configured
    obtain ⟨otherOnly, otherStage⟩ :=
      Standard.RegisterFile.only_of_call otherDrives otherClears otherConfigured
    exact ⟨only.unique (clock ▸ otherOnly), only, stage, otherStage⟩
  · intro host other file otherFile bus after otherBus otherAfter device otherDevice mode baudHz
      drives otherDrives clock configured otherConfigured
    have only := file.only_of_call drives configured
    have otherOnly := otherFile.only_of_call otherDrives otherConfigured
    exact ⟨only.unique (clock ▸ otherOnly), only⟩

/-! ## A device that shares its slot -/

/-- Hardware that consists of the two registers and forgets nothing. -/
def Usart.Contents.ideal : Hardware Usart.Register Usart.Contents where
  enable := id
  read := fun register contents => ((contents.read? register).getD 0, contents)
  write := fun register value contents => contents.write register value
  address := fun _ _ => 0
  now := fun contents => (0, contents)
  command := fun _ => id
  elapse := fun _ => id

/-- Such hardware is its own register file. -/
def Usart.Contents.registerFile : Usart.RegisterFile Usart.Contents.ideal where
  contents := id
  value := fun register contents value holds => by
    have same : contents.read? register = some value := holds
    simp [ideal, same]
  write := fun _ _ _ => .inl rfl

/-- A host on a USART that is such hardware. -/
def Usart.idealHost : Host Usart.Register Usart.Contents Unit where
  controller := Usart.controller
  hardware := Usart.Contents.ideal
  lines := .recorded

/-- A device is configured on registers that hold the settings of another one in its slot,
and on registers full of ones.  On a USART devices are configured on registers full of ones
and on cleared ones. -/
theorem configure_history_independent_ideal :
    (∃ after otherAfter,
      Standard.idealHost.call Standard.idealConfigured
          (.configure ⟨2, 0, .sixteen⟩ (.ofBits 0) 4000000) =
        some (.outcome (.ok ()), after) ∧
      Standard.idealHost.call Standard.idealUp
          (.configure ⟨2, 0, .sixteen⟩ (.ofBits 0) 4000000) =
        some (.outcome (.ok ()), otherAfter) ∧
      after.hardware = otherAfter.hardware ∧
      after.hardware.Only Standard.idealHost.clockHz
        ⟨⟨2, 0, .sixteen⟩, .ofBits 0, 4000000⟩) ∧
    ∃ after otherAfter,
      Usart.idealHost.call { hardware := ⟨0xFFFFFFFF, 0xFFFFFFFF⟩, lines := () }
          (.configure ⟨2, 0, .eight⟩ (.ofBits 0) 4000000) =
        some (.outcome (.ok ()), after) ∧
      Usart.idealHost.call { hardware := ⟨0, 0⟩, lines := () }
          (.configure ⟨6, 1, .eight⟩ (.ofBits 0) 4000000) =
        some (.outcome (.ok ()), otherAfter) ∧
      after.hardware = otherAfter.hardware ∧
      after.hardware.Only Usart.idealHost.clockHz (.ofBits 0) 4000000 := by
  constructor
  · have configured : Standard.idealHost.call Standard.idealConfigured
        (.configure ⟨2, 0, .sixteen⟩ (.ofBits 0) 4000000) = some (.outcome (.ok ()), _) := rfl
    have otherConfigured : Standard.idealHost.call Standard.idealUp
        (.configure ⟨2, 0, .sixteen⟩ (.ofBits 0) 4000000) = some (.outcome (.ok ()), _) := rfl
    obtain ⟨same, only, _⟩ := configure_history_independent.1
      (Standard.Contents.registerFile 0x203) (Standard.Contents.registerFile 0x203)
      ⟨⟨2, 0, .sixteen⟩, .ofBits 0, 4000000⟩ rfl rfl (Standard.Contents.registerFile_clears 0x203)
      (Standard.Contents.registerFile_clears 0x203) rfl configured otherConfigured
    exact ⟨_, _, configured, otherConfigured, same, only⟩
  · have configured : Usart.idealHost.call { hardware := ⟨0xFFFFFFFF, 0xFFFFFFFF⟩, lines := () }
        (.configure ⟨2, 0, .eight⟩ (.ofBits 0) 4000000) = some (.outcome (.ok ()), _) := rfl
    have otherConfigured : Usart.idealHost.call { hardware := ⟨0, 0⟩, lines := () }
        (.configure ⟨6, 1, .eight⟩ (.ofBits 0) 4000000) = some (.outcome (.ok ()), _) := rfl
    obtain ⟨same, only⟩ := configure_history_independent.2
      Usart.Contents.registerFile Usart.Contents.registerFile ⟨2, 0, .eight⟩ ⟨6, 1, .eight⟩
      (.ofBits 0) 4000000 rfl rfl rfl configured otherConfigured
    exact ⟨_, _, configured, otherConfigured, same, only⟩

end SerialBus
