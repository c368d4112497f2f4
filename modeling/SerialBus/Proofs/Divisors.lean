import Mathlib.Order.Bounds.Basic
import SerialBus.Proofs.Reconfiguration
import SerialBus.Proofs.RegisterFrame
import SerialBus.Proofs.Setters

/-!
# Divisors are the best there are and arrive whole

The standard controller rounds its divisor up, so the bus is never faster than asked for,
and the USART rounds down, so the bus is never slower.  What is best is said without
rounding, of exact products (`Backend.Best`): the least divisor that is enough for the
clock, and the greatest that does not exceed it.  There is a divisor exactly if the best one
is within the limits of the controller (`Backend.divisor_eq_some_iff`).

Configuring a device writes the divisor to its register on any hardware.  A slot takes eight
bits of it, at a place between other fields; none is lost, and none of the fields beside it
is touched (`Standard.SlotWritten`).  A configuration fails for its baud rate exactly if there
is no divisor and it is not refused before (`Host.configure_eq_invalidBaudRate_iff`).
-/

set_option autoImplicit false

namespace SerialBus

variable {σ κ : Type}

/-! ## The best divisor -/

namespace Backend

/-- A number of clock cycles suits a baud rate best and is within the limits of a
backend. -/
def Best : Backend → (clock baud count : Nat) → Prop
  | .standard, clock, baud, count =>
      0 < clock ∧ 0 < baud ∧ 1 ≤ count ∧ count ≤ 255 ∧
        IsLeast {steps | 1 ≤ steps ∧ clock ≤ steps * baud} count
  | .usart, clock, baud, count =>
      0 < baud ∧ 1 ≤ count ∧ count ≤ 65535 ∧ IsGreatest {steps | steps * baud ≤ clock} count

variable {clock baud count : Nat}

/-- A quotient rounded up is the least number of steps that is enough. -/
theorem roundedUp_le_iff (positive : 0 < baud) :
    (clock + baud - 1) / baud ≤ count ↔ clock ≤ count * baud := by
  rw [Nat.div_le_iff_le_mul_add_pred positive, Nat.mul_comm]
  omega

theorem isLeast_roundedUp (running : 0 < clock) (positive : 0 < baud) :
    IsLeast {steps | 1 ≤ steps ∧ clock ≤ steps * baud} ((clock + baud - 1) / baud) := by
  constructor
  · have enough : clock ≤ (clock + baud - 1) / baud * baud :=
      (roundedUp_le_iff positive).1 (Nat.le_refl _)
    refine ⟨Nat.pos_of_ne_zero fun zero => ?_, enough⟩
    rw [zero, Nat.zero_mul] at enough
    omega
  · rintro steps ⟨_, enough⟩
    exact (roundedUp_le_iff positive).2 enough

theorem isGreatest_roundedDown (positive : 0 < baud) :
    IsGreatest {steps | steps * baud ≤ clock} (clock / baud) := by
  constructor
  · exact Nat.div_mul_le_self clock baud
  · intro steps within
    exact (Nat.le_div_iff_mul_le positive).2 within

theorem best_standard_iff :
    standard.Best clock baud count ↔
      0 < baud ∧ count = (clock + baud - 1) / baud ∧ 1 ≤ count ∧ count ≤ 255 := by
  constructor
  · rintro ⟨running, positive, least, most, best⟩
    exact ⟨positive, best.unique (isLeast_roundedUp running positive), least, most⟩
  · rintro ⟨positive, rfl, least, most⟩
    have running : 0 < clock := by
      refine Nat.pos_of_ne_zero fun zero => ?_
      have nothing : (clock + baud - 1) / baud ≤ 0 := (roundedUp_le_iff positive).2 (by omega)
      omega
    exact ⟨running, positive, least, most, isLeast_roundedUp running positive⟩

theorem best_usart_iff :
    usart.Best clock baud count ↔
      0 < baud ∧ count = clock / baud ∧ 1 ≤ count ∧ count ≤ 65535 := by
  constructor
  · rintro ⟨positive, least, most, best⟩
    exact ⟨positive, best.unique (isGreatest_roundedDown positive), least, most⟩
  · rintro ⟨positive, rfl, least, most⟩
    exact ⟨positive, least, most, isGreatest_roundedDown positive⟩

/-- The best divisor of either backend fits sixteen bits. -/
theorem Best.le {backend : Backend} (best : backend.Best clock baud count) : count ≤ 65535 := by
  cases backend with
  | standard => exact Nat.le_trans (best_standard_iff.1 best).2.2.2 (by decide)
  | usart => exact (best_usart_iff.1 best).2.2.2

/-! ## Divisors that a controller finds -/

variable {backend : Backend} {clockHz baudHz fasterHz divisor other : UInt32}

/-- A controller finds the best divisor and no other. -/
theorem divisor_eq_some_iff :
    backend.controller.divisor clockHz baudHz = some divisor ↔
      backend.Best clockHz.toNat baudHz.toNat divisor.toNat := by
  cases backend with
  | standard =>
      rw [best_standard_iff, toNat_pos_iff]
      exact Standard.divisor_eq_some_iff
  | usart =>
      rw [best_usart_iff, toNat_pos_iff]
      exact Usart.divisor_eq_some_iff

/-- A controller finds no divisor if there is no best one. -/
theorem divisor_eq_none_iff :
    backend.controller.divisor clockHz baudHz = none ↔
      ∀ count, ¬ backend.Best clockHz.toNat baudHz.toNat count := by
  rw [Option.eq_none_iff_forall_ne_some]
  constructor
  · intro unfound count best
    have whole : (UInt32.ofNat count).toNat = count :=
      UInt32.toNat_ofNat_of_lt' (Nat.lt_of_le_of_lt best.le (by decide))
    exact unfound (.ofNat count) (divisor_eq_some_iff.2 (whole.symm ▸ best))
  · intro unfit divisor found
    exact unfit _ (divisor_eq_some_iff.1 found)

/-- The standard controller finds no divisor if no legal one is enough for the clock. -/
theorem standard_divisor_eq_none_iff :
    standard.controller.divisor clockHz baudHz = none ↔
      clockHz = 0 ∨ baudHz = 0 ∨
        ∀ steps, 1 ≤ steps → steps ≤ 255 → ¬ clockHz.toNat ≤ steps * baudHz.toNat := by
  rw [divisor_eq_none_iff]
  constructor
  · intro unfit
    by_cases stopped : clockHz = 0
    · exact .inl stopped
    by_cases zero : baudHz = 0
    · exact .inr (.inl zero)
    refine .inr (.inr fun steps _ most enough => ?_)
    have positive := toNat_pos_iff.2 zero
    have least := isLeast_roundedUp (toNat_pos_iff.2 stopped) positive
    have few := (roundedUp_le_iff positive).2 enough
    exact unfit _ (best_standard_iff.2 ⟨positive, rfl, least.1.1, Nat.le_trans few most⟩)
  · rintro hopeless count ⟨running, positive, least, most, best⟩
    rcases hopeless with rfl | rfl | short
    · cases running
    · cases positive
    · exact short count least most best.1.2

/-- A faster bus has a divisor that is not greater. -/
theorem divisor_antitone (faster : baudHz ≤ fasterHz)
    (found : backend.controller.divisor clockHz baudHz = some divisor)
    (foundFaster : backend.controller.divisor clockHz fasterHz = some other) :
    other ≤ divisor := by
  have rates := UInt32.le_iff_toNat_le.1 faster
  apply UInt32.le_iff_toNat_le.2
  have best := divisor_eq_some_iff.1 found
  have bestFaster := divisor_eq_some_iff.1 foundFaster
  cases backend with
  | standard =>
      obtain ⟨_, _, least, _, ⟨_, enough⟩, _⟩ := best
      obtain ⟨_, _, _, _, _, lower⟩ := bestFaster
      exact lower ⟨least, Nat.le_trans enough (Nat.mul_le_mul_left _ rates)⟩
  | usart =>
      obtain ⟨_, _, _, _, upper⟩ := best
      obtain ⟨_, _, _, within, _⟩ := bestFaster
      exact upper (Nat.le_trans (Nat.mul_le_mul_left _ rates) within)

/-- Rounding up and rounding down differ by one at most, and not at all exactly if there is
nothing to round. -/
theorem divisors_close (up : standard.controller.divisor clockHz baudHz = some divisor)
    (down : usart.controller.divisor clockHz baudHz = some other) :
    other.toNat ≤ divisor.toNat ∧ divisor.toNat ≤ other.toNat + 1 ∧
      (divisor = other ↔ baudHz.toNat ∣ clockHz.toNat) := by
  obtain ⟨running, positive, least, _, ⟨_, enough⟩, lower⟩ := divisor_eq_some_iff.1 up
  obtain ⟨_, _, _, within, upper⟩ := divisor_eq_some_iff.1 down
  have ordered : other.toNat ≤ divisor.toNat :=
    Nat.le_of_mul_le_mul_right (Nat.le_trans within enough) positive
  refine ⟨ordered, ?_, ?_, ?_⟩
  · have past : ¬ (other.toNat + 1) * baudHz.toNat ≤ clockHz.toNat :=
      fun within => Nat.not_succ_le_self _ (upper within)
    exact lower ⟨Nat.le_add_left .., Nat.le_of_not_le past⟩
  · rintro rfl
    exact ⟨divisor.toNat, by rw [Nat.mul_comm]; exact Nat.le_antisymm enough within⟩
  · rintro ⟨count, exactly⟩
    rw [Nat.mul_comm] at exactly
    have one : 1 ≤ count := by
      refine Nat.pos_of_ne_zero fun zero => ?_
      rw [zero, Nat.zero_mul] at exactly
      exact absurd exactly (Nat.ne_of_gt running)
    have above : divisor.toNat ≤ count := lower ⟨one, Nat.le_of_eq exactly⟩
    have below : count ≤ other.toNat := upper (Nat.le_of_eq exactly.symm)
    exact UInt32.toNat_inj.1 (Nat.le_antisymm (Nat.le_trans above below) ordered)

end Backend

/-! ## Divisors that arrive -/

namespace Standard

/-- What the configuration of a device does to its slot: the slot is read once and written
once.  The value written holds the settings of the device, the divisor as a whole among
them, and every other field has the bits that were read. -/
structure SlotWritten (device : Device) (mode : Mode) (divisor old value : UInt32)
    (events : List (Event Register)) : Prop extends Slot.Holds value device mode divisor where
  read : .read (.settings (slotOf device.id)) old ∈ events
  written : Trace.written (.settings (slotOf device.id)) events = [value]
  rest : ∀ named ∈ Slot.layout.fields,
    named.2 ∉ [Slot.width, Slot.divisor, Slot.polarity, Slot.leading] →
      named.2.get value = named.2.get old

/-- Settings of a device leave the other fields of its slot alone. -/
theorem get_slotSettings {device : Device} {mode : Mode} {divisor : UInt32} (old : UInt32)
    {named : String × Field} (member : named ∈ Slot.layout.fields)
    (other : named.2 ∉ [Slot.width, Slot.divisor, Slot.polarity, Slot.leading]) :
    named.2.get (SlotSetting.assignAll (slotSettings device mode divisor) old) =
      named.2.get old := by
  refine SlotSetting.independent.keeps_unset _ old named member fun setting inSettings same => ?_
  refine other (same ▸ ?_)
  simp only [slotSettings, List.mem_cons, List.not_mem_nil, or_false] at inSettings
  rcases inSettings with rfl | rfl | rfl | rfl <;> simp [SlotSetting.field]

variable {host : Host Register σ κ} {bus after : Bus Register σ κ} {device : Device} {mode : Mode}
  {baudHz : UInt32}

/-- The script that configures a device puts the divisor into the slot as it is, between
fields that are kept. -/
theorem run_configure_writes (device : Device) (mode : Mode) {divisor : UInt32}
    (legal : divisor.toNat ≤ 255) (bus : Bus Register σ κ) :
    ∃ old value events,
      (host.run (Standard.configure device mode divisor) bus).trace = bus.trace ++ events ∧
      SlotWritten device mode divisor old value events ∧
      ∀ file : RegisterFile host.hardware,
        (file.contents (host.run (Standard.configure device mode divisor) bus).hardware).settings
          (slotOf device.id) = value := by
  let started := host.access bus (.write .control Control.reset.mask)
  let master := fun value =>
    ModeControl.select (patternOf device.id) (value ||| ModeControl.masterBits)
  let mastered := host.access started (.modify .mode master)
  let old := (host.hardware.read (.settings (slotOf device.id)) mastered.hardware).1
  let value := SlotSetting.assignAll (slotSettings device mode divisor) old
  refine ⟨old, value, _, host.run_trace bus (configure device mode divisor), ?_, ?_⟩
  · have events : host.hardware.eventsOfScript bus.hardware (configure device mode divisor) =
        [.write .control Control.reset.mask,
          .read .mode (host.hardware.read .mode started.hardware).1,
          .write .mode (master (host.hardware.read .mode started.hardware).1),
          .read (.settings (slotOf device.id)) old, .write (.settings (slotOf device.id)) value,
          .write .control Control.enable.mask] := rfl
    rw [events]
    exact {
      toHolds := holds_slotSettings legal old
      read := by simp
      written := by simp [Trace.written]
      rest := fun named member other => get_slotSettings old member other }
  · intro file
    have reads : old = (file.contents mastered.hardware).settings (slotOf device.id) :=
      file.value (.settings (slotOf device.id)) mastered.hardware _ rfl
    have kept : file.contents mastered.hardware = (file.contents started.hardware).write .mode _ :=
      file.contents_modify rfl master
    rw [kept] at reads
    rw [file.contents_run_configure_eq]
    simp only [Contents.configured, Contents.write, Function.update_self]
    exact congrArg (SlotSetting.assignAll _) reads.symm

/-- A divisor arrives in the slot of the device that is configured. -/
theorem configure_writes (drives : host.controller = Standard.controller)
    (configured : host.configure device mode baudHz bus = (.ok (), after)) :
    ∃ divisor old value events, Standard.divisor host.clockHz baudHz = some divisor ∧
      divisor ≠ 0 ∧ divisor.toUInt8.toUInt32 = divisor ∧ after.trace = bus.trace ++ events ∧
      SlotWritten device mode divisor old value events ∧
      ∀ file : RegisterFile host.hardware,
        (file.contents after.hardware).settings (slotOf device.id) = value := by
  obtain ⟨divisor, legal, rfl⟩ := Host.after_configure configured
  rw [drives] at legal ⊢
  obtain ⟨_, _, least, most⟩ := divisor_eq_some_iff.1 legal
  obtain ⟨old, value, events, trace, written, holds⟩ :=
    @run_configure_writes σ κ host device mode divisor most bus
  exact ⟨divisor, old, value, events, legal, toNat_pos_iff.1 least, toUInt32_toUInt8 most, trace,
    written, holds⟩

end Standard

namespace Usart

variable {host : Host Register σ κ} {bus after : Bus Register σ κ} {device : Device} {mode : Mode}
  {baudHz : UInt32}

/-- A divisor arrives in the divisor register of the USART. -/
theorem configure_writes (drives : host.controller = Usart.controller)
    (configured : host.configure device mode baudHz bus = (.ok (), after)) :
    ∃ divisor events, Usart.divisor host.clockHz baudHz = some divisor ∧ divisor ≠ 0 ∧
      after.trace = bus.trace ++ events ∧ Trace.written .baudRate events = [divisor] ∧
      ∀ file : RegisterFile host.hardware,
        (file.contents after.hardware).baudRate = divisor := by
  obtain ⟨divisor, legal, rfl⟩ := Host.after_configure configured
  rw [drives] at legal ⊢
  obtain ⟨_, _, least, _⟩ := divisor_eq_some_iff.1 legal
  have trace := host.run_trace bus (Usart.configure mode divisor)
  refine ⟨divisor, _, legal, toNat_pos_iff.1 least, trace, rfl, fun file => ?_⟩
  exact congrArg Contents.baudRate (file.contents_run_configure mode divisor bus)

/-- Bringing up a USART gives it the divisor of its initial rate, or the greatest one. -/
theorem bringUp_writes (drives : host.controller = Usart.controller) (bits : UInt32)
    (down : bus.up = false) :
    ∃ events, (host.bringUp bits bus).2.trace = bus.trace ++ events ∧
      Trace.written .baudRate events = [(Usart.divisor host.clockHz 1000000).getD 65535] := by
  have raised : (host.bringUp bits bus).2.trace =
      (host.run (Usart.bringUp host.clockHz) bus).trace := by
    rw [Host.bringUp, drives, down]
    rfl
  exact ⟨_, raised.trans (host.run_trace bus (Usart.bringUp host.clockHz)), rfl⟩

end Usart

namespace Host

variable {ρ : Type} {host : Host ρ σ κ} {bus : Bus ρ σ κ} {device : Device} {mode : Mode}
  {baudHz other : UInt32}

/-- Only a strict host refuses to configure a device, on a bus that is not up or not free. -/
theorem refusal_configureBreach_eq_none :
    host.refusal bus.configureBreach = none ↔
      (host.discipline = .strict → bus.up = true ∧ bus.stage.engaged = false) := by
  rw [refusal]
  cases host.discipline with
  | permissive => simp
  | strict => cases up : bus.up <;> simp [Bus.configureBreach, up]

/-- A configuration fails for its baud rate exactly if it is not refused and there is no
divisor. -/
theorem configure_eq_invalidBaudRate_iff :
    (host.configure device mode baudHz bus).1 = .error (.invalidBaudRate other) ↔
      other = baudHz ∧ host.controller.divisor host.clockHz baudHz = none ∧
        (host.discipline = .strict → bus.up = true ∧ bus.stage.engaged = false) := by
  rw [← refusal_configureBreach_eq_none, configure]
  cases allowed : host.refusal bus.configureBreach with
  | some failure =>
      obtain ⟨breach, _, rfl⟩ := outOfOrder_of_refusal allowed
      simp
  | none =>
      cases found : host.controller.divisor host.clockHz baudHz with
      | some divisor => simp
      | none =>
          simp only [Except.error.injEq, Failure.invalidBaudRate.injEq, and_true]
          exact eq_comm

end Host

/-! ## Everything about divisors -/

/-- **Divisors are the best there are and arrive whole.**  A controller finds the best divisor
for a clock and a baud rate, and none exactly if there is no best one within its limits; for
the standard controller that is if clock or baud rate is zero or no legal number of steps is
enough.  A faster bus has no greater divisor, and where both controllers find one, the two
differ by one at most and are equal exactly if the baud rate divides the clock.

A configuration that succeeds writes the divisor, which is not zero, once to the slot of the
device or to the divisor register of the USART, and registers that read as last written hold it
afterwards.  The cast to eight bits loses none of it, and the fields beside it are those of
the device or as they were.  A USART starts with the divisor of its initial rate, or else with
the greatest one.  A configuration fails for its baud rate exactly if there is no divisor and
it is not refused before, as a strict host does while the bus is not up or not free. -/
theorem divisors_exact :
    (∀ (backend : Backend) (clockHz baudHz divisor : UInt32),
      backend.controller.divisor clockHz baudHz = some divisor ↔
        backend.Best clockHz.toNat baudHz.toNat divisor.toNat) ∧
    (∀ (backend : Backend) (clockHz baudHz : UInt32),
      backend.controller.divisor clockHz baudHz = none ↔
        ∀ count, ¬ backend.Best clockHz.toNat baudHz.toNat count) ∧
    (∀ clockHz baudHz : UInt32, Standard.divisor clockHz baudHz = none ↔
      clockHz = 0 ∨ baudHz = 0 ∨
        ∀ steps, 1 ≤ steps → steps ≤ 255 → ¬ clockHz.toNat ≤ steps * baudHz.toNat) ∧
    (∀ (backend : Backend) (clockHz baudHz fasterHz divisor other : UInt32),
      baudHz ≤ fasterHz → backend.controller.divisor clockHz baudHz = some divisor →
      backend.controller.divisor clockHz fasterHz = some other → other ≤ divisor) ∧
    (∀ clockHz baudHz divisor other : UInt32, Standard.divisor clockHz baudHz = some divisor →
      Usart.divisor clockHz baudHz = some other →
      other.toNat ≤ divisor.toNat ∧ divisor.toNat ≤ other.toNat + 1 ∧
        (divisor = other ↔ baudHz.toNat ∣ clockHz.toNat)) ∧
    (∀ {host : Host Standard.Register σ κ} {bus after : Bus Standard.Register σ κ}
      {device : Device} {mode : Mode} {baudHz : UInt32},
      host.controller = Standard.controller →
      host.configure device mode baudHz bus = (.ok (), after) →
      ∃ divisor old value events, Standard.divisor host.clockHz baudHz = some divisor ∧
        divisor ≠ 0 ∧ divisor.toUInt8.toUInt32 = divisor ∧ after.trace = bus.trace ++ events ∧
        Standard.SlotWritten device mode divisor old value events ∧
        ∀ file : Standard.RegisterFile host.hardware,
          (file.contents after.hardware).settings (Standard.slotOf device.id) = value) ∧
    (∀ {host : Host Usart.Register σ κ} {bus after : Bus Usart.Register σ κ}
      {device : Device} {mode : Mode} {baudHz : UInt32},
      host.controller = Usart.controller →
      host.configure device mode baudHz bus = (.ok (), after) →
      ∃ divisor events, Usart.divisor host.clockHz baudHz = some divisor ∧ divisor ≠ 0 ∧
        after.trace = bus.trace ++ events ∧ Trace.written .baudRate events = [divisor] ∧
        ∀ file : Usart.RegisterFile host.hardware,
          (file.contents after.hardware).baudRate = divisor) ∧
    (∀ (host : Host Usart.Register σ κ) (bus : Bus Usart.Register σ κ) (bits : UInt32),
      host.controller = Usart.controller → bus.up = false →
      ∃ events, (host.bringUp bits bus).2.trace = bus.trace ++ events ∧
        Trace.written .baudRate events =
          [(Usart.divisor host.clockHz 1000000).getD 65535]) ∧
    (∀ {ρ : Type} {host : Host ρ σ κ} {bus : Bus ρ σ κ} {device : Device} {mode : Mode}
      {baudHz other : UInt32},
      (host.configure device mode baudHz bus).1 = .error (.invalidBaudRate other) ↔
        other = baudHz ∧ host.controller.divisor host.clockHz baudHz = none ∧
          (host.discipline = .strict → bus.up = true ∧ bus.stage.engaged = false)) := by
  refine ⟨?best, ?none, ?noneUp, ?antitone, ?close, ?slot, ?baudRate, ?bringUp, ?invalid⟩
  case best =>
    intro backend clockHz baudHz divisor
    exact Backend.divisor_eq_some_iff
  case none =>
    intro backend clockHz baudHz
    exact Backend.divisor_eq_none_iff
  case noneUp =>
    intro clockHz baudHz
    exact Backend.standard_divisor_eq_none_iff
  case antitone =>
    intro backend clockHz baudHz fasterHz divisor other faster found foundFaster
    exact Backend.divisor_antitone faster found foundFaster
  case close =>
    intro clockHz baudHz divisor other up down
    exact Backend.divisors_close up down
  case slot =>
    intro host bus after device mode baudHz drives configured
    exact Standard.configure_writes drives configured
  case baudRate =>
    intro host bus after device mode baudHz drives configured
    exact Usart.configure_writes drives configured
  case bringUp =>
    intro host bus bits drives down
    exact Usart.bringUp_writes drives bits down
  case invalid =>
    intro ρ host bus device mode baudHz other
    exact Host.configure_eq_invalidBaudRate_iff

/-- The greatest divisor arrives in a slot that was full of ones, and one of a USART in its
divisor register.  A baud rate that does not divide the clock has two divisors. -/
theorem divisors_exact_ideal :
    (∃ divisor value after,
      Standard.idealHost.configure ⟨6, 1, .eight⟩ (.ofBits 3) 330000 Standard.idealUp =
        (.ok (), after) ∧
      Standard.divisor 84000000 330000 = some divisor ∧ divisor ≠ 0 ∧
      Standard.Slot.Holds value ⟨6, 1, .eight⟩ (.ofBits 3) divisor ∧
      after.hardware.settings 2 = value) ∧
    (∃ divisor after,
      Usart.idealHost.configure ⟨2, 0, .eight⟩ (.ofBits 0) 5000000
          { hardware := ⟨0xFFFFFFFF, 0xFFFFFFFF⟩, lines := () } = (.ok (), after) ∧
      Usart.divisor 84000000 5000000 = some divisor ∧ divisor ≠ 0 ∧
      after.hardware.baudRate = divisor) ∧
    Trace.written .baudRate (Usart.idealHost.bringUp 8
      { hardware := ⟨0xFFFFFFFF, 0xFFFFFFFF⟩, lines := () }).2.trace = [84] ∧
    (Usart.divisor 84000000 1000000 = some 84 ∧ Usart.divisor 84000000 5000000 = some 16 ∧
      (16 : UInt32) ≤ 84) ∧
    (Standard.divisor 84000000 5000000 = some 17 ∧ Usart.divisor 84000000 5000000 = some 16 ∧
      ¬ (5000000 : UInt32).toNat ∣ (84000000 : UInt32).toNat) := by
  obtain ⟨-, -, -, antitone, close, slot, -⟩ := @divisors_exact Standard.Contents Unit
  obtain ⟨-, -, -, -, -, -, baudRate, bringUp, -⟩ := @divisors_exact Usart.Contents Unit
  have slow : Usart.divisor 84000000 1000000 = some 84 := by decide
  have fast : Usart.divisor 84000000 5000000 = some 16 := by decide
  have roundedUp : Standard.divisor 84000000 5000000 = some 17 := by decide
  have ordered : (16 : UInt32) ≤ 84 :=
    antitone .usart 84000000 1000000 5000000 84 16 (by decide) slow fast
  refine ⟨?_, ?_, ?_, ⟨slow, fast, ordered⟩, roundedUp, fast, ?_⟩
  · have configured : Standard.idealHost.configure ⟨6, 1, .eight⟩ (.ofBits 3) 330000
        Standard.idealUp = (.ok (), _) := rfl
    obtain ⟨divisor, old, value, events, found, nonzero, -, -, written, holds⟩ :=
      slot rfl configured
    exact ⟨divisor, value, _, configured, found, nonzero, written.toHolds,
      holds (Standard.Contents.registerFile 0x203)⟩
  · have configured : Usart.idealHost.configure ⟨2, 0, .eight⟩ (.ofBits 0) 5000000
        { hardware := ⟨0xFFFFFFFF, 0xFFFFFFFF⟩, lines := () } = (.ok (), _) := rfl
    obtain ⟨divisor, events, found, nonzero, -, -, holds⟩ := baudRate rfl configured
    exact ⟨divisor, _, configured, found, nonzero, holds Usart.Contents.registerFile⟩
  · obtain ⟨events, trace, written⟩ := bringUp Usart.idealHost
      { hardware := ⟨0xFFFFFFFF, 0xFFFFFFFF⟩, lines := () } 8 rfl rfl
    exact (congrArg (Trace.written .baudRate) trace).trans written
  · intro divides
    exact absurd ((close _ _ _ _ roundedUp fast).2.2.2 divides) (by decide)

end SerialBus
