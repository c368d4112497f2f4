import SerialBus.Controller.Standard.Basic
import SerialBus.Proofs.Fields

/-!
# The values that the standard controller is given

What the scripts of the standard controller leave in its registers, read field by
field.  The mode register of a controller that was brought up is that of a master
with nothing unwanted (`MasterOnly`), whatever was in it, and configuring and
selecting keep it so.  The select pattern of a device picks the slot of the device
(`pickedSlot?_patternOf`), and the slot holds its settings (`holds_slotSettings`) with
the least divisor that keeps the bus at or below the baud rate (`divisor_eq_ceil`).
-/

set_option autoImplicit false

namespace SerialBus

theorem toNat_pos_iff {number : UInt32} : 0 < number.toNat ↔ number ≠ 0 := by
  have zero : number.toNat = (0 : UInt32).toNat ↔ number = 0 := UInt32.toNat_inj
  rw [Nat.pos_iff_ne_zero]
  exact not_congr zero

namespace Standard

/-! ## The mode register -/

/-- Neither loopback nor variable selection nor the select decoder is on. -/
structure Plain (mode : UInt32) : Prop where
  loopback : ModeControl.loopback.isFull mode = false
  variableSelect : ModeControl.variableSelect.isFull mode = false
  decoder : ModeControl.decoder.isFull mode = false

/-- The mode of a master without mode faults and with nothing unwanted. -/
structure MasterOnly (mode : UInt32) : Prop extends Plain mode where
  master : ModeControl.master.isFull mode = true
  faultDetectionOff : ModeControl.faultDetectionOff.isFull mode = true

theorem plain_zero : Plain 0 := by
  constructor <;> decide

theorem isFull_select {field : Field} (apart : field.Apart ModeControl.pattern) (bits : UInt8)
    (value : UInt32) : field.isFull (ModeControl.select bits value) = field.isFull value :=
  Field.isFull_set_of_apart apart _ value

theorem MasterOnly.select {value : UInt32} (only : MasterOnly value) (bits : UInt8) :
    MasterOnly (ModeControl.select bits value) where
  loopback := (isFull_select (by decide) bits value).trans only.loopback
  variableSelect := (isFull_select (by decide) bits value).trans only.variableSelect
  decoder := (isFull_select (by decide) bits value).trans only.decoder
  master := (isFull_select (by decide) bits value).trans only.master
  faultDetectionOff := (isFull_select (by decide) bits value).trans only.faultDetectionOff

theorem Plain.masterOnly {value : UInt32} (plain : Plain value) :
    MasterOnly (value ||| ModeControl.masterBits) where
  loopback :=
    (Field.isFull_or_of_unset (by decide) value (by decide)).trans plain.loopback
  variableSelect :=
    (Field.isFull_or_of_unset (by decide) value (by decide)).trans plain.variableSelect
  decoder := (Field.isFull_or_of_unset (by decide) value (by decide)).trans plain.decoder
  master := Field.isFull_or_of_set (by decide) value (by decide)
  faultDetectionOff := Field.isFull_or_of_set (by decide) value (by decide)

/-- Bring-up makes a master of whatever was in the register. -/
theorem masterOnly_bringUp (value : UInt32) :
    MasterOnly (withoutBits (value ||| ModeControl.masterBits) ModeControl.unwantedBits) where
  loopback := Field.isFull_withoutBits_of_set (by decide) _ (by decide)
  variableSelect := Field.isFull_withoutBits_of_set (by decide) _ (by decide)
  decoder := Field.isFull_withoutBits_of_set (by decide) _ (by decide)
  master := (Field.isFull_withoutBits_of_unset (by decide) _ (by decide)).trans
    (Field.isFull_or_of_set (by decide) value (by decide))
  faultDetectionOff := (Field.isFull_withoutBits_of_unset (by decide) _ (by decide)).trans
    (Field.isFull_or_of_set (by decide) value (by decide))

/-! ## The select pattern -/

/-- The slot that a select pattern picks: the lowest of its zero bits. -/
def pickedSlot? (pattern : UInt8) : Option (Fin 4) :=
  (List.finRange 4).find? fun slot => pattern &&& (1 <<< UInt8.ofNat slot.val) = 0

theorem pickedSlot?_patternOf (id : UInt8) : pickedSlot? (patternOf id) = some (slotOf id) := by
  have picked : ∀ slot : Fin 4,
      pickedSlot? (~~~(1 <<< UInt8.ofNat slot.val) &&& noneSelected) = some slot := by decide
  exact picked (slotOf id)

/-- A select pattern that fits its field reads back. -/
theorem selected_select {bits : UInt8}
    (fits : (bits.toUInt32 &&& ModeControl.pattern.ones).toUInt8 = bits) (value : UInt32) :
    ModeControl.selected (ModeControl.select bits value) = bits := by
  rw [ModeControl.selected, ModeControl.select, Field.get_set_self]
  exact fits

theorem selected_select_patternOf (id : UInt8) (value : UInt32) :
    ModeControl.selected (ModeControl.select (patternOf id) value) = patternOf id := by
  have fits : ∀ slot : Fin 4,
      (((~~~(1 <<< UInt8.ofNat slot.val) &&& noneSelected).toUInt32 &&&
        ModeControl.pattern.ones).toUInt8 = ~~~(1 <<< UInt8.ofNat slot.val) &&& noneSelected) := by
    decide
  exact selected_select (fits (slotOf id)) value

theorem selected_select_noneSelected (value : UInt32) :
    ModeControl.selected (ModeControl.select noneSelected value) = noneSelected :=
  selected_select (by decide) value

/-! ## The slot of a device -/

/-- A slot holds the settings of a device. -/
structure Slot.Holds (value : UInt32) (device : Device) (mode : Mode) (divisor : UInt32) :
    Prop where
  width : Slot.width.get value = Slot.widthCode device.width
  divisor : Slot.divisor.get value = divisor
  polarity : Slot.polarity.isFull value = mode.idlesHigh
  leading : Slot.leading.isFull value = mode.capturesOnLeadingEdge

/-- A legal divisor is not cut when it is cast to eight bits. -/
theorem toUInt32_toUInt8 {divisor : UInt32} (legal : divisor.toNat ≤ 255) :
    divisor.toUInt8.toUInt32 = divisor := by
  apply UInt32.toNat_inj.1
  rw [UInt8.toNat_toUInt32, UInt32.toNat_toUInt8]
  exact Nat.mod_eq_of_lt (Nat.lt_succ_of_le legal)

theorem holds_slotSettings {device : Device} {mode : Mode} {divisor : UInt32}
    (legal : divisor.toNat ≤ 255) (value : UInt32) :
    Slot.Holds (SlotSetting.assignAll (slotSettings device mode divisor) value) device mode
      divisor := by
  have widthFits : Slot.widthCode device.width &&& Slot.width.ones =
      Slot.widthCode device.width := by cases device.width <;> decide
  have fits : divisor.toNat < 2 ^ Slot.divisor.width := Nat.lt_succ_of_le legal
  have divisorFits : divisor.toUInt8.toUInt32 &&& Slot.divisor.ones = divisor := by
    rw [toUInt32_toUInt8 legal]
    exact Field.and_ones_of_fits fits
  simp only [SlotSetting.assignAll, slotSettings, List.foldl_cons, List.foldl_nil,
    SlotSetting.assign]
  constructor
  · rw [Field.get_fill_of_apart (by decide), Field.get_fill_of_apart (by decide),
      Field.get_set_of_apart (by decide), Field.get_set_self, widthFits]
  · rw [Field.get_fill_of_apart (by decide), Field.get_fill_of_apart (by decide),
      Field.get_set_self, divisorFits]
  · rw [Field.isFull_fill_of_apart (by decide), Field.isFull_fill_self (by decide)]
  · rw [Field.isFull_fill_self (by decide)]

/-! ## Registers that were cleared -/

/-- The mode of a master over a cleared register: two bits, and zero at the place of the
device in the select pattern. -/
theorem toNat_select_masterBits (id : UInt8) :
    (ModeControl.select (patternOf id) (0 ||| ModeControl.masterBits)).toNat =
      2 ^ 0 + 2 ^ 4 + 2 ^ 16 * (15 - 2 ^ (id.toNat % 4)) := by
  have sum : ∀ slot : Fin 4,
      (ModeControl.select (~~~(1 <<< UInt8.ofNat slot.val) &&& noneSelected)
        (0 ||| ModeControl.masterBits)).toNat =
          2 ^ 0 + 2 ^ 4 + 2 ^ 16 * (15 - 2 ^ slot.val) := by decide
  exact sum (slotOf id)

/-- The settings of a device over a cleared slot, each at its place. -/
theorem toNat_slotSettings {device : Device} {mode : Mode} {divisor : UInt32}
    (legal : divisor.toNat ≤ 255) :
    (SlotSetting.assignAll (slotSettings device mode divisor) 0).toNat =
      2 ^ 4 * (device.width.bits.toNat - 8) + 2 ^ 8 * divisor.toNat +
        2 ^ 0 * mode.idlesHigh.toNat + 2 ^ 1 * mode.capturesOnLeadingEdge.toNat := by
  have code : (Slot.widthCode device.width).toNat = device.width.bits.toNat - 8 := by
    cases device.width <;> rfl
  have whole : divisor.toUInt8.toUInt32.toNat = divisor.toNat :=
    congrArg UInt32.toNat (toUInt32_toUInt8 legal)
  have codeFits : (Slot.widthCode device.width).toNat < 2 ^ Slot.width.width := by
    cases device.width <;> decide
  have divisorFits : divisor.toUInt8.toUInt32.toNat < 2 ^ Slot.divisor.width :=
    whole ▸ Nat.lt_succ_of_le legal
  have widthEmpty : Slot.width.get 0 = 0 := by decide
  have divisorEmpty :
      Slot.divisor.get (Slot.width.set (Slot.widthCode device.width) 0) = 0 := by
    rw [Field.get_set_of_apart (by decide)]
    decide
  have polarityEmpty : Slot.polarity.get (Slot.divisor.set divisor.toUInt8.toUInt32
      (Slot.width.set (Slot.widthCode device.width) 0)) = 0 := by
    rw [Field.get_set_of_apart (by decide), Field.get_set_of_apart (by decide)]
    decide
  have leadingEmpty : Slot.leading.get (Slot.polarity.fill mode.idlesHigh
      (Slot.divisor.set divisor.toUInt8.toUInt32
        (Slot.width.set (Slot.widthCode device.width) 0))) = 0 := by
    rw [Field.get_fill_of_apart (by decide), Field.get_set_of_apart (by decide),
      Field.get_set_of_apart (by decide)]
    decide
  simp only [SlotSetting.assignAll, slotSettings, List.foldl_cons, List.foldl_nil,
    SlotSetting.assign]
  rw [Slot.leading, Field.toNat_fill_bit (by decide) leadingEmpty, Slot.polarity,
    Field.toNat_fill_bit (by decide) polarityEmpty, Field.toNat_set divisorEmpty divisorFits,
    Field.toNat_set widthEmpty codeFits, code, whole, UInt32.toNat_zero, Nat.zero_add]
  rfl

/-! ## The divisor -/

/-- Division rounded up is division rounded down, and one more if that leaves a rest. -/
theorem add_pred_div (number : Nat) {step : Nat} (positive : 0 < step) :
    (number + step - 1) / step = number / step + if number % step = 0 then 0 else 1 := by
  have parts := Nat.div_add_mod number step
  have below := Nat.mod_lt number positive
  split
  next exact =>
    refine Nat.div_eq_of_lt_le ?_ ?_
    · rw [Nat.add_zero, Nat.mul_comm]
      omega
    · rw [Nat.add_zero, Nat.add_mul, Nat.mul_comm]
      omega
  next inexact =>
    refine Nat.div_eq_of_lt_le ?_ ?_
    · rw [Nat.add_mul, Nat.mul_comm]
      omega
    · rw [Nat.add_mul, Nat.add_mul, Nat.mul_comm]
      omega

/-- The quotient that is rounded up does not overflow. -/
theorem toNat_roundedUp {clockHz baudHz : UInt32} (nonzero : baudHz ≠ 0) :
    (clockHz / baudHz + if clockHz % baudHz = 0 then 0 else 1).toNat =
      (clockHz.toNat + baudHz.toNat - 1) / baudHz.toNat := by
  have positive := toNat_pos_iff.2 nonzero
  have remainder : clockHz % baudHz = 0 ↔ clockHz.toNat % baudHz.toNat = 0 := by
    rw [← UInt32.toNat_inj, UInt32.toNat_mod]
    rfl
  have small := clockHz.toNat_lt
  rw [add_pred_div _ positive, UInt32.toNat_add, UInt32.toNat_div]
  by_cases rest : clockHz.toNat % baudHz.toNat = 0
  · rw [if_pos (remainder.2 rest), if_pos rest, UInt32.toNat_zero, Nat.add_zero]
    exact Nat.mod_eq_of_lt (Nat.lt_of_le_of_lt (Nat.div_le_self ..) small)
  · -- a divisor of one leaves no rest, so the quotient is at most half of the clock
    have two : 2 ≤ baudHz.toNat := by
      refine Nat.lt_of_le_of_ne positive fun one => rest ?_
      rw [← one, Nat.mod_one]
    have half : clockHz.toNat / baudHz.toNat ≤ clockHz.toNat / 2 :=
      Nat.div_le_div_left two (by decide)
    rw [if_neg (mt remainder.1 rest), if_neg rest, UInt32.toNat_one]
    exact Nat.mod_eq_of_lt (by omega)

/-- The divisor is the clock divided by the baud rate, rounded up, if that is a legal one. -/
theorem divisor_eq_some_iff {clockHz baudHz count : UInt32} :
    divisor clockHz baudHz = some count ↔
      baudHz ≠ 0 ∧ count.toNat = (clockHz.toNat + baudHz.toNat - 1) / baudHz.toNat ∧
        1 ≤ count.toNat ∧ count.toNat ≤ 255 := by
  rw [divisor, Option.ite_none_left_eq_some, legalDivisor_eq_some_iff]
  refine and_congr_right fun nonzero => and_congr_left' ?_
  rw [← toNat_roundedUp nonzero, UInt32.toNat_inj]
  exact eq_comm

/-- A legal divisor is the clock divided by the baud rate, rounded up. -/
theorem divisor_eq_ceil {clockHz baudHz count : UInt32}
    (legal : divisor clockHz baudHz = some count) :
    count.toNat = (clockHz.toNat + baudHz.toNat - 1) / baudHz.toNat ∧
      1 ≤ count.toNat ∧ count.toNat ≤ 255 :=
  (divisor_eq_some_iff.1 legal).2

end Standard

end SerialBus
