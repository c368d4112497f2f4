import Mathlib.Algebra.Group.Nat.Defs
import SerialBus.Register.Layout

/-!
# Reading a field that was written

A field reads back what was written to it, cut down to its width (`get_set_self`), and
keeps its value when a field apart from it is written (`get_set_of_apart`).  A field
is full exactly if it reads as all ones (`isFull_eq`), so the same two laws hold for
fields that are filled or cleared as a whole.  Each law is settled bit by bit.

A field that reads as zero adds what is written to it to the register taken as a number
(`toNat_set`), so a register that is filled field by field from zero is the sum of its
fields.
-/

set_option autoImplicit false

namespace SerialBus

@[simp] theorem testBit_and (a b : UInt32) (position : Nat) :
    testBit (a &&& b) position = (testBit a position && testBit b position) := by
  simp [testBit]

@[simp] theorem testBit_or (a b : UInt32) (position : Nat) :
    testBit (a ||| b) position = (testBit a position || testBit b position) := by
  simp [testBit]

@[simp] theorem testBit_not (a : UInt32) {position : Nat} (inWord : position < 32) :
    testBit (~~~a) position = !testBit a position := by
  simp [testBit, inWord]

@[simp] theorem testBit_zero (position : Nat) : testBit 0 position = false := by
  simp [testBit]

namespace Field

variable {field other : Field}

/-- Two fields have no bit in common. -/
def Apart (field other : Field) : Prop :=
  field.offset + field.width ≤ other.offset ∨ other.offset + other.width ≤ field.offset

instance (field other : Field) : Decidable (field.Apart other) :=
  inferInstanceAs (Decidable (_ ∨ _))

theorem get_set_self (field : Field) (value register : UInt32) :
    field.get (field.set value register) = value &&& field.ones := by
  have fits := field.fits
  apply eq_of_testBit_eq
  intro position _
  rw [testBit_get, testBit_and, testBit_ones]
  by_cases inside : position < field.width
  · have inWord : field.offset + position < 32 := by omega
    have place : field.offset ≤ field.offset + position ∧
        field.offset + position < field.offset + field.width := by omega
    rw [testBit_set field value register _ inWord, if_pos place, Nat.add_sub_cancel_left]
  · simp [inside]

theorem get_set_of_apart (apart : field.Apart other) (value register : UInt32) :
    field.get (other.set value register) = field.get register := by
  have fits := field.fits
  apply eq_of_testBit_eq
  intro position _
  rw [testBit_get, testBit_get]
  by_cases inside : position < field.width
  · have inWord : field.offset + position < 32 := by omega
    have outside : ¬ (other.offset ≤ field.offset + position ∧
        field.offset + position < other.offset + other.width) := by
      rcases apart with below | above <;> omega
    rw [testBit_set other value register _ inWord, if_neg outside]
  · simp [inside]

/-- A field is full exactly if each of its bits is set. -/
theorem isFull_iff (field : Field) (register : UInt32) :
    field.isFull register = true ↔
      ∀ position < field.width, testBit register (field.offset + position) = true := by
  have masked : field.isFull register = true ↔ register &&& field.mask = field.mask := by
    simp [isFull]
  rw [masked]
  constructor
  · intro same position inside
    have bits := congrArg (testBit · (field.offset + position)) same
    simpa [testBit_mask, inside] using bits
  · intro bits
    apply eq_of_testBit_eq
    intro position _
    rw [testBit_and, testBit_mask]
    by_cases inside : field.offset ≤ position ∧ position < field.offset + field.width
    · have place : field.offset + (position - field.offset) = position := by omega
      have bit := bits (position - field.offset) (by omega)
      rw [place] at bit
      simp [bit]
    · simp [inside]

/-- A field is full exactly if it reads as all ones. -/
theorem isFull_eq (field : Field) (register : UInt32) :
    field.isFull register = decide (field.get register = field.ones) := by
  refine Bool.eq_iff_iff.2 ?_
  rw [decide_eq_true_eq, isFull_iff]
  constructor
  · intro bits
    apply eq_of_testBit_eq
    intro position _
    rw [testBit_get, testBit_ones]
    by_cases inside : position < field.width
    · simp [inside, bits position inside]
    · simp [inside]
  · intro reads position inside
    have bit := congrArg (testBit · position) reads
    simpa [testBit_get, testBit_ones, inside] using bit

theorem isFull_set_of_apart (apart : field.Apart other) (value register : UInt32) :
    field.isFull (other.set value register) = field.isFull register := by
  rw [isFull_eq, isFull_eq, get_set_of_apart apart]

theorem isFull_fill_of_apart (apart : field.Apart other) (on : Bool) (register : UInt32) :
    field.isFull (other.fill on register) = field.isFull register :=
  isFull_set_of_apart apart _ register

theorem get_fill_of_apart (apart : field.Apart other) (on : Bool) (register : UInt32) :
    field.get (other.fill on register) = field.get register :=
  get_set_of_apart apart _ register

theorem isFull_fill_self (wide : 0 < field.width) (on : Bool) (register : UInt32) :
    field.isFull (field.fill on register) = on := by
  have ones : field.ones ≠ 0 := by
    intro zero
    have bit := congrArg (testBit · 0) zero
    simp [testBit_ones, wide] at bit
  rw [isFull_eq, fill, get_set_self]
  cases on with
  | false => simpa using ones.symm
  | true => simp

/-- A single bit is full exactly if it is set. -/
theorem isFull_bit {position : Nat} (inWord : position < 32) (register : UInt32) :
    (Field.bit position).isFull register = testBit register position := by
  have place : (Field.bit position).offset + 0 = position := Nat.mod_eq_of_lt inWord
  have width : (Field.bit position).width = 1 := rfl
  refine Bool.eq_iff_iff.2 ((isFull_iff _ _).trans ?_)
  simp only [width, Nat.lt_one_iff, forall_eq, place]

/-! Single bits of values to which other bits were added or from which they were taken. -/

section Bits

variable {position : Nat} {bits : UInt32} (inWord : position < 32) (value : UInt32)
include inWord

theorem isFull_or_of_set (set : testBit bits position = true) :
    (Field.bit position).isFull (value ||| bits) = true := by
  rw [isFull_bit inWord, testBit_or, set, Bool.or_true]

theorem isFull_or_of_unset (unset : testBit bits position = false) :
    (Field.bit position).isFull (value ||| bits) = (Field.bit position).isFull value := by
  rw [isFull_bit inWord, isFull_bit inWord, testBit_or, unset, Bool.or_false]

theorem isFull_withoutBits_of_set (set : testBit bits position = true) :
    (Field.bit position).isFull (withoutBits value bits) = false := by
  rw [isFull_bit inWord, withoutBits, testBit_and, testBit_not _ inWord, set]
  exact Bool.and_false _

theorem isFull_withoutBits_of_unset (unset : testBit bits position = false) :
    (Field.bit position).isFull (withoutBits value bits) =
      (Field.bit position).isFull value := by
  rw [isFull_bit inWord, isFull_bit inWord, withoutBits, testBit_and, testBit_not _ inWord,
    unset]
  exact Bool.and_true _

end Bits

/-! ## Registers as numbers -/

theorem toNat_ones (field : Field) : field.ones.toNat = 2 ^ field.width - 1 := by
  have small : 2 ^ field.width - 1 < 2 ^ 32 :=
    Nat.sub_one_lt_of_le (Nat.two_pow_pos _)
      (Nat.pow_le_pow_right (by decide) (by have := field.fits; omega))
  have cut : field.ones.toNat = (2 ^ field.width - 1) % 2 ^ 32 := by
    simp [ones, UInt32.toNat, BitVec.toNat_setWidth, BitVec.toNat_allOnes]
  rw [cut, Nat.mod_eq_of_lt small]

/-- A value that fits a field is not cut down. -/
theorem and_ones_of_fits {value : UInt32} (fits : value.toNat < 2 ^ field.width) :
    value &&& field.ones = value := by
  apply UInt32.toNat_inj.1
  rw [UInt32.toNat_and, toNat_ones]
  exact Nat.and_two_pow_sub_one_of_lt_two_pow fits

/-- A field that reads as zero has none of its bits set. -/
theorem testBit_of_get_eq_zero {register : UInt32} (empty : field.get register = 0)
    {position : Nat} (masked : testBit field.mask position = true) :
    testBit register position = false := by
  rw [testBit_mask, decide_eq_true_eq] at masked
  have place : field.offset + (position - field.offset) = position := by omega
  have inField : position - field.offset < field.width := by omega
  have bit := congrArg (testBit · (position - field.offset)) empty
  simpa [testBit_get, inField, place] using bit

section Empty

variable {value register : UInt32}

/-- The bits of a value moved into a field that is zero meet no bit of the register. -/
theorem and_shiftLeft_eq_zero (empty : field.get register = 0)
    (fits : value.toNat < 2 ^ field.width) :
    register.toBitVec &&& value.toBitVec <<< field.offset = 0#32 := by
  apply BitVec.eq_of_getLsbD_eq
  intro position _
  rw [BitVec.getLsbD_and, BitVec.getLsbD_shiftLeft]
  cases masked : testBit field.mask position with
  | true =>
      have unset : register.toBitVec.getLsbD position = false :=
        testBit_of_get_eq_zero empty masked
      simp [unset]
  | false =>
      -- a bit of the value outside the field would lie past its width
      rw [testBit_mask, decide_eq_false_iff_not] at masked
      by_cases above : position < field.offset
      · simp [above]
      · have past : ¬ position - field.offset < field.width := by omega
        have bit := congrArg (testBit · (position - field.offset)) (and_ones_of_fits fits)
        simp only [testBit_and, testBit_ones, past, decide_false, Bool.and_false] at bit
        have unset : value.toBitVec.getLsbD (position - field.offset) = false := bit.symm
        simp [unset]

/-- No bit of a value that fits a field is lost when it is moved there. -/
theorem toNat_shiftLeft (fits : value.toNat < 2 ^ field.width) :
    (value.toBitVec <<< field.offset).toNat = 2 ^ field.offset * value.toNat := by
  have inWord := field.fits
  have room : 2 ^ field.width * 2 ^ field.offset ≤ 2 ^ 32 := by
    rw [← Nat.pow_add]
    exact Nat.pow_le_pow_right (by decide) (by omega)
  have below : value.toNat * 2 ^ field.offset < 2 ^ 32 :=
    Nat.lt_of_lt_of_le ((Nat.mul_lt_mul_right (Nat.two_pow_pos _)).2 fits) room
  rw [BitVec.toNat_shiftLeft, Nat.shiftLeft_eq, Nat.mul_comm (2 ^ field.offset)]
  exact Nat.mod_eq_of_lt below

/-- Writing a field that was zero adds the value in the place of the field. -/
theorem toNat_set (empty : field.get register = 0) (fits : value.toNat < 2 ^ field.width) :
    (field.set value register).toNat = register.toNat + 2 ^ field.offset * value.toNat := by
  have kept : register &&& ~~~field.mask = register := by
    apply eq_of_testBit_eq
    intro position inWord
    rw [testBit_and, testBit_not _ inWord]
    cases masked : testBit field.mask position with
    | false => simp
    | true => simp [testBit_of_get_eq_zero empty masked]
  have joined : (field.set value register).toNat =
      (register.toBitVec ||| value.toBitVec <<< field.offset).toNat := by
    rw [set, kept, and_ones_of_fits fits]
    rfl
  have apart := and_shiftLeft_eq_zero empty fits
  rw [joined, ← BitVec.add_eq_or_of_and_eq_zero _ _ apart, BitVec.toNat_add_of_and_eq_zero apart,
    toNat_shiftLeft fits]
  rfl

end Empty

/-- Filling a single bit that was zero adds its place. -/
theorem toNat_fill_bit {position : Nat} (inWord : position < 32) {register : UInt32}
    (empty : (Field.bit position).get register = 0) (on : Bool) :
    ((Field.bit position).fill on register).toNat = register.toNat + 2 ^ position * on.toNat := by
  have place : (Field.bit position).offset = position := Nat.mod_eq_of_lt inWord
  have ones : (Field.bit position).ones.toNat = 1 := toNat_ones _
  rw [fill, toNat_set empty, place]
  · cases on with
    | false => rfl
    | true => simp [ones]
  · cases on with
    | false => exact Nat.two_pow_pos _
    | true => exact ones ▸ Nat.one_lt_two_pow Nat.one_ne_zero

end Field

end SerialBus
