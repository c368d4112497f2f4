/-!
# Bit fields of a register

A field is a run of neighbouring bits in a 32-bit register.  Reading a field
shifts its bits down to the bottom of the word; writing it replaces exactly
those bits and cuts a value that is too large down to the width of the field.

The view that settles every question about fields is the single bit: a bit of
`field.set value register` comes from the value when it lies inside the field
and from the register otherwise (`testBit_set`), and a bit of
`field.get register` is the bit of the register that lies as far above the
bottom of the field (`testBit_get`).
-/

set_option autoImplicit false

namespace SerialBus

/-- The bit of a register at a position. -/
def testBit (register : UInt32) (position : Nat) : Bool :=
  register.toBitVec.getLsbD position

/-- Two registers with the same bits are equal. -/
theorem eq_of_testBit_eq {a b : UInt32} (same : ∀ position < 32, testBit a position =
    testBit b position) : a = b := by
  apply UInt32.toBitVec_inj.1
  apply BitVec.eq_of_getLsbD_eq
  exact same

/-- A run of `width` bits whose lowest bit is the one at `offset`. -/
structure Field where
  offset : Nat
  width : Nat
  fits : offset + width ≤ 32
  deriving DecidableEq, Repr

namespace Field

/-- The field that is one bit; positions count around the register. -/
def bit (position : Nat) : Field where
  offset := position % 32
  width := 1
  fits := Nat.mod_lt position (by decide)

/-- The bits of a field, moved to the bottom of the word. -/
def ones (field : Field) : UInt32 :=
  ⟨(BitVec.allOnes field.width).setWidth 32⟩

/-- The bits of a field, in their place. -/
def mask (field : Field) : UInt32 :=
  ⟨field.ones.toBitVec <<< field.offset⟩

/-- The value a register holds in a field. -/
def get (field : Field) (register : UInt32) : UInt32 :=
  ⟨register.toBitVec >>> field.offset⟩ &&& field.ones

/-- A register with a field replaced by the low bits of a value. -/
def set (field : Field) (value register : UInt32) : UInt32 :=
  (register &&& ~~~field.mask) ||| ⟨(value &&& field.ones).toBitVec <<< field.offset⟩

/-- Whether every bit of a field is set. -/
def isFull (field : Field) (register : UInt32) : Bool :=
  register &&& field.mask = field.mask

/-- A register with every bit of a field set or cleared. -/
def fill (field : Field) (on : Bool) (register : UInt32) : UInt32 :=
  field.set (if on then field.ones else 0) register

/-! ## The bits of a field -/

theorem testBit_ones (field : Field) (position : Nat) :
    testBit field.ones position = decide (position < field.width) := by
  have fits := field.fits
  simp only [testBit, ones, BitVec.getLsbD_setWidth, BitVec.getLsbD_allOnes]
  by_cases inside : position < field.width
  · have : position < 32 := by omega
    simp [inside, this]
  · simp [inside]

theorem testBit_mask (field : Field) (position : Nat) :
    testBit field.mask position =
      decide (field.offset ≤ position ∧ position < field.offset + field.width) := by
  have fits := field.fits
  have low := testBit_ones field (position - field.offset)
  simp only [testBit] at low
  simp only [testBit, mask, BitVec.getLsbD_shiftLeft, low]
  by_cases inside : field.offset ≤ position ∧ position < field.offset + field.width
  · obtain ⟨above, below⟩ := inside
    have h₁ : position < 32 := by omega
    have h₂ : ¬ position < field.offset := by omega
    have h₃ : position - field.offset < field.width := by omega
    simp [h₁, h₂, h₃, above, below]
  · by_cases above : field.offset ≤ position
    · have h₃ : ¬ position - field.offset < field.width := by omega
      simp [h₃, inside]
    · simp [above, show position < field.offset by omega]

/-- A bit of a field that was read is a bit of the register. -/
theorem testBit_get (field : Field) (register : UInt32) (position : Nat) :
    testBit (field.get register) position =
      (testBit register (field.offset + position) && decide (position < field.width)) := by
  have low := testBit_ones field position
  simp only [testBit] at low
  simp only [testBit, get, UInt32.toBitVec_and, BitVec.getLsbD_and, BitVec.getLsbD_ushiftRight,
    low]

/-- A bit of a field that was written comes from the value inside the field and
from the register outside it. -/
theorem testBit_set (field : Field) (value register : UInt32) (position : Nat)
    (inWord : position < 32) :
    testBit (field.set value register) position =
      if field.offset ≤ position ∧ position < field.offset + field.width then
        testBit value (position - field.offset)
      else testBit register position := by
  have low := testBit_ones field (position - field.offset)
  have place := testBit_mask field position
  simp only [testBit] at low place
  simp only [testBit, set, UInt32.toBitVec_or, UInt32.toBitVec_and, UInt32.toBitVec_not,
    BitVec.getLsbD_or, BitVec.getLsbD_and, BitVec.getLsbD_not, BitVec.getLsbD_shiftLeft, place,
    low]
  by_cases inside : field.offset ≤ position ∧ position < field.offset + field.width
  · have h₂ : ¬ position < field.offset := by omega
    have h₃ : position - field.offset < field.width := by omega
    simp [inside, inWord, h₂, h₃]
  · by_cases above : field.offset ≤ position
    · have h₃ : ¬ position - field.offset < field.width := by omega
      simp [inside, inWord, h₃]
    · simp [above, inWord, show position < field.offset by omega]

end Field

end SerialBus
