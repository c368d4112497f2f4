import Mathlib.Data.List.Pairwise
import SerialBus.Controller.Standard.Layout
import SerialBus.Controller.Usart.Layout
import SerialBus.Proofs.Fields

/-!
# Settings of a register do not disturb each other

A register is filled by settings that are assigned one after another, each to a field of
its own.  No two fields of its layout share a bit (`Layout.Separate`), so it makes no
difference in which order different fields are assigned, or what was in them: a field
reads as the last setting of it says, and every bit outside the fields assigned is the bit
of the register from the start (`Independent`).

That holds of any settings which write codes to fields of a layout (`Setters`), and the
three registers that are filled in this way are made of such settings
(`settings_independent`).
-/

set_option autoImplicit false

namespace SerialBus

/-! ## Two writes -/

namespace Field

variable {field other : Field} {position : Nat}

/-- The bit at a position is one of the field. -/
def Covers (field : Field) (position : Nat) : Prop :=
  field.offset ≤ position ∧ position < field.offset + field.width

theorem Apart.symm (apart : field.Apart other) : other.Apart field :=
  Or.symm apart

theorem Apart.not_covers (apart : field.Apart other) (covers : field.Covers position) :
    ¬ other.Covers position := by
  intro otherCovers
  obtain ⟨above, below⟩ := covers
  obtain ⟨otherAbove, otherBelow⟩ := otherCovers
  rcases apart with left | right <;> omega

theorem testBit_set_of_covers (covers : field.Covers position) (value register : UInt32) :
    testBit (field.set value register) position = testBit value (position - field.offset) := by
  have inWord : position < 32 := Nat.lt_of_lt_of_le covers.2 field.fits
  rw [testBit_set field value register position inWord]
  exact if_pos covers

theorem testBit_set_of_not_covers (inWord : position < 32) (outside : ¬ field.Covers position)
    (value register : UInt32) :
    testBit (field.set value register) position = testBit register position := by
  rw [testBit_set field value register position inWord]
  exact if_neg outside

/-- Of two writes to a field the later one counts. -/
theorem set_set_self (field : Field) (value earlier register : UInt32) :
    field.set value (field.set earlier register) = field.set value register := by
  apply eq_of_testBit_eq
  intro position inWord
  by_cases covers : field.Covers position
  · rw [testBit_set_of_covers covers, testBit_set_of_covers covers]
  · rw [testBit_set_of_not_covers inWord covers, testBit_set_of_not_covers inWord covers,
      testBit_set_of_not_covers inWord covers]

/-- Writes to fields apart from each other can be made in either order. -/
theorem set_comm_of_apart (apart : field.Apart other) (value otherValue register : UInt32) :
    field.set value (other.set otherValue register) =
      other.set otherValue (field.set value register) := by
  apply eq_of_testBit_eq
  intro position inWord
  by_cases covers : field.Covers position
  · have outside := apart.not_covers covers
    rw [testBit_set_of_covers covers, testBit_set_of_not_covers inWord outside,
      testBit_set_of_covers covers]
  · rw [testBit_set_of_not_covers inWord covers]
    by_cases otherCovers : other.Covers position
    · rw [testBit_set_of_covers otherCovers, testBit_set_of_covers otherCovers]
    · rw [testBit_set_of_not_covers inWord otherCovers,
        testBit_set_of_not_covers inWord otherCovers, testBit_set_of_not_covers inWord covers]

end Field

/-! ## Settings in a row -/

/-- No two fields of a layout share a bit. -/
def Layout.Separate (layout : Layout) : Prop :=
  layout.fields.Pairwise fun named other => named.2.Apart other.2

instance (layout : Layout) : Decidable layout.Separate :=
  inferInstanceAs (Decidable (layout.fields.Pairwise _))

theorem Layout.Separate.apart {layout : Layout} (separate : layout.Separate)
    {named other : String × Field} (member : named ∈ layout.fields)
    (otherMember : other ∈ layout.fields) (differ : named.2 ≠ other.2) :
    named.2.Apart other.2 := by
  have symmetric : Std.Symm fun named other : String × Field => named.2.Apart other.2 :=
    ⟨fun _ _ apart => apart.symm⟩
  exact separate.forall member otherMember fun same => differ (congrArg Prod.snd same)

/-- Settings that do not disturb each other: what is left in a register when any of them
were assigned to it in any order.  Each setting is about a field of a layout. -/
structure Independent {α : Type} (layout : Layout) (field : α → Field)
    (assignAll : List α → UInt32 → UInt32) (Reads : α → UInt32 → Prop) : Prop where
  /-- A field reads as the last setting of it says. -/
  reads_last : ∀ before setting after register, (∀ later ∈ after, field later ≠ field setting) →
    Reads setting (assignAll (before ++ setting :: after) register)
  /-- A field of which there is no setting is as it was. -/
  keeps_unset : ∀ settings register, ∀ named ∈ layout.fields,
    (∀ setting ∈ settings, field setting ≠ named.2) →
      named.2.get (assignAll settings register) = named.2.get register
  /-- Every bit outside the fields that were set is as it was. -/
  keeps_outside : ∀ settings register, ∀ position < 32,
    (∀ setting ∈ settings, ¬ (field setting).Covers position) →
      testBit (assignAll settings register) position = testBit register position
  /-- Neighbours that set different fields can be swapped. -/
  commute : ∀ before setting other after register, field setting ≠ field other →
    assignAll (before ++ setting :: other :: after) register =
      assignAll (before ++ other :: setting :: after) register
  /-- A setting whose field is set once more later can be left out. -/
  overwritten : ∀ before setting after register, (∃ later ∈ after, field later = field setting) →
    assignAll (before ++ setting :: after) register = assignAll (before ++ after) register

/-- Settings of a register, each of which writes a code to one field of a layout. -/
structure Setters (α : Type) where
  layout : Layout
  separate : layout.Separate
  field : α → Field
  named : ∀ setting, ∃ name, (name, field setting) ∈ layout.fields
  code : α → UInt32

namespace Setters

variable {α : Type} (setters : Setters α)

/-- A register with one setting assigned. -/
def assign (setting : α) (register : UInt32) : UInt32 :=
  (setters.field setting).set (setters.code setting) register

/-- A register with settings assigned from first to last. -/
def assignAll (settings : List α) (register : UInt32) : UInt32 :=
  settings.foldl (fun register setting => setters.assign setting register) register

variable {setters} {settings : List α} {setting other : α}

theorem assignAll_append (before after : List α) (register : UInt32) :
    setters.assignAll (before ++ after) register =
      setters.assignAll after (setters.assignAll before register) :=
  List.foldl_append

theorem assignAll_cons (setting : α) (after : List α) (register : UInt32) :
    setters.assignAll (setting :: after) register =
      setters.assignAll after (setters.assign setting register) := rfl

/-- Settings that are assigned as those of a register, one after another, are assigned as
all of them are. -/
theorem foldl_eq_assignAll {assign : α → UInt32 → UInt32}
    (alike : ∀ setting register, assign setting register = setters.assign setting register) :
    (fun settings register =>
      settings.foldl (fun register setting => assign setting register) register) =
        setters.assignAll := by
  obtain rfl : assign = setters.assign := by
    funext setting register
    exact alike setting register
  rfl

/-- Settings of two fields are about fields that share no bit. -/
theorem apart_of_ne (differ : setters.field setting ≠ setters.field other) :
    (setters.field setting).Apart (setters.field other) := by
  obtain ⟨name, member⟩ := setters.named setting
  obtain ⟨otherName, otherMember⟩ := setters.named other
  exact setters.separate.apart member otherMember differ

theorem assign_comm (differ : setters.field setting ≠ setters.field other) (register : UInt32) :
    setters.assign setting (setters.assign other register) =
      setters.assign other (setters.assign setting register) :=
  Field.set_comm_of_apart (apart_of_ne differ) _ _ register

theorem assign_assign (same : setters.field other = setters.field setting) (register : UInt32) :
    setters.assign other (setters.assign setting register) = setters.assign other register := by
  simp only [assign, same]
  exact Field.set_set_self _ _ _ register

theorem get_assign_self (setting : α) (register : UInt32) :
    (setters.field setting).get (setters.assign setting register) =
      setters.code setting &&& (setters.field setting).ones :=
  Field.get_set_self _ _ register

/-- A field apart from all that are set is kept. -/
theorem get_assignAll {field : Field}
    (apart : ∀ setting ∈ settings, field.Apart (setters.field setting)) (register : UInt32) :
    field.get (setters.assignAll settings register) = field.get register := by
  induction settings generalizing register with
  | nil => rfl
  | cons setting after ih =>
      have rest : ∀ later ∈ after, field.Apart (setters.field later) :=
        fun later member => apart later (List.mem_cons_of_mem _ member)
      rw [assignAll_cons, ih rest]
      exact Field.get_set_of_apart (apart setting List.mem_cons_self) _ register

/-- A bit outside all fields that are set is kept. -/
theorem testBit_assignAll {position : Nat} (inWord : position < 32)
    (outside : ∀ setting ∈ settings, ¬ (setters.field setting).Covers position)
    (register : UInt32) :
    testBit (setters.assignAll settings register) position = testBit register position := by
  induction settings generalizing register with
  | nil => rfl
  | cons setting after ih =>
      have rest : ∀ later ∈ after, ¬ (setters.field later).Covers position :=
        fun later member => outside later (List.mem_cons_of_mem _ member)
      rw [assignAll_cons, ih rest]
      exact Field.testBit_set_of_not_covers inWord (outside setting List.mem_cons_self) _ register

/-- A setting leaves no trace once its field is set again. -/
theorem assignAll_assign (again : ∃ later ∈ settings, setters.field later = setters.field setting)
    (register : UInt32) :
    setters.assignAll settings (setters.assign setting register) =
      setters.assignAll settings register := by
  induction settings generalizing register with
  | nil => simp at again
  | cons first after ih =>
      rw [assignAll_cons, assignAll_cons]
      by_cases same : setters.field first = setters.field setting
      · rw [assign_assign same]
      · -- the setting that overwrites it comes later, so it moves past the first one
        obtain ⟨later, member, overwrites⟩ := again
        have inRest : later ∈ after := by
          rcases List.mem_cons.1 member with rfl | inRest
          · exact absurd overwrites same
          · exact inRest
        rw [assign_comm same]
        exact ih ⟨later, inRest, overwrites⟩ _

/-- Settings that write codes to the fields of a layout do not disturb each other. -/
theorem independent {Reads : α → UInt32 → Prop}
    (reads : ∀ setting register, (setters.field setting).get register =
      setters.code setting &&& (setters.field setting).ones → Reads setting register) :
    Independent setters.layout setters.field setters.assignAll Reads where
  reads_last := by
    intro before setting after register last
    apply reads
    have apart : ∀ later ∈ after, (setters.field setting).Apart (setters.field later) :=
      fun later member => apart_of_ne (last later member).symm
    rw [assignAll_append, assignAll_cons, get_assignAll apart]
    exact get_assign_self setting _
  keeps_unset := by
    intro settings register named member unset
    refine get_assignAll (fun setting inSettings => ?_) register
    obtain ⟨name, settingMember⟩ := setters.named setting
    exact setters.separate.apart member settingMember (unset setting inSettings).symm
  keeps_outside := by
    intro settings register position inWord outside
    exact testBit_assignAll inWord outside register
  commute := by
    intro before setting other after register differ
    rw [assignAll_append, assignAll_append, assignAll_cons, assignAll_cons, assignAll_cons,
      assignAll_cons, assign_comm differ]
  overwritten := by
    intro before setting after register again
    rw [assignAll_append, assignAll_append, assignAll_cons, assignAll_assign again]

end Setters

/-- A field that reads as all ones or as zero is full or not. -/
theorem Field.isFull_of_get {field : Field} (wide : 0 < field.width) {on : Bool}
    {register : UInt32}
    (reads : field.get register = (if on then field.ones else 0) &&& field.ones) :
    field.isFull register = on := by
  have filled := isFull_fill_self wide on register
  rw [isFull_eq, fill, get_set_self, ← reads, ← isFull_eq] at filled
  exact filled

/-! ## The slots of the standard controller -/

namespace Standard

namespace SlotSetting

/-- The field that a setting is about. -/
def field : SlotSetting → Field
  | .width _ => Slot.width
  | .divisor _ => Slot.divisor
  | .idlesHigh _ => Slot.polarity
  | .capturesOnLeadingEdge _ => Slot.leading

/-- What a setting writes to its field. -/
def code : SlotSetting → UInt32
  | .width units => Slot.widthCode units
  | .divisor count => count.toUInt32
  | .idlesHigh on => if on then Slot.polarity.ones else 0
  | .capturesOnLeadingEdge on => if on then Slot.leading.ones else 0

/-- A slot reads as a setting says.  Most codes of the width read as eight bits, so for the
width this is said of the code itself as well. -/
def Reads : SlotSetting → UInt32 → Prop
  | .width units, slot =>
      Slot.unitWidth slot = units ∧ Slot.width.get slot = Slot.widthCode units
  | .divisor count, slot => Slot.clockDivisor slot = count
  | .idlesHigh on, slot => Slot.idlesHigh slot = on
  | .capturesOnLeadingEdge on, slot => Slot.capturesOnLeadingEdge slot = on

/-- The settings of a slot write codes to its fields. -/
def setters : Setters SlotSetting where
  layout := Slot.layout
  separate := by decide
  field := field
  named := by
    intro setting
    cases setting with
    | width units => exact ⟨"BITS", (by decide : (_, Slot.width) ∈ Slot.layout.fields)⟩
    | divisor count => exact ⟨"SCBR", (by decide : (_, Slot.divisor) ∈ Slot.layout.fields)⟩
    | idlesHigh on => exact ⟨"CPOL", (by decide : (_, Slot.polarity) ∈ Slot.layout.fields)⟩
    | capturesOnLeadingEdge on =>
        exact ⟨"NCPHA", (by decide : (_, Slot.leading) ∈ Slot.layout.fields)⟩
  code := code

theorem assignAll_eq : assignAll = setters.assignAll := by
  apply Setters.foldl_eq_assignAll
  intro setting slot
  cases setting <;> rfl

theorem reads_of_get (setting : SlotSetting) (slot : UInt32)
    (reads : setting.field.get slot = setting.code &&& setting.field.ones) :
    setting.Reads slot := by
  cases setting with
  | width units =>
      have code : Slot.width.get slot = Slot.widthCode units :=
        reads.trans (by cases units <;> decide)
      refine ⟨?_, code⟩
      rw [Slot.unitWidth, code]
      cases units <;> decide
  | divisor count =>
      have fits : count.toUInt32.toNat < 2 ^ Slot.divisor.width := count.toNat_lt
      have whole : Slot.divisor.get slot = count.toUInt32 :=
        reads.trans (Field.and_ones_of_fits fits)
      change (Slot.divisor.get slot).toUInt8 = count
      rw [whole, UInt8.toUInt8_toUInt32]
  | idlesHigh on => exact Field.isFull_of_get (by decide) reads
  | capturesOnLeadingEdge on => exact Field.isFull_of_get (by decide) reads

theorem independent : Independent Slot.layout field assignAll Reads :=
  assignAll_eq ▸ setters.independent reads_of_get

end SlotSetting

/-! ## The select pattern -/

namespace ModeControl

/-- A mode value with select patterns put into it, from first to last. -/
def selectAll (patterns : List UInt8) (mode : UInt32) : UInt32 :=
  patterns.foldl (fun mode bits => select bits mode) mode

/-- A select pattern is written to its field as it is. -/
def setters : Setters UInt8 where
  layout := layout
  separate := by decide
  field := fun _ => pattern
  named := fun _ => ⟨"PCS", by decide⟩
  code := UInt8.toUInt32

theorem selected_of_get (bits : UInt8) (mode : UInt32)
    (reads : pattern.get mode = bits.toUInt32 &&& pattern.ones) :
    selected mode = bits &&& 0xF := by
  have ones : pattern.ones = 0xF := by decide
  rw [selected, reads, ones, UInt32.toUInt8_and, UInt8.toUInt8_toUInt32]
  rfl

theorem independent : Independent layout (fun _ => pattern) selectAll
    (fun bits mode => selected mode = bits &&& 0xF) :=
  setters.independent selected_of_get

end ModeControl

end Standard

/-! ## The mode register of the USART -/

namespace Usart.ModeSetting

/-- The field that a setting is about. -/
def field : ModeSetting → Field
  | .idlesHigh _ => ModeControl.polarity
  | .capturesOnLeadingEdge _ => ModeControl.leading

/-- What a setting writes to its field. -/
def code : ModeSetting → UInt32
  | .idlesHigh on => if on then ModeControl.polarity.ones else 0
  | .capturesOnLeadingEdge on => if on then ModeControl.leading.ones else 0

/-- A mode value reads as a setting says. -/
def Reads : ModeSetting → UInt32 → Prop
  | .idlesHigh on, mode => ModeControl.polarity.isFull mode = on
  | .capturesOnLeadingEdge on, mode => ModeControl.leading.isFull mode = on

/-- The settings of the mode register write codes to its fields. -/
def setters : Setters ModeSetting where
  layout := ModeControl.layout
  separate := by decide
  field := field
  named := by
    intro setting
    cases setting with
    | idlesHigh on =>
        exact ⟨"CPOL", (by decide : (_, ModeControl.polarity) ∈ ModeControl.layout.fields)⟩
    | capturesOnLeadingEdge on =>
        exact ⟨"CPHA", (by decide : (_, ModeControl.leading) ∈ ModeControl.layout.fields)⟩
  code := code

theorem assignAll_eq : assignAll = setters.assignAll := by
  apply Setters.foldl_eq_assignAll
  intro setting mode
  cases setting <;> rfl

theorem reads_of_get (setting : ModeSetting) (mode : UInt32)
    (reads : setting.field.get mode = setting.code &&& setting.field.ones) :
    setting.Reads mode := by
  cases setting with
  | idlesHigh on => exact Field.isFull_of_get (by decide) reads
  | capturesOnLeadingEdge on => exact Field.isFull_of_get (by decide) reads

theorem independent : Independent ModeControl.layout field assignAll Reads :=
  assignAll_eq ▸ setters.independent reads_of_get

end Usart.ModeSetting

/-! ## All registers that are filled field by field -/

/-- **Settings of a register do not disturb each other.**  This holds of the settings of a
slot, of the select patterns in the mode register of the standard controller, which are cut
to four bits, and of the settings of the mode register of the USART, assigned in any number
and any order to a register that holds anything.  Whatever code of a width was in a slot,
nothing is left of it when the width is set to eight bits. -/
theorem settings_independent :
    Independent Standard.Slot.layout Standard.SlotSetting.field Standard.SlotSetting.assignAll
      Standard.SlotSetting.Reads ∧
    Independent Standard.ModeControl.layout (fun _ => Standard.ModeControl.pattern)
      Standard.ModeControl.selectAll
      (fun bits mode => Standard.ModeControl.selected mode = bits &&& 0xF) ∧
    Independent Usart.ModeControl.layout Usart.ModeSetting.field Usart.ModeSetting.assignAll
      Usart.ModeSetting.Reads ∧
    ∀ slot position, Standard.Slot.width.Covers position →
      testBit (Standard.SlotSetting.assign (.width .eight) slot) position = false := by
  refine ⟨Standard.SlotSetting.independent, Standard.ModeControl.independent,
    Usart.ModeSetting.independent, ?_⟩
  intro slot position covers
  rw [Standard.SlotSetting.assign, Field.testBit_set_of_covers covers]
  exact testBit_zero _

/-- A slot full of ones is given a wide width, a divisor and a narrow width; the divisor and
the narrow width are read, and the hold bit beside them is still set. -/
theorem settings_independent_stale :
    let slot := Standard.SlotSetting.assignAll [.width .sixteen, .divisor 84, .width .eight]
      0xFFFFFFFF
    Standard.SlotSetting.Reads (.divisor 84) slot ∧
      Standard.SlotSetting.Reads (.width .eight) slot ∧
      Standard.Slot.hold.get slot = Standard.Slot.hold.get 0xFFFFFFFF := by
  have slots := settings_independent.1
  refine ⟨?_, ?_, ?_⟩
  · exact slots.reads_last [.width .sixteen] (.divisor 84) [.width .eight] 0xFFFFFFFF (by decide)
  · exact slots.reads_last [.width .sixteen, .divisor 84] (.width .eight) [] 0xFFFFFFFF (by decide)
  · exact slots.keeps_unset [.width .sixteen, .divisor 84, .width .eight] 0xFFFFFFFF
      ("CSAAT", Standard.Slot.hold) (by decide) (by decide)

end SerialBus
