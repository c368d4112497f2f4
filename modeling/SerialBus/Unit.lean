import SerialBus.Device

/-!
# Units and words

A controller moves units: sixteen bits, of which a narrow controller looks at
the low eight.  Callers hold words of the width they transfer.  A word enters a
unit unchanged and a unit is cut down to a word (`ofUnit_toUnit`), so a word
survives the round trip through a unit.  Where a caller has nothing to send, the
filler word goes out: all eight low bits set, in either width.
-/

set_option autoImplicit false

namespace SerialBus

namespace Width

/-- The words of a width. -/
abbrev Word : Width → Type
  | .eight => UInt8
  | .sixteen => UInt16

/-- The word sent when there is nothing to send. -/
def filler : (w : Width) → w.Word
  | .eight => (0xFF : UInt8)
  | .sixteen => (0x00FF : UInt16)

/-- The unit that carries a word. -/
def toUnit : (w : Width) → w.Word → UInt16
  | .eight, word => UInt8.toUInt16 word
  | .sixteen, word => word

/-- The word in the low bits of a unit. -/
def ofUnit : (w : Width) → UInt16 → w.Word
  | .eight, unit => UInt16.toUInt8 unit
  | .sixteen, unit => unit

theorem ofUnit_toUnit (w : Width) (word : w.Word) : w.ofUnit (w.toUnit word) = word := by
  cases w with
  | eight => exact UInt8.toUInt8_toUInt16 word
  | sixteen => rfl

theorem toUnit_filler (w : Width) : w.toUnit w.filler = 0xFF := by
  cases w <;> rfl

end Width

end SerialBus
