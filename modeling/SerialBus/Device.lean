/-!
# Devices on a shared serial bus

A device is known to the host by three numbers: the controller's select number,
the chip-select line it hangs on, and the width of the units it exchanges.  The
clock it needs is a separate matter, because one device may be driven in several
modes: a mode is the idle level of the clock together with the edge on which
data is captured, and the conventional mode number reads the level from bit 1
and the edge from bit 0.

Both readings of a number are total.  A bit count other than sixteen means eight
bits (`Width.ofBits`), and all bits of a mode number above the lowest two are
ignored (`Mode.ofBits`); reading back what `bits` writes gives the same value
(`Width.ofBits_bits`, `Mode.ofBits_bits`).
-/

set_option autoImplicit false

namespace SerialBus

/-! ## Width of a unit -/

/-- How many bits one unit on the bus has. -/
inductive Width where
  | eight
  | sixteen
  deriving DecidableEq, Repr, Inhabited

namespace Width

/-- The width for a requested bit count; sixteen is the only wide one. -/
def ofBits (count : UInt32) : Width :=
  if count = 16 then .sixteen else .eight

/-- The bit count of a width. -/
def bits : Width → UInt32
  | .eight => 8
  | .sixteen => 16

/-- Widths are ordered by their bit count. -/
def order (a b : Width) : Ordering :=
  compare a.bits b.bits

/-- The narrower of two widths. -/
def narrower : Width → Width → Width
  | .sixteen, .sixteen => .sixteen
  | _, _ => .eight

/-- The name of a width. -/
def text : Width → String
  | .eight => "Eight"
  | .sixteen => "Sixteen"

theorem ofBits_bits (w : Width) : ofBits w.bits = w := by
  cases w <;> rfl

end Width

/-! ## Clock modes -/

/-- The level of the clock while the bus is idle. -/
inductive Polarity where
  | idleLow
  | idleHigh
  deriving DecidableEq, Repr

/-- The clock transition on which data is captured. -/
inductive Phase where
  | firstTransition
  | secondTransition
  deriving DecidableEq, Repr

/-- A clock mode: the idle level and the capturing transition. -/
structure Mode where
  polarity : Polarity
  phase : Phase
  deriving DecidableEq, Repr

namespace Polarity

/-- The name of an idle level. -/
def text : Polarity → String
  | .idleLow => "IdleLow"
  | .idleHigh => "IdleHigh"

end Polarity

namespace Phase

/-- The name of a capturing transition. -/
def text : Phase → String
  | .firstTransition => "CaptureOnFirstTransition"
  | .secondTransition => "CaptureOnSecondTransition"

end Phase

namespace Mode

/-- The mode with a given number; bit 1 is the idle level, bit 0 the transition. -/
def ofBits (number : UInt8) : Mode where
  polarity := if number &&& 2 = 0 then .idleLow else .idleHigh
  phase := if number &&& 1 = 0 then .firstTransition else .secondTransition

/-- The conventional number of a mode. -/
def bits (mode : Mode) : UInt8 :=
  (match mode.polarity with | .idleLow => 0 | .idleHigh => 2) |||
    (match mode.phase with | .firstTransition => 0 | .secondTransition => 1)

/-- Whether the clock rests at the high level. -/
def idlesHigh (mode : Mode) : Bool :=
  mode.polarity = .idleHigh

/-- Whether data is captured on the edge that leaves the idle level. -/
def capturesOnLeadingEdge (mode : Mode) : Bool :=
  mode.phase = .firstTransition

/-- The name of a mode. -/
def text (mode : Mode) : String :=
  "Mode" ++ toString mode.bits.toNat

theorem ofBits_bits (mode : Mode) : ofBits mode.bits = mode := by
  obtain ⟨polarity, phase⟩ := mode
  cases polarity <;> cases phase <;> rfl

end Mode

/-! ## Devices -/

/-- One device of the bus: its select number, its chip-select line and the
width of its units. -/
structure Device where
  id : UInt8
  line : UInt8
  width : Width
  deriving DecidableEq, Repr, Inhabited

namespace Device

/-- A device written out with its three fields. -/
def text (device : Device) : String :=
  "DeviceDescriptor \x7b id: " ++ toString device.id.toNat ++
    ", cs_line: " ++ toString device.line.toNat ++
    ", width: " ++ device.width.text ++ " \x7d"

end Device

end SerialBus
