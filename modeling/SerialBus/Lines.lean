/-!
# Chip-select lines

Chip-select lines are active low: a device is selected while its line is low.
The host only ever asks for a line to be driven to a level, and never learns
whether that worked; what driving does, and what can be seen of it, is up to the
lines.

Three kinds are defined.  `recorded` shows every drive, `absent` stands for
devices that need no line, and `pins` has one output pin per line, where a pin
may refuse a drive and keep its level, and a line without a pin does nothing.
-/

set_option autoImplicit false

namespace SerialBus

/-- The level of a line. -/
inductive Level where
  | low
  | high
  deriving DecidableEq, Repr

/-- The name of a level. -/
def Level.text : Level → String
  | .low => "low"
  | .high => "high"

/-- What can be seen of a drive. -/
inductive LineEvent where
  /-- A line was driven. -/
  | line (number : UInt8) (level : Level)
  /-- A pin was driven, and followed or refused. -/
  | pin (index : Nat) (level : Level) (followed : Bool)
  deriving DecidableEq, Repr

/-- What can be seen of a drive, written out. -/
def LineEvent.text : LineEvent → String
  | .line number level => "cs " ++ toString number.toNat ++ " " ++ level.text
  | .pin index level followed =>
      "pin " ++ toString index ++ " " ++ level.text ++ if followed then "" else " failed"

/-- Chip-select lines with state `κ`. -/
structure SelectLines (κ : Type) where
  drive : (number : UInt8) → Level → κ → κ × Option LineEvent

namespace SelectLines

/-- Lines that show every drive. -/
def recorded : SelectLines Unit where
  drive := fun number level _ => ((), some (.line number level))

/-- No lines at all. -/
def absent : SelectLines Unit where
  drive := fun _ _ _ => ((), none)

end SelectLines

/-! ## Output pins -/

/-- An output pin: its level if it was ever driven, and which drives it refuses,
given how many it has seen. -/
structure Pin where
  level : Option Level := none
  drives : Nat := 0
  refuses : Nat → Level → Bool := fun _ _ => false

namespace Pin

/-- A pin after a drive, which changes its level unless the pin refuses. -/
def drive (level : Level) (pin : Pin) : Pin :=
  { pin with
    level := if pin.refuses pin.drives level then pin.level else some level
    drives := pin.drives + 1 }

/-- Whether a pin follows its next drive to a level. -/
def follows (level : Level) (pin : Pin) : Bool :=
  !pin.refuses pin.drives level

end Pin

/-- One pin per line. -/
def SelectLines.pins : SelectLines (List Pin) where
  drive := fun number level pins =>
    match pins[number.toNat]? with
    | none => (pins, none)
    | some pin =>
        (pins.set number.toNat (pin.drive level),
          some (.pin number.toNat level (pin.follows level)))

end SerialBus
