import SerialBus.Register.Layout
import SerialBus.Device

/-!
# Registers of the standard controller

The standard controller has a control register, a mode register, two data
registers, a status register and four settings slots, one for each of its own
select outputs.  A device whose select number lies past the fourth output shares
the slot of a lower number (`slotOf`).

The fields of each register are listed in the order of their bits.  The settings
of a slot are assigned one by one (`SlotSetting`), and each assignment writes one
field.
-/

set_option autoImplicit false

namespace SerialBus

namespace Standard

/-! ## The register file -/

/-- The registers of the standard controller. -/
inductive Register where
  | control
  | mode
  | receive
  | transmit
  | status
  | settings (slot : Fin 4)
  deriving DecidableEq, Repr

namespace Register

/-- The distance of a register from the first one, in bytes. -/
def offset : Register → UInt64
  | .control => 0x00
  | .mode => 0x04
  | .receive => 0x08
  | .transmit => 0x0C
  | .status => 0x10
  | .settings slot => 0x30 + 4 * UInt64.ofNat slot.val

/-- The short name of a register. -/
def name : Register → String
  | .control => "CR"
  | .mode => "MR"
  | .receive => "RDR"
  | .transmit => "TDR"
  | .status => "SR"
  | .settings slot => "CSR" ++ toString slot.val

/-- A register written out as a value. -/
def text : Register → String
  | .control => "Cr"
  | .mode => "Mr"
  | .receive => "Rdr"
  | .transmit => "Tdr"
  | .status => "Sr"
  | .settings slot => "Csr(" ++ toString slot.val ++ ")"

end Register

/-! ## Control -/

namespace Control

def enable : Field := .bit 0
def disable : Field := .bit 1
def reset : Field := .bit 7
def lastTransfer : Field := .bit 24

/-- The fields of the control register. -/
def layout : Layout where
  name := "Cr"
  fields := [("SPIEN", enable), ("SPIDIS", disable), ("SWRST", reset), ("LASTXFER", lastTransfer)]

end Control

/-! ## Mode -/

namespace ModeControl

def master : Field := .bit 0
def variableSelect : Field := .bit 1
def decoder : Field := .bit 2
def faultDetectionOff : Field := .bit 4
def waitForRead : Field := .bit 5
def loopback : Field := .bit 7
def pattern : Field := ⟨16, 4, by decide⟩

/-- The fields of the mode register. -/
def layout : Layout where
  name := "Mr"
  fields := [("MSTR", master), ("PS", variableSelect), ("PCSDEC", decoder),
    ("MODFDIS", faultDetectionOff), ("WDRBT", waitForRead), ("LLB", loopback),
    ("PCS", pattern)]

/-- The select pattern that a mode value holds. -/
def selected (value : UInt32) : UInt8 :=
  (pattern.get value).toUInt8

/-- A mode value with its select pattern replaced. -/
def select (bits : UInt8) (value : UInt32) : UInt32 :=
  pattern.set bits.toUInt32 value

/-- Master of the bus, and no mode fault when another master shows up. -/
def masterBits : UInt32 :=
  master.mask ||| faultDetectionOff.mask

/-- Loopback, variable selection and the select decoder. -/
def unwantedBits : UInt32 :=
  loopback.mask ||| variableSelect.mask ||| decoder.mask

end ModeControl

/-! ## Status -/

namespace Status

def receiveFull : Field := .bit 0
def transmitEmpty : Field := .bit 1
def modeFault : Field := .bit 2
def overrun : Field := .bit 3
def selectRising : Field := .bit 8
def drained : Field := .bit 9
def enabled : Field := .bit 16

/-- The fields of the status register. -/
def layout : Layout where
  name := "Sr"
  fields := [("RDRF", receiveFull), ("TDRE", transmitEmpty), ("MODF", modeFault),
    ("OVRES", overrun), ("NSSR", selectRising), ("TXEMPTY", drained), ("SPIENS", enabled)]

end Status

/-! ## Transmit data -/

namespace TransmitData

def data : Field := ⟨0, 16, by decide⟩
def pattern : Field := ⟨16, 4, by decide⟩
def lastTransfer : Field := .bit 24

/-- The fields of the transmit register. -/
def layout : Layout where
  name := "Tdr"
  fields := [("TD", data), ("PCS", pattern), ("LASTXFER", lastTransfer)]

end TransmitData

/-! ## Settings slots -/

namespace Slot

def polarity : Field := .bit 0
def leading : Field := .bit 1
def noToggle : Field := .bit 2
def hold : Field := .bit 3
def width : Field := ⟨4, 4, by decide⟩
def divisor : Field := ⟨8, 8, by decide⟩
def delayBefore : Field := ⟨16, 8, by decide⟩
def delayBetween : Field := ⟨24, 8, by decide⟩

/-- The fields of a settings slot. -/
def layout : Layout where
  name := "Csr"
  fields := [("CPOL", polarity), ("NCPHA", leading), ("CSNAAT", noToggle), ("CSAAT", hold),
    ("BITS", width), ("SCBR", divisor), ("DLYBS", delayBefore), ("DLYBCT", delayBetween)]

/-- The code of a width: how many bits a unit has beyond eight. -/
def widthCode : Width → UInt32
  | .eight => 0
  | .sixteen => 8

/-- Whether the clock rests high. -/
def idlesHigh (value : UInt32) : Bool :=
  polarity.isFull value

/-- Whether data is captured on the leading edge. -/
def capturesOnLeadingEdge (value : UInt32) : Bool :=
  leading.isFull value

/-- The width of a slot; every code but that of sixteen bits reads as eight. -/
def unitWidth (value : UInt32) : Width :=
  if width.get value = widthCode .sixteen then .sixteen else .eight

/-- The clock divisor of a slot. -/
def clockDivisor (value : UInt32) : UInt8 :=
  (divisor.get value).toUInt8

end Slot

/-- One setting of a slot. -/
inductive SlotSetting where
  | width (units : Width)
  | divisor (count : UInt8)
  | idlesHigh (on : Bool)
  | capturesOnLeadingEdge (on : Bool)
  deriving DecidableEq, Repr

namespace SlotSetting

/-- A slot value with one setting assigned. -/
def assign : SlotSetting → UInt32 → UInt32
  | .width units, value => Slot.width.set (Slot.widthCode units) value
  | .divisor count, value => Slot.divisor.set count.toUInt32 value
  | .idlesHigh on, value => Slot.polarity.fill on value
  | .capturesOnLeadingEdge on, value => Slot.leading.fill on value

/-- A slot value with settings assigned from first to last. -/
def assignAll (settings : List SlotSetting) (value : UInt32) : UInt32 :=
  settings.foldl (fun value setting => setting.assign value) value

end SlotSetting

/-! ## Select numbers -/

/-- How many devices have a select output of their own. -/
def selectOutputs : UInt8 := 4

/-- The pattern that selects no device. -/
def noneSelected : UInt8 := 0x0F

/-- The pattern in the mode register after bring-up. -/
def initialPattern : UInt8 := 1

/-- The settings slot of a select number. -/
def slotOf (id : UInt8) : Fin 4 :=
  ⟨id.toNat % 4, Nat.mod_lt _ (by decide)⟩

/-- The pattern that pulls only the output of a select number low. -/
def patternOf (id : UInt8) : UInt8 :=
  ~~~(1 <<< UInt8.ofNat (slotOf id).val) &&& noneSelected

end Standard

end SerialBus
