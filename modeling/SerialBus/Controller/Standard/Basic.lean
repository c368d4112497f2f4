import SerialBus.Controller.Basic
import SerialBus.Controller.Standard.Layout

/-!
# The standard controller

A dedicated bus controller with select outputs of its own.  It shifts units of
eight or sixteen bits and can be served by a DMA engine.

Its clock divisor rounds up, so the bus never runs faster than asked for.
Configuring a device resets the controller, makes it a master again, because a
reset clears the mode register, and assigns the settings slot of the device.
Selecting a device only replaces the select pattern, which picks the settings slot
as well as the output.
-/

set_option autoImplicit false

namespace SerialBus

namespace Standard

/-- The largest clock divisor. -/
def maxDivisor : UInt32 := 255

/-- How the data registers are paced. -/
def handshakes : Handshakes where
  transmit := 1
  receive := 2

/-- The least divisor that keeps the bus clock at or below the baud rate. -/
def divisor (clockHz baudHz : UInt32) : Option UInt32 :=
  if baudHz = 0 then none
  else legalDivisor maxDivisor
    (clockHz / baudHz + if clockHz % baudHz = 0 then 0 else 1)

/-- The settings that a device in a mode needs in its slot. -/
def slotSettings (device : Device) (mode : Mode) (divisor : UInt32) : List SlotSetting :=
  [.width device.width, .divisor divisor.toUInt8, .idlesHigh mode.idlesHigh,
    .capturesOnLeadingEdge mode.capturesOnLeadingEdge]

/-- Reset, then master mode with everything unwanted switched off. -/
def bringUp : List (Access Register) :=
  [.enable,
    .write .control Control.reset.mask,
    .modify .mode fun value =>
      ModeControl.select initialPattern
        (withoutBits (value ||| ModeControl.masterBits) ModeControl.unwantedBits)]

/-- Reset, then master mode, the settings of the device, and back on. -/
def configure (device : Device) (mode : Mode) (divisor : UInt32) : List (Access Register) :=
  [.write .control Control.reset.mask,
    .modify .mode fun value =>
      ModeControl.select (patternOf device.id) (value ||| ModeControl.masterBits),
    .modify (.settings (slotOf device.id))
      (SlotSetting.assignAll (slotSettings device mode divisor)),
    .write .control Control.enable.mask]

/-- Put the device's pattern into the mode register. -/
def select (device : Device) : List (Access Register) :=
  [.modify .mode (ModeControl.select (patternOf device.id))]

/-- End the transfer and take every select output back. -/
def finish : List (Access Register) :=
  [.write .control Control.lastTransfer.mask,
    .modify .mode (ModeControl.select noneSelected)]

/-- The status bit of a condition. -/
def flag : Condition → Field
  | .txReady => Status.transmitEmpty
  | .txEmpty => Status.drained
  | .rxReady => Status.receiveFull

/-- The unit in the low bits, and the end mark on the last one. -/
def encode (unit : UInt16) (last : Bool) : UInt32 :=
  if last then unit.toUInt32 ||| TransmitData.lastTransfer.mask else unit.toUInt32

/-- The standard controller. -/
def controller : Controller Register where
  name := Register.name
  offset := Register.offset
  maxWidth := .sixteen
  divisor := divisor
  bringUp := fun _ => bringUp
  configure := configure
  select := select
  finish := finish
  status := .status
  flag := flag
  transmit := .transmit
  encode := encode
  receive := .receive
  decode := UInt32.toUInt16
  handshakes := some handshakes

end Standard

end SerialBus
