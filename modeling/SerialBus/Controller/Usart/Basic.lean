import SerialBus.Controller.Basic
import SerialBus.Controller.Usart.Layout

/-!
# The USART as a bus master

A USART borrowed as a controller.  It shifts units of eight bits only, has
no select outputs and works with no DMA engine, so selecting and
releasing a device is left to the chip-select lines.

Its clock divisor rounds down, and between bring-up and the first device it runs
at a fixed baud rate, or as slowly as it can when its clock does not reach that.
-/

set_option autoImplicit false

namespace SerialBus

namespace Usart

/-- The baud rate between bring-up and the first device. -/
def initialBaudHz : UInt32 := 1000000

/-- The largest clock divisor. -/
def maxDivisor : UInt32 := 0xFFFF

/-- The greatest divisor that keeps the bus clock at or above the baud rate. -/
def divisor (clockHz baudHz : UInt32) : Option UInt32 :=
  if baudHz = 0 then none else legalDivisor maxDivisor (clockHz / baudHz)

/-- Interrupts off, both directions reset and off, master mode at the initial rate. -/
def bringUp (clockHz : UInt32) : List (Access Register) :=
  [.enable,
    .write .interruptDisable 0xFFFFFFFF,
    .write .control (Control.resetBits ||| Control.disableBits),
    .write .mode ModeControl.busMaster,
    .write .baudRate ((divisor clockHz initialBaudHz).getD maxDivisor),
    .write .control (Control.resetBits ||| Control.disableBits ||| Control.resetStatus.mask)]

/-- The mode register value of a clock mode, with the clock driven out. -/
def modeValue (mode : Mode) : UInt32 :=
  ModeSetting.assignAll
    [.idlesHigh mode.idlesHigh, .capturesOnLeadingEdge mode.capturesOnLeadingEdge]
    (ModeControl.busMaster ||| ModeControl.clockOutput.mask)

/-- Reset both directions, set mode and rate afresh, and switch both on. -/
def configure (mode : Mode) (divisor : UInt32) : List (Access Register) :=
  [.write .control Control.resetBits,
    .write .mode (modeValue mode),
    .write .baudRate divisor,
    .write .control Control.enableBits]

/-- The status bit of a condition. -/
def flag : Condition → Field
  | .txReady => Status.transmitReady
  | .txEmpty => Status.drained
  | .rxReady => Status.receiveReady

/-- The low eight bits of a unit; the last unit of a request looks like any other. -/
def encode (unit : UInt16) : UInt32 :=
  (unit &&& 0xFF).toUInt32

/-- The low eight bits of the receive register. -/
def decode (value : UInt32) : UInt16 :=
  (value &&& 0xFF).toUInt16

/-- The USART as a controller. -/
def controller : Controller Register where
  name := Register.name
  offset := Register.offset
  maxWidth := .eight
  divisor := divisor
  bringUp := bringUp
  configure := fun _ mode divisor => configure mode divisor
  select := fun _ => []
  finish := []
  status := .status
  flag := flag
  transmit := .transmit
  encode := fun unit _ => encode unit
  receive := .receive
  decode := decode
  handshakes := none

end Usart

end SerialBus
