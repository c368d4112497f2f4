import SerialBus.Register.Layout

/-!
# Registers of the USART

A USART is made for character traffic and can act as a bus master as well.  For
that it has a control register, a mode register, a register that switches its
interrupts off, a status register, two data registers and the divisor of its clock.
In master mode it has no select outputs, so its registers say nothing about the
device it talks to.
-/

set_option autoImplicit false

namespace SerialBus

namespace Usart

/-- The registers of the USART that master mode uses. -/
inductive Register where
  | control
  | mode
  | interruptDisable
  | status
  | receive
  | transmit
  | baudRate
  deriving DecidableEq, Repr

namespace Register

/-- The distance of a register from the first one, in bytes. -/
def offset : Register → UInt64
  | .control => 0x00
  | .mode => 0x04
  | .interruptDisable => 0x0C
  | .status => 0x14
  | .receive => 0x18
  | .transmit => 0x1C
  | .baudRate => 0x20

/-- The short name of a register. -/
def name : Register → String
  | .control => "CR"
  | .mode => "MR"
  | .interruptDisable => "IDR"
  | .status => "CSR"
  | .receive => "RHR"
  | .transmit => "THR"
  | .baudRate => "BRGR"

end Register

/-! ## Control -/

namespace Control

def resetReceiver : Field := .bit 2
def resetTransmitter : Field := .bit 3
def enableReceiver : Field := .bit 4
def disableReceiver : Field := .bit 5
def enableTransmitter : Field := .bit 6
def disableTransmitter : Field := .bit 7
def resetStatus : Field := .bit 8

/-- The fields of the control register. -/
def layout : Layout where
  name := "Cr"
  fields := [("RSTRX", resetReceiver), ("RSTTX", resetTransmitter), ("RXEN", enableReceiver),
    ("RXDIS", disableReceiver), ("TXEN", enableTransmitter), ("TXDIS", disableTransmitter),
    ("RSTSTA", resetStatus)]

/-- Reset of both directions. -/
def resetBits : UInt32 :=
  resetReceiver.mask ||| resetTransmitter.mask

/-- Both directions off. -/
def disableBits : UInt32 :=
  disableReceiver.mask ||| disableTransmitter.mask

/-- Both directions on. -/
def enableBits : UInt32 :=
  enableReceiver.mask ||| enableTransmitter.mask

end Control

/-! ## Mode -/

namespace ModeControl

def operation : Field := ⟨0, 4, by decide⟩
def clockSource : Field := ⟨4, 2, by decide⟩
def characterLength : Field := ⟨6, 2, by decide⟩
def leading : Field := .bit 8
def channelMode : Field := ⟨14, 2, by decide⟩
def polarity : Field := .bit 16
def clockOutput : Field := .bit 18

/-- The fields of the mode register. -/
def layout : Layout where
  name := "Mr"
  fields := [("USART_MODE", operation), ("USCLKS", clockSource), ("CHRL", characterLength),
    ("CPHA", leading), ("CHMODE", channelMode), ("CPOL", polarity), ("CLKO", clockOutput)]

/-- Bus master with characters of eight bits. -/
def busMaster : UInt32 :=
  0xE ||| characterLength.mask

end ModeControl

/-- One setting of the mode register. -/
inductive ModeSetting where
  | idlesHigh (on : Bool)
  | capturesOnLeadingEdge (on : Bool)
  deriving DecidableEq, Repr

namespace ModeSetting

/-- A mode value with one setting assigned. -/
def assign : ModeSetting → UInt32 → UInt32
  | .idlesHigh on, value => ModeControl.polarity.fill on value
  | .capturesOnLeadingEdge on, value => ModeControl.leading.fill on value

/-- A mode value with settings assigned from first to last. -/
def assignAll (settings : List ModeSetting) (value : UInt32) : UInt32 :=
  settings.foldl (fun value setting => setting.assign value) value

end ModeSetting

/-! ## Status -/

namespace Status

def receiveReady : Field := .bit 0
def transmitReady : Field := .bit 1
def overrun : Field := .bit 5
def drained : Field := .bit 9

/-- The fields of the status register. -/
def layout : Layout where
  name := "Csr"
  fields := [("RXRDY", receiveReady), ("TXRDY", transmitReady), ("OVRE", overrun),
    ("TXEMPTY", drained)]

end Status

end Usart

end SerialBus
