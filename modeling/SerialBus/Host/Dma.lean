import SerialBus.Host.Exchange

/-!
# DMA transfers

A DMA transfer is only started here: the host sets up a channel of the engine,
hands it one descriptor and switches it on.  Waiting for its end, and leaving the
buffer alone until then, is up to the caller.

One descriptor counts its bytes in sixteen bits.  A longer transfer is refused
first, a buffer that is too short second, and a refused transfer touches nothing.
Before a channel is set up to receive, the status register is read once, which
clears an overrun left over from before.
-/

set_option autoImplicit false

namespace SerialBus

/-- The most bytes that one descriptor moves. -/
def Dma.maxLength : Nat := 65535

/-- The byte sent over and over by a transfer without a buffer. -/
def Dma.fillerByte : UInt8 := 0xFF

/-- The failure of a DMA transfer of a length with a buffer. -/
def Dma.refusal (buffer : Option Dma.Buffer) (length : Nat) : Option Failure :=
  if Dma.maxLength < length then some (.transferTooLong length)
  else shortage (buffer.map Dma.Buffer.bytes) length

/-- The transfer of bytes to a data register, from a buffer or, without one, of the filler
from a fixed address. -/
def Dma.outgoing (fillerAddress : UInt64) (buffer : Option Dma.Buffer) (length : Nat)
    (address : UInt64) : Dma.Descriptor where
  source := match buffer with
    | none => .filler fillerAddress Dma.fillerByte
    | some buffer => buffer.endpoint
  sourceStride := if buffer.isSome then .incrementing else .fixed
  destination := .register address
  destinationStride := .fixed
  count := UInt16.ofNat length
  direction := .memoryToPeripheral

/-- The transfer of bytes from a data register to a buffer. -/
def Dma.incoming (buffer : Dma.Buffer) (length : Nat) (address : UInt64) : Dma.Descriptor where
  source := .register address
  sourceStride := .fixed
  destination := buffer.endpoint
  destinationStride := .incrementing
  count := UInt16.ofNat length
  direction := .peripheralToMemory

namespace Host

variable {ρ σ κ : Type} (host : Host ρ σ κ)

/-- Give commands to the DMA engine, from first to last. -/
def commandAll (commands : List Dma.Command) (bus : Bus ρ σ κ) : Bus ρ σ κ :=
  commands.foldl (fun bus command => host.command command bus) bus

/-- Make the DMA engine ready for the bus. -/
def prepareDma (bus : Bus ρ σ κ) : Bus ρ σ κ :=
  host.commandAll [.disable, .fixedPriority, .enable] bus

/-- Read the status register so that an old overrun stalls nothing. -/
def clearOverrun (bus : Bus ρ σ κ) : Bus ρ σ κ :=
  (host.read host.controller.status bus).2

/-- Set a channel up with one descriptor and switch it on.  The descriptor is made for the
address at which a data register is found once the channel has its settings. -/
def arm (channel : UInt8) (settings : Dma.Settings) (register : ρ)
    (describe : (address : UInt64) → Dma.Descriptor) (bus : Bus ρ σ κ) : Bus ρ σ κ :=
  let bus := host.commandAll
    [.enable, .disableChannel channel, .configureChannel channel settings] bus
  let address := host.hardware.address register bus.hardware
  host.commandAll [.load channel (describe address), .enableChannel channel] bus

/-- Let a channel feed bytes into the transmit register. -/
def transmitByDma (handshakes : Handshakes) (channel : UInt8) (buffer : Option Dma.Buffer)
    (length : Nat) (bus : Bus ρ σ κ) : Outcome × Bus ρ σ κ :=
  match Dma.refusal buffer length with
  | some failure => (.error failure, bus)
  | none =>
      (.ok (), host.arm channel ⟨.destination handshakes.transmit, .largestBurst, true⟩
        host.controller.transmit (Dma.outgoing host.fillerAddress buffer length) bus)

/-- Let a channel drain bytes from the receive register into a buffer. -/
def receiveByDma (handshakes : Handshakes) (channel : UInt8) (buffer : Dma.Buffer)
    (length : Nat) (bus : Bus ρ σ κ) : Outcome × Bus ρ σ κ :=
  match Dma.refusal (some buffer) length with
  | some failure => (.error failure, bus)
  | none =>
      (.ok (), host.arm channel ⟨.source handshakes.receive, .asSoonAsPossible, true⟩
        host.controller.receive (Dma.incoming buffer length) (host.clearOverrun bus))

end Host

end SerialBus
