/-!
# Commands to a DMA engine

A DMA engine moves bytes between memory and a data register without the
host.  The host sets up one channel at a time: how the channel is paced, how it
empties its queue, and one descriptor that says from where to where it moves how
many bytes.

An end of a transfer is either the buffer of the caller, a single filler byte, or
a data register.  The engine knows only the address of it; `Endpoint` keeps besides
what lies there, so that a descriptor shows whether it stays inside.
-/

set_option autoImplicit false

namespace SerialBus

namespace Dma

/-- The data register that paces a channel, by its handshake number. -/
inductive Pace where
  /-- The register that takes the data. -/
  | destination (number : UInt8)
  /-- The register that gives the data. -/
  | source (number : UInt8)
  deriving DecidableEq, Repr

/-- When a channel passes on what it has queued. -/
inductive Queueing where
  | largestBurst
  | asSoonAsPossible
  deriving DecidableEq, Repr

/-- The settings of a channel. -/
structure Settings where
  pace : Pace
  queueing : Queueing
  stopWhenDone : Bool
  deriving DecidableEq, Repr

/-- Bytes in the memory of the caller, the first of them at an address. -/
structure Buffer where
  address : UInt64
  bytes : List UInt8
  /-- Memory ends before addresses start over. -/
  fits : address.toNat + bytes.length ≤ UInt64.size
  deriving DecidableEq, Repr

/-- One end of a transfer, at its address. -/
inductive Endpoint where
  /-- The buffer of the caller, with the number of its bytes. -/
  | buffer (address : UInt64) (size : Nat)
  /-- A single byte to be sent over and over. -/
  | filler (address : UInt64) (byte : UInt8)
  /-- A data register. -/
  | register (address : UInt64)
  deriving DecidableEq, Repr

/-- The address that the engine is given for an end of a transfer. -/
def Endpoint.address : Endpoint → UInt64
  | .buffer address _ | .filler address _ | .register address => address

/-- The buffer of a caller as an end of a transfer. -/
def Buffer.endpoint (buffer : Buffer) : Endpoint :=
  .buffer buffer.address buffer.bytes.length

/-- What happens to an address after each byte. -/
inductive Stride where
  | incrementing
  | fixed
  deriving DecidableEq, Repr

/-- The direction of a transfer. -/
inductive Direction where
  | memoryToPeripheral
  | peripheralToMemory
  deriving DecidableEq, Repr

/-- One transfer of a number of bytes. -/
structure Descriptor where
  source : Endpoint
  sourceStride : Stride
  destination : Endpoint
  destinationStride : Stride
  count : UInt16
  direction : Direction
  deriving DecidableEq, Repr

/-- What the host tells a DMA engine. -/
inductive Command where
  | enable
  | disable
  | fixedPriority
  | disableChannel (channel : UInt8)
  | configureChannel (channel : UInt8) (settings : Settings)
  | load (channel : UInt8) (descriptor : Descriptor)
  | enableChannel (channel : UInt8)
  deriving DecidableEq, Repr

/-! ## Commands as text -/

namespace Pace

/-- A pace written out. -/
def text : Pace → String
  | .destination number => "destination " ++ toString number.toNat
  | .source number => "source " ++ toString number.toNat

end Pace

namespace Queueing

/-- The name of a queueing rule. -/
def text : Queueing → String
  | .largestBurst => "LargestBurst"
  | .asSoonAsPossible => "AsSoonAsPossible"

end Queueing

namespace Endpoint

/-- An end of a transfer written out. -/
def text : Endpoint → String
  | .buffer _ _ => "buffer"
  | .filler _ byte => "filler " ++ toString byte.toNat
  | .register address => toString address.toNat

end Endpoint

namespace Stride

/-- The name of a stride. -/
def text : Stride → String
  | .incrementing => "Incrementing"
  | .fixed => "Fixed"

end Stride

namespace Direction

/-- The name of a direction. -/
def text : Direction → String
  | .memoryToPeripheral => "MemoryToPeripheral"
  | .peripheralToMemory => "PeripheralToMemory"

end Direction

namespace Command

/-- A command written out. -/
def text : Command → String
  | .enable => "dma enable"
  | .disable => "dma disable"
  | .fixedPriority => "dma fixed_priority"
  | .disableChannel channel => "dma disable_channel " ++ toString channel.toNat
  | .configureChannel channel settings =>
      "dma configure " ++ toString channel.toNat ++ " " ++ settings.pace.text ++ " " ++
        settings.queueing.text ++ " stop=" ++ toString settings.stopWhenDone
  | .load channel descriptor =>
      "dma load " ++ toString channel.toNat ++ " " ++ descriptor.source.text ++ " " ++
        descriptor.sourceStride.text ++ " -> " ++ descriptor.destination.text ++ " " ++
        descriptor.destinationStride.text ++ " count=" ++ toString descriptor.count.toNat ++
        " " ++ descriptor.direction.text
  | .enableChannel channel => "dma enable_channel " ++ toString channel.toNat

end Command

end Dma

end SerialBus
