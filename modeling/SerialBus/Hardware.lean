import SerialBus.Controller.Basic
import SerialBus.Dma

/-!
# Hardware below the host

The host knows the hardware only through what it can do to it: read and write
registers, read the clock, and give commands to the DMA engine.  Each
of these may change the hardware in any way, and a read may answer anything, so a
statement about all hardware is a statement about every value of `Hardware`.

`Memory` is the plainest hardware there is: words in a row, one register at each
offset, where a read gives the word last written.
-/

set_option autoImplicit false

namespace SerialBus

/-- Hardware with registers `ρ` and state `σ`. -/
structure Hardware (ρ σ : Type) where
  /-- Route the pins and switch on the controller's clock. -/
  enable : σ → σ
  /-- Read a register. -/
  read : ρ → σ → UInt32 × σ
  /-- Write a register. -/
  write : ρ → UInt32 → σ → σ
  /-- The address at which a DMA engine finds a register. -/
  address : ρ → σ → UInt64
  /-- Read the clock. -/
  now : σ → UInt64 × σ
  /-- Give a command to the DMA engine. -/
  command : Dma.Command → σ → σ
  /-- Let time pass. -/
  elapse : (nanoseconds : UInt32) → σ → σ

/-! ## Registers in memory -/

/-- Words of four bytes, the first of them at an address. -/
structure Memory where
  base : UInt64
  words : List UInt32
  deriving DecidableEq, Repr

namespace Memory

/-- The position of the word at an address. -/
def index (memory : Memory) (address : UInt64) : Nat :=
  (address - memory.base).toNat / 4

/-- The word at an address. -/
def load (memory : Memory) (address : UInt64) : UInt32 :=
  memory.words.getD (memory.index address) 0

/-- Memory with the word at an address replaced. -/
def store (memory : Memory) (address : UInt64) (value : UInt32) : Memory :=
  { memory with words := memory.words.set (memory.index address) value }

/-- The registers of a controller laid over memory from a base address on. -/
def registers {ρ : Type} (controller : Controller ρ) (base : UInt64) : Hardware ρ Memory where
  enable := id
  read := fun register memory => (memory.load (base + controller.offset register), memory)
  write := fun register value memory =>
    memory.store (base + controller.offset register) value
  address := fun register _ => base + controller.offset register
  now := fun memory => (0, memory)
  command := fun _ memory => memory
  elapse := fun _ memory => memory

end Memory

end SerialBus
