import SerialBus.Failure
import SerialBus.Register.Field
import SerialBus.Unit

/-!
# Controllers

A controller is a set of registers together with the scripts that drive them.  A
script is a list of register accesses and nothing else: it cannot wait, branch on
what it reads, or fail.  Everything that waits or decides belongs to the host.

The rest of a controller is data: where its status, transmit and receive
registers are, which status bit stands for which condition, how a unit is laid
out in the transmit register, and which divisors its clock generator takes.
Controllers that can be served by a DMA engine also have a pair of
handshake numbers.
-/

set_option autoImplicit false

namespace SerialBus

/-- One access of a controller script. -/
inductive Access (ρ : Type) where
  /-- Route the pins of the bus and switch on the controller's clock. -/
  | enable
  /-- Write a register. -/
  | write (register : ρ) (value : UInt32)
  /-- Read a register and write it back changed. -/
  | modify (register : ρ) (change : UInt32 → UInt32)

/-- The handshake numbers of the two data registers. -/
structure Handshakes where
  transmit : UInt8
  receive : UInt8
  deriving DecidableEq, Repr

/-- A bus controller with registers `ρ`. -/
structure Controller (ρ : Type) where
  /-- The name of a register. -/
  name : ρ → String
  /-- The distance of a register from the first one, in bytes. -/
  offset : ρ → UInt64
  /-- The widest unit the controller can shift. -/
  maxWidth : Width
  /-- The divisor that derives a baud rate from a clock, if there is a legal one. -/
  divisor : (clockHz baudHz : UInt32) → Option UInt32
  /-- The script that brings the controller up. -/
  bringUp : (clockHz : UInt32) → List (Access ρ)
  /-- The script that applies the settings of one device. -/
  configure : Device → Mode → (divisor : UInt32) → List (Access ρ)
  /-- The controller's part in selecting a device. -/
  select : Device → List (Access ρ)
  /-- The controller's part in releasing the device it serves. -/
  finish : List (Access ρ)
  /-- The register that reports readiness. -/
  status : ρ
  /-- The status bit of a condition. -/
  flag : Condition → Field
  /-- The register that takes units. -/
  transmit : ρ
  /-- A unit as the transmit register takes it, marked if it ends a request. -/
  encode : (unit : UInt16) → (last : Bool) → UInt32
  /-- The register that holds a received unit. -/
  receive : ρ
  /-- The unit in a receive register value. -/
  decode : UInt32 → UInt16
  /-- How a DMA engine is paced, if the controller works with one. -/
  handshakes : Option Handshakes

namespace Controller

variable {ρ : Type}

/-- Whether a status value reports a condition. -/
def reports (controller : Controller ρ) (condition : Condition) (status : UInt32) : Bool :=
  (controller.flag condition).isFull status

/-- Whether a controller can shift units of a width. -/
def shifts (controller : Controller ρ) (width : Width) : Bool :=
  width.bits ≤ controller.maxWidth.bits

end Controller

/-- A divisor, provided that it is not zero and not above the limit. -/
def legalDivisor (limit divisor : UInt32) : Option UInt32 :=
  if 1 ≤ divisor ∧ divisor ≤ limit then some divisor else none

theorem legalDivisor_eq_some_iff {limit divisor count : UInt32} :
    legalDivisor limit divisor = some count ↔
      divisor = count ∧ 1 ≤ count.toNat ∧ count.toNat ≤ limit.toNat := by
  rw [legalDivisor, Option.ite_none_right_eq_some, UInt32.le_iff_toNat_le, UInt32.le_iff_toNat_le]
  constructor
  · rintro ⟨range, same⟩
    obtain rfl := Option.some.inj same
    exact ⟨rfl, range⟩
  · rintro ⟨rfl, range⟩
    exact ⟨range, rfl⟩

end SerialBus
