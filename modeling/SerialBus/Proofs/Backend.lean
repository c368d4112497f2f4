import SerialBus.Controller.Standard.Basic
import SerialBus.Controller.Usart.Basic
import SerialBus.Host.Basic

/-!
# The two backends

A host drives the standard controller or a USART.  What both have in common is
said of `backend.controller` for any `Backend`: their status register is not the
receive register (`status_ne_receive`), a word of a width that the backend shifts
enters the transmit register as the number it is, apart from the end mark of the
standard controller (`encode_toNat`), and the word kept from a received value is
its low bits (`ofUnit_decode`).
-/

set_option autoImplicit false

namespace SerialBus

/-- The low bits of a register value, as a word. -/
def Width.lowWord : (w : Width) → UInt32 → w.Word
  | .eight, value => UInt32.toUInt8 value
  | .sixteen, value => UInt32.toUInt16 value

/-- A controller that a host can drive. -/
inductive Backend where
  | standard
  | usart
  deriving DecidableEq, Repr

namespace Backend

/-- The registers of a backend. -/
abbrev Register : Backend → Type
  | .standard => Standard.Register
  | .usart => Usart.Register

instance : (backend : Backend) → DecidableEq backend.Register
  | .standard => inferInstanceAs (DecidableEq Standard.Register)
  | .usart => inferInstanceAs (DecidableEq Usart.Register)

/-- The controller of a backend. -/
def controller : (backend : Backend) → Controller backend.Register
  | .standard => Standard.controller
  | .usart => Usart.controller

/-- The bit of the transmit register that marks the last unit of a request, as a
number.  Only the standard controller has one. -/
def endMark : Backend → Nat
  | .standard => 16777216
  | .usart => 0

theorem status_ne_receive (backend : Backend) :
    backend.controller.status ≠ backend.controller.receive := by
  cases backend <;> exact nofun

/-! ## Units in the data registers -/

theorem standard_encode_toNat (unit : UInt16) (last : Bool) :
    (Standard.encode unit last).toNat = unit.toNat + if last then 16777216 else 0 := by
  cases last with
  | false => simp [Standard.encode]
  | true =>
      have mark : Standard.TransmitData.lastTransfer.mask = 16777216 := by decide
      have low : unit.toNat < 2 ^ 24 := Nat.lt_trans unit.toNat_lt (by decide)
      have apart : 2 ^ 24 * 1 ||| unit.toNat = 2 ^ 24 * 1 + unit.toNat :=
        (Nat.two_pow_add_eq_or_of_lt low 1).symm
      simp only [Standard.encode, mark, if_true, UInt32.toNat_or, UInt16.toNat_toUInt32]
      rw [Nat.or_comm, Nat.add_comm]
      exact apart

theorem usart_encode_toNat (byte : UInt8) : (Usart.encode byte.toUInt16).toNat = byte.toNat := by
  have small := byte.toNat_lt
  simp only [Usart.encode, UInt16.toNat_toUInt32, UInt16.toNat_and, UInt8.toNat_toUInt16]
  exact Nat.and_two_pow_sub_one_of_lt_two_pow (n := 8) small

/-- A word goes out as the number it is, with the end mark on the last one. -/
theorem encode_toNat {backend : Backend} {w : Width} (shifts : backend.controller.shifts w)
    (word : w.Word) (last : Bool) :
    (backend.controller.encode (w.toUnit word) last).toNat =
      (w.toUnit word).toNat + if last then backend.endMark else 0 := by
  cases backend with
  | standard => exact standard_encode_toNat _ last
  | usart =>
      cases w with
      | eight =>
          have plain : (UInt8.toUInt16 word).toNat = UInt8.toNat word := UInt8.toNat_toUInt16 word
          have marked : (if last then Backend.usart.endMark else 0) = 0 := by cases last <;> rfl
          rw [marked, Nat.add_zero]
          exact (usart_encode_toNat word).trans plain.symm
      | sixteen => exact absurd shifts (by decide)

/-- A received value gives the word in its low bits. -/
theorem ofUnit_decode {backend : Backend} {w : Width} (shifts : backend.controller.shifts w)
    (value : UInt32) : w.ofUnit (backend.controller.decode value) = w.lowWord value := by
  cases backend with
  | standard =>
      cases w with
      | eight => exact UInt32.toUInt8_toUInt16 value
      | sixteen => rfl
  | usart =>
      cases w with
      | eight =>
          show (value &&& 0xFF).toUInt16.toUInt8 = value.toUInt8
          rw [UInt32.toUInt8_toUInt16]
          apply UInt8.toNat_inj.1
          rw [UInt32.toNat_toUInt8, UInt32.toNat_toUInt8, UInt32.toNat_and]
          exact (congrArg (· % 2 ^ 8) (Nat.and_two_pow_sub_one_eq_mod value.toNat 8)).trans
            (Nat.mod_mod _ _)
      | sixteen => exact absurd shifts (by decide)

end Backend

/-! ## Hardware that never changes -/

/-- Hardware that answers every read with the same value and never changes. -/
def Hardware.constant {ρ : Type} (value : UInt32) : Hardware ρ Unit where
  enable := id
  read := fun _ _ => (value, ())
  write := fun _ _ => id
  address := fun _ _ => 0
  now := fun _ => (0, ())
  command := fun _ => id
  elapse := fun _ => id

/-- A strict host on a standard controller whose registers all read as one value. -/
def Host.constant (value : UInt32) : Host Backend.standard.Register Unit Unit where
  controller := Backend.standard.controller
  hardware := .constant value
  lines := .recorded
  discipline := .strict

end SerialBus
