/-!
# What can go wrong on the bus

A failure names its cause and carries what the caller needs to act on it: the
readiness condition that was never seen, the way in which a call was out of
order, the baud rate no divisor reaches, the two lengths that do not fit, or the
length no single DMA transfer can move.

The wording of a cause is in `Failure.message`.  `Failure.text` is the failure
written as a value, its cause followed by what it carries.
-/

set_option autoImplicit false

namespace SerialBus

/-! ## Readiness conditions -/

/-- What a controller reports through its status register. -/
inductive Condition where
  /-- The transmit register can take a unit. -/
  | txReady
  /-- Nothing is left to transmit, the shift register included. -/
  | txEmpty
  /-- A received unit waits in the receive register. -/
  | rxReady
  deriving DecidableEq, Repr

namespace Condition

/-- The wording of a condition. -/
def message : Condition → String
  | .txReady => "transmit ready"
  | .txEmpty => "transmit empty"
  | .rxReady => "receive ready"

/-- The name of a condition. -/
def text : Condition → String
  | .txReady => "TxReady"
  | .txEmpty => "TxEmpty"
  | .rxReady => "RxReady"

end Condition

/-! ## Calls out of order -/

/-- How a call can be out of order. -/
inductive Breach where
  /-- The bus was never brought up. -/
  | notBroughtUp
  /-- The device is not the one last configured. -/
  | notConfigured
  /-- A device is still selected. -/
  | stillSelected
  /-- No device is selected. -/
  | notSelected
  /-- A transfer timed out and its device must be deselected first. -/
  | faulted
  deriving DecidableEq, Repr

namespace Breach

/-- The wording of a breach. -/
def message : Breach → String
  | .notBroughtUp => "bus not initialized"
  | .notConfigured => "device not configured"
  | .stillSelected => "a device is still selected"
  | .notSelected => "no device selected"
  | .faulted => "transfer faulted, deselect first"

/-- The name of a breach. -/
def text : Breach → String
  | .notBroughtUp => "NotInitialized"
  | .notConfigured => "NotConfigured"
  | .stillSelected => "StillSelected"
  | .notSelected => "NotSelected"
  | .faulted => "Faulted"

end Breach

/-! ## Failures -/

/-- Why a bus operation did not succeed. -/
inductive Failure where
  /-- Someone else holds the bus. -/
  | busy
  /-- The condition was not seen within the budget of the wait. -/
  | timeout (condition : Condition)
  /-- The call came out of order on a host that checks the order. -/
  | outOfOrder (breach : Breach)
  /-- No clock divisor gives this baud rate. -/
  | invalidBaudRate (baud : UInt32)
  /-- A buffer holds fewer units than were asked for. -/
  | bufferTooShort (needed available : Nat)
  /-- One DMA transfer cannot move this many bytes. -/
  | transferTooLong (length : Nat)
  deriving DecidableEq, Repr

/-- The result of an operation that returns nothing but its success. -/
abbrev Outcome := Except Failure Unit

namespace Failure

/-- The kind of a failure, without what it carries. -/
def kind : Failure → String
  | .busy => "Busy"
  | .timeout _ => "Timeout"
  | .outOfOrder _ => "Misuse"
  | .invalidBaudRate _ => "InvalidBaudRate"
  | .bufferTooShort _ _ => "BufferTooShort"
  | .transferTooLong _ => "TransferTooLong"

/-- The wording of a failure. -/
def message : Failure → String
  | .busy => "SPI bus is busy"
  | .timeout condition => "timed out waiting for " ++ condition.message
  | .outOfOrder breach => "bus misuse: " ++ breach.message
  | .invalidBaudRate baud => "no clock divisor for baud rate " ++ toString baud.toNat ++ " Hz"
  | .bufferTooShort needed available =>
      "buffer holds " ++ toString available ++ " units but " ++ toString needed ++
        " were requested"
  | .transferTooLong length => "DMA transfer of " ++ toString length ++ " bytes is too long"

/-- A failure written out as a value. -/
def text (failure : Failure) : String :=
  match failure with
  | .busy => failure.kind
  | .timeout condition => failure.kind ++ "(" ++ condition.text ++ ")"
  | .outOfOrder breach => failure.kind ++ "(" ++ breach.text ++ ")"
  | .invalidBaudRate baud => failure.kind ++ "(" ++ toString baud.toNat ++ ")"
  | .bufferTooShort needed available =>
      failure.kind ++ " \x7b needed: " ++ toString needed ++ ", available: " ++
        toString available ++ " \x7d"
  | .transferTooLong length => failure.kind ++ "(" ++ toString length ++ ")"

/-- The category that device drivers see: no failure of this bus has one of its own. -/
def category (_ : Failure) : String :=
  "Other"

end Failure

end SerialBus
