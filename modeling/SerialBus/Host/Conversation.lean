import SerialBus.Host.Wait

/-!
# The conversation with a device

A device is talked to in a fixed sequence: the bus is brought up once, the device
is configured, selected, exchanged with, and deselected.  Whether a call is out of
this order is a function of the bus alone (`Bus.configureBreach` and its siblings).
A strict host refuses such a call, and a permissive host carries every call out.

A call that is refused, and a configuration without a legal divisor, leaves the
bus exactly as it was, its trace included.  Releasing a device is different: the
line is released and the stage moves on even when the wait before it times out,
and the timeout is reported all the same.
-/

set_option autoImplicit false

namespace SerialBus

/-! ## Calls out of order -/

namespace Bus

variable {ρ σ κ : Type} (bus : Bus ρ σ κ)

/-- How configuring a device would be out of order. -/
def configureBreach : Option Breach :=
  if !bus.up then some .notBroughtUp
  else if bus.stage.engaged then some .stillSelected
  else none

/-- How selecting a device would be out of order. -/
def selectBreach (device : Device) : Option Breach :=
  if bus.stage.engaged then some .stillSelected
  else if bus.stage.settled && bus.configured = some device then none
  else some .notConfigured

/-- How releasing a device would be out of order. -/
def deselectBreach : Option Breach :=
  if bus.stage.engaged then none else some .notSelected

/-- How exchanging units would be out of order. -/
def exchangeBreach : Option Breach :=
  match bus.stage with
  | .selected => none
  | .faulted => some .faulted
  | _ => some .notSelected

end Bus

namespace Host

variable {ρ σ κ : Type} (host : Host ρ σ κ)

/-- The failure with which a host answers a call, given how it is out of order. -/
def refusal (breach : Option Breach) : Option Failure :=
  match host.discipline with
  | .permissive => none
  | .strict => breach.map .outOfOrder

/-! ## The calls -/

/-- Bring the bus up, on the first call only, and find the width for a bit count:
the one asked for, or the widest the controller can shift. -/
def bringUp (bits : UInt32) (bus : Bus ρ σ κ) : Width × Bus ρ σ κ :=
  let width := (Width.ofBits bits).narrower host.controller.maxWidth
  if bus.up then (width, bus)
  else
    (width, { host.run (host.controller.bringUp host.clockHz) bus with
      up := true
      stage := .idle })

/-- Apply the settings of a device. -/
def configure (device : Device) (mode : Mode) (baudHz : UInt32) (bus : Bus ρ σ κ) :
    Outcome × Bus ρ σ κ :=
  match host.refusal bus.configureBreach with
  | some failure => (.error failure, bus)
  | none =>
      match host.controller.divisor host.clockHz baudHz with
      | none => (.error (.invalidBaudRate baudHz), bus)
      | some divisor =>
          (.ok (), { host.run (host.controller.configure device mode divisor) bus with
            configured := some device
            stage := .configured })

/-- Select a device: the controller's part first, then its line goes low. -/
def select (device : Device) (bus : Bus ρ σ κ) : Outcome × Bus ρ σ κ :=
  match host.refusal (bus.selectBreach device) with
  | some failure => (.error failure, bus)
  | none =>
      (.ok (), { host.drive device.line .low
          (host.run (host.controller.select device) bus) with
        stage := .selected })

/-- Let go of a device: the controller's part first, then its line goes high. -/
def letGo (device : Device) (bus : Bus ρ σ κ) : Bus ρ σ κ :=
  { host.drive device.line .high (host.run host.controller.finish bus) with
    stage := .deselected }

/-- Release a device once everything sent has left the controller, or the wait for
that has timed out. -/
def deselect (device : Device) (bus : Bus ρ σ κ) : Option (Outcome × Bus ρ σ κ) :=
  match host.refusal bus.deselectBreach with
  | some failure => some (.error failure, bus)
  | none => (host.wait .txEmpty bus).map fun (drained, bus) => (drained, host.letGo device bus)

end Host

end SerialBus
