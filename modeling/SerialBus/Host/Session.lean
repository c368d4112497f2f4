import SerialBus.Arbiter.Basic
import SerialBus.Host.Exchange

/-!
# Sessions

A session is a device that was configured and selected in one go and stays
selected until the session ends.  Opening one takes a guard of the bus's arbiter,
so it cannot be done without holding the bus.

Whoever has a session loses it in the end, and a session that is lost while it is
open releases its device and reports nothing (`Host.abandonSession`).  Closing a
session marks it as no longer open, releases its device and reports whether
everything sent has left the controller; then the session is lost as well, which
does nothing more (`Host.closeSession_eq`).
-/

set_option autoImplicit false

namespace SerialBus

/-- A device that is selected until its session ends. -/
structure Session where
  device : Device
  /-- Whether the device is still to be released. -/
  isOpen : Bool := true
  deriving DecidableEq, Repr

/-- A session that is no longer open. -/
def Session.closed (session : Session) : Session :=
  { session with isOpen := false }

namespace Host

variable {ρ σ κ : Type} (host : Host ρ σ κ)

/-- Configure a device and select it while the bus is held. -/
def openSession (_held : Guard) (device : Device) (mode : Mode) (baudHz : UInt32)
    (bus : Bus ρ σ κ) : Except Failure Session × Bus ρ σ κ :=
  match host.configure device mode baudHz bus with
  | (.error failure, bus) => (.error failure, bus)
  | (.ok (), bus) =>
      match host.select device bus with
      | (.error failure, bus) => (.error failure, bus)
      | (.ok (), bus) => (.ok { device }, bus)

/-- Lose a session: if it is open, its device is released and nothing is reported. -/
def abandonSession (session : Session) (bus : Bus ρ σ κ) : Option (Bus ρ σ κ) :=
  if session.isOpen then (host.deselect session.device bus).map Prod.snd else some bus

/-- End a session, report a timeout of the last wait, and lose the session. -/
def closeSession (session : Session) (bus : Bus ρ σ κ) : Option (Outcome × Bus ρ σ κ) :=
  let session := session.closed
  match host.deselect session.device bus with
  | none => none
  | some (outcome, bus) => (host.abandonSession session bus).map fun bus => (outcome, bus)

variable {host} {session : Session} {bus : Bus ρ σ κ}

theorem abandonSession_of_open (isOpen : session.isOpen = true) :
    host.abandonSession session bus = (host.deselect session.device bus).map Prod.snd :=
  if_pos isOpen

theorem abandonSession_of_closed (closed : session.isOpen = false) :
    host.abandonSession session bus = some bus := by
  rw [abandonSession, closed]
  rfl

/-- Closing a session releases its device once. -/
theorem closeSession_eq (session : Session) (bus : Bus ρ σ κ) :
    host.closeSession session bus = host.deselect session.device bus := by
  have lost (after : Bus ρ σ κ) : host.abandonSession session.closed after = some after :=
    abandonSession_of_closed rfl
  have device : session.closed.device = session.device := rfl
  simp only [closeSession, lost, device]
  cases host.deselect session.device bus with
  | none => rfl
  | some answer => rfl

end Host

end SerialBus
