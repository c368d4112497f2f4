import SerialBus.Host.Dma
import SerialBus.Host.Session
import SerialBus.Host.Transaction

/-!
# Calls on a host

Everything a caller can ask of a host, as data, answered by `Host.call`.  A call for
units wider than the controller shifts, and a DMA transfer on a controller that works
with no DMA engine, is not available and touches nothing.

A run is a list of turns, each a call or a change of the hardware by itself.  The log
of a run keeps what every turn answered together with the bus it left behind, so a
statement about every way of using a bus is a statement about every run.
-/

set_option autoImplicit false

namespace SerialBus

/-- Something that a caller asks of a host. -/
inductive Call where
  | bringUp (bits : UInt32)
  | configure (device : Device) (mode : Mode) (baudHz : UInt32)
  | select (device : Device)
  | deselect (device : Device)
  | flush
  | transceive (w : Width) (outgoing incoming : Option (List w.Word)) (length : Nat)
  | receive (w : Width) (incoming : List w.Word)
  | transmit (w : Width) (outgoing : List w.Word)
  | transfer (w : Width) (incoming outgoing : List w.Word)
  | transferInPlace (w : Width) (words : List w.Word)
  | openSession (held : Guard) (device : Device) (mode : Mode) (baudHz : UInt32)
  | closeSession (session : Session)
  | abandonSession (session : Session)
  /-- Attach an adapter that keeps its promises and carry out one transaction on it. -/
  | transact (w : Width) (operations : List (Operation w))
  /-- Wait as an adapter for words of a width does. -/
  | drain (w : Width)
  | prepareDma
  | transmitByDma (channel : UInt8) (buffer : Option Dma.Buffer) (length : Nat)
  | receiveByDma (channel : UInt8) (buffer : Dma.Buffer) (length : Nat)
  | clearOverrun

/-- What a caller gets back. -/
inductive Reply where
  /-- The controller cannot do this at all. -/
  | unavailable
  | width (width : Width)
  | outcome (outcome : Outcome)
  | opened (session : Session)
  /-- The outcome of an exchange, with the buffer for the answers. -/
  | exchanged (w : Width) (outcome : Outcome) (incoming : Option (List w.Word))
  /-- The outcome of a transaction, with its operations. -/
  | transacted (w : Width) (outcome : Outcome) (operations : List (Operation w))

namespace Reply

/-- The failure that a reply reports. -/
def failure? : Reply → Option Failure
  | .outcome (.error failure) => some failure
  | .exchanged _ (.error failure) _ => some failure
  | .transacted _ (.error failure) _ => some failure
  | _ => none

/-- Whether a reply says that the call came out of order. -/
def isOutOfOrder (reply : Reply) : Bool :=
  match reply.failure? with
  | some (.outOfOrder _) => true
  | _ => false

end Reply

namespace Host

variable {ρ σ κ : Type} (host : Host ρ σ κ)

/-- Answer a call for words of a width, if the controller shifts such words. -/
def shifting (w : Width) (bus : Bus ρ σ κ) (answer : Option (Reply × Bus ρ σ κ)) :
    Option (Reply × Bus ρ σ κ) :=
  if host.controller.shifts w then answer else some (.unavailable, bus)

/-- Answer a call about DMA, if the controller works with a DMA engine. -/
def withDma (bus : Bus ρ σ κ) (answer : Handshakes → Reply × Bus ρ σ κ) : Reply × Bus ρ σ κ :=
  match host.controller.handshakes with
  | none => (.unavailable, bus)
  | some handshakes => answer handshakes

/-- Answer a call.  There is no answer when a wait never comes back. -/
def call (bus : Bus ρ σ κ) : Call → Option (Reply × Bus ρ σ κ)
  | .bringUp bits =>
      let (width, bus) := host.bringUp bits bus
      some (.width width, bus)
  | .configure device mode baudHz =>
      let (outcome, bus) := host.configure device mode baudHz bus
      some (.outcome outcome, bus)
  | .select device =>
      let (outcome, bus) := host.select device bus
      some (.outcome outcome, bus)
  | .deselect device =>
      (host.deselect device bus).map fun (outcome, bus) => (.outcome outcome, bus)
  | .flush => (host.flush bus).map fun (outcome, bus) => (.outcome outcome, bus)
  | .transceive w outgoing incoming length =>
      host.shifting w bus <|
        (host.transceive w outgoing incoming length bus).map fun (outcome, incoming, bus) =>
          (.exchanged w outcome incoming, bus)
  | .receive w incoming =>
      host.shifting w bus <|
        (host.receive w incoming bus).map fun (outcome, incoming, bus) =>
          (.exchanged w outcome (some incoming), bus)
  | .transmit w outgoing =>
      host.shifting w bus <|
        (host.transmit w outgoing bus).map fun (outcome, bus) => (.outcome outcome, bus)
  | .transfer w incoming outgoing =>
      host.shifting w bus <|
        (host.transfer w incoming outgoing bus).map fun (outcome, incoming, bus) =>
          (.exchanged w outcome (some incoming), bus)
  | .transferInPlace w words =>
      host.shifting w bus <|
        (host.transferInPlace w words bus).map fun (outcome, words, bus) =>
          (.exchanged w outcome (some words), bus)
  | .openSession held device mode baudHz =>
      match host.openSession held device mode baudHz bus with
      | (.error failure, bus) => some (.outcome (.error failure), bus)
      | (.ok session, bus) => some (.opened session, bus)
  | .closeSession session =>
      (host.closeSession session bus).map fun (outcome, bus) => (.outcome outcome, bus)
  | .abandonSession session =>
      (host.abandonSession session bus).map fun bus => (.outcome (.ok ()), bus)
  | .transact w operations =>
      host.shifting w bus <|
        (host.transact operations bus.attachAdapter).map
          fun (outcome, operations, bus) => (.transacted w outcome operations, bus)
  | .drain w =>
      host.shifting w bus <|
        (host.flush bus).map fun (outcome, bus) => (.outcome outcome, bus)
  | .prepareDma =>
      some (host.withDma bus fun _ => (.outcome (.ok ()), host.prepareDma bus))
  | .transmitByDma channel buffer length =>
      some (host.withDma bus fun handshakes =>
        let (outcome, bus) := host.transmitByDma handshakes channel buffer length bus
        (.outcome outcome, bus))
  | .receiveByDma channel buffer length =>
      some (host.withDma bus fun handshakes =>
        let (outcome, bus) := host.receiveByDma handshakes channel buffer length bus
        (.outcome outcome, bus))
  | .clearOverrun =>
      some (host.withDma bus fun _ => (.outcome (.ok ()), host.clearOverrun bus))

end Host

/-! ## Runs -/

/-- What can come next in a run over hardware `σ`. -/
inductive Turn (σ : Type) where
  /-- The hardware changes by itself. -/
  | change (new : σ → σ)
  | call (call : Call)

namespace Host

variable {ρ σ κ : Type} (host : Host ρ σ κ)

/-- Take a turn, and answer it if it is a call. -/
def turn (bus : Bus ρ σ κ) : Turn σ → Option (Option Reply × Bus ρ σ κ)
  | .change new => some (none, { bus with hardware := new bus.hardware })
  | .call call => (host.call bus call).map fun (reply, bus) => (some reply, bus)

/-- Take turns in order, and keep what each answered with the bus it left behind. -/
def turns (bus : Bus ρ σ κ) : List (Turn σ) → Option (List (Option Reply × Bus ρ σ κ))
  | [] => some []
  | first :: rest =>
      match host.turn bus first with
      | none => none
      | some (reply, bus) => (turns bus rest).map fun log => (reply, bus) :: log

end Host

/-- The bus after a run that began with a given one. -/
def Bus.afterRun {ρ σ κ : Type} (bus : Bus ρ σ κ)
    (log : List (Option Reply × Bus ρ σ κ)) : Bus ρ σ κ :=
  (log.getLast?.map Prod.snd).getD bus

end SerialBus
