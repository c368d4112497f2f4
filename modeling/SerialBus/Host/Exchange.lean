import SerialBus.Host.Conversation

/-!
# Exchanging units

Every unit that goes out brings one in.  An exchange waits for room in the
transmit register, sends a unit, waits for the answer and stores it, once for each
unit of the request; only the last unit carries the end mark.  A timeout ends the
exchange where it stands, so what was received before it is kept, and a host whose
device is selected falls into the faulted stage.

Where the units come from and where the answers go is a `Feed` over the buffers of
the caller.  Requests differ only in their feed: separate buffers (`transceive`),
one buffer to fill (`receive`) or to send (`transmit`), two buffers of different
lengths (`transfer`), and one buffer whose words are replaced by the answers to
them (`transferInPlace`).
-/

set_option autoImplicit false

namespace SerialBus

/-- Where the words of an exchange come from and go to, for buffers `β`. -/
structure Feed (w : Width) (β : Type) where
  /-- The word to send at an index. -/
  next : (index : Nat) → β → w.Word
  /-- The buffers with the word received at an index. -/
  store : (index : Nat) → w.Word → β → β

/-- The failure of a request that is longer than a buffer it was given. -/
def shortage {α : Type} (buffer : Option (List α)) (length : Nat) : Option Failure :=
  match buffer with
  | none => none
  | some words =>
      if words.length < length then some (.bufferTooShort length words.length) else none

namespace Host

variable {ρ σ κ : Type} (host : Host ρ σ κ)

/-! ## The loop over the units -/

/-- Wait as part of an exchange: a timeout while a device is selected is a fault. -/
def await (condition : Condition) (bus : Bus ρ σ κ) : Option (Outcome × Bus ρ σ κ) :=
  (host.wait condition bus).map fun
    | (.ok (), bus) => (.ok (), bus)
    | (.error failure, bus) =>
        (.error failure,
          { bus with stage := if bus.stage = .selected then .faulted else bus.stage })

/-- Exchange the units that are left of a request, the first of them at an index. -/
def shift {w : Width} {β : Type} (feed : Feed w β) :
    (left : Nat) → (index : Nat) → β → Bus ρ σ κ → Option (Outcome × β × Bus ρ σ κ)
  | 0, _, buffers, bus => some (.ok (), buffers, bus)
  | left + 1, index, buffers, bus =>
      match host.await .txReady bus with
      | none => none
      | some (.error failure, bus) => some (.error failure, buffers, bus)
      | some (.ok (), bus) =>
          match host.await .rxReady
              (host.send (w.toUnit (feed.next index buffers)) (left = 0) bus) with
          | none => none
          | some (.error failure, bus) => some (.error failure, buffers, bus)
          | some (.ok (), bus) =>
              let (unit, bus) := host.take bus
              shift feed left (index + 1) (feed.store index (w.ofUnit unit) buffers) bus

/-- Exchange the units of a request, provided that the order of calls allows it. -/
def exchange {w : Width} {β : Type} (feed : Feed w β) (length : Nat) (buffers : β)
    (bus : Bus ρ σ κ) : Option (Outcome × β × Bus ρ σ κ) :=
  match host.refusal bus.exchangeBreach with
  | some failure => some (.error failure, buffers, bus)
  | none => host.shift feed length 0 buffers bus

end Host

/-! ## Feeds -/

namespace Feed

/-- Send the words of one buffer, or fillers, and keep the answers in another. -/
def separate (w : Width) (outgoing : Option (List w.Word)) :
    Feed w (Option (List w.Word)) where
  next := fun index _ =>
    match outgoing with
    | none => w.filler
    | some words => words.getD index w.filler
  store := fun index word incoming => incoming.map fun words => words.set index word

/-- Send the words of one buffer and then fillers, and keep as many answers as
another has room for. -/
def padded (w : Width) (outgoing : List w.Word) : Feed w (List w.Word) where
  next := fun index _ => outgoing.getD index w.filler
  store := fun index word incoming => incoming.set index word

/-- Send the words of a buffer and put each answer in place of the word it answers. -/
def inPlace (w : Width) : Feed w (List w.Word) where
  next := fun index words => words.getD index w.filler
  store := fun index word words => words.set index word

end Feed

/-! ## Requests -/

namespace Host

variable {ρ σ κ : Type} (host : Host ρ σ κ)

/-- Exchange a number of words.  Without words to send, fillers go out; without a
buffer for the answers, they are dropped. -/
def transceive (w : Width) (outgoing incoming : Option (List w.Word)) (length : Nat)
    (bus : Bus ρ σ κ) : Option (Outcome × Option (List w.Word) × Bus ρ σ κ) :=
  match shortage outgoing length with
  | some failure => some (.error failure, incoming, bus)
  | none =>
      match shortage incoming length with
      | some failure => some (.error failure, incoming, bus)
      | none => host.exchange (.separate w outgoing) length incoming bus

/-- Fill a buffer with received words. -/
def receive (w : Width) (incoming : List w.Word) (bus : Bus ρ σ κ) :
    Option (Outcome × List w.Word × Bus ρ σ κ) :=
  (host.transceive w none (some incoming) incoming.length bus).map
    fun (outcome, buffer, bus) => (outcome, buffer.getD incoming, bus)

/-- Send the words of a buffer. -/
def transmit (w : Width) (outgoing : List w.Word) (bus : Bus ρ σ κ) :
    Option (Outcome × Bus ρ σ κ) :=
  (host.transceive w (some outgoing) none outgoing.length bus).map
    fun (outcome, _, bus) => (outcome, bus)

/-- Exchange as many words as the longer of two buffers has. -/
def transfer (w : Width) (incoming outgoing : List w.Word) (bus : Bus ρ σ κ) :
    Option (Outcome × List w.Word × Bus ρ σ κ) :=
  host.exchange (.padded w outgoing) (max incoming.length outgoing.length) incoming bus

/-- Exchange the words of a buffer for the answers to them. -/
def transferInPlace (w : Width) (words : List w.Word) (bus : Bus ρ σ κ) :
    Option (Outcome × List w.Word × Bus ρ σ κ) :=
  host.exchange (.inPlace w) words.length words bus

end Host

end SerialBus
