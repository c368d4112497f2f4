import SerialBus.Proofs.Backend
import SerialBus.Proofs.Replay

/-!
# What a host hears

While a host waits and exchanges bytes, three things come to its ears: the answers to
its polls, the bytes in the receive register, and the instants on the clock (`Heard`).
What it does next depends on these alone.  A `Talk` is such a dialogue as data: what the
host does until it asks, and how it goes on for every answer.

The dialogue of a wait is that of its policy, and the dialogue of an exchange is that of
the policy and the feed.  Neither mentions a controller or a hardware.  Carrying a
dialogue out on a host gives what the host hears and what comes of it (`Host.carry`), and
what comes of the dialogues of waits and exchanges is what the host does itself
(`carry_waitTalk`, `carry_shiftTalk`).

So a call can be answered aloud: with what the host hears during it, whether or not it
ever comes back (`Host.aloud`, `Host.aloud_snd`), and so can a run (`Host.turnsAloud_snd`).
-/

set_option autoImplicit false

namespace SerialBus

variable {ρ σ κ α β : Type}

/-! ## What is heard -/

/-- What a host hears, each kind of answer in order. -/
@[ext] structure Heard where
  polls : List Bool := []
  /-- The low eight bits of what was in the receive register. -/
  bytes : List UInt8 := []
  clocks : List UInt64 := []
  deriving DecidableEq, Repr

namespace Heard

instance : Append Heard where
  append first second :=
    { polls := first.polls ++ second.polls
      bytes := first.bytes ++ second.bytes
      clocks := first.clocks ++ second.clocks }

variable (first second third : Heard)

@[simp] theorem polls_append : (first ++ second).polls = first.polls ++ second.polls := rfl

@[simp] theorem bytes_append : (first ++ second).bytes = first.bytes ++ second.bytes := rfl

@[simp] theorem clocks_append : (first ++ second).clocks = first.clocks ++ second.clocks := rfl

theorem append_assoc : first ++ second ++ third = first ++ (second ++ third) := by
  ext1
  · exact List.append_assoc ..
  · exact List.append_assoc ..
  · exact List.append_assoc ..

theorem append_nothing : first ++ {} = first := by
  ext1
  · exact List.append_nil _
  · exact List.append_nil _
  · exact List.append_nil _

end Heard

/-- Something done aloud: what was heard meanwhile, and the result if it came back. -/
abbrev Aloud (α : Type) : Type := Heard × Option α

namespace Aloud

/-- The same with its result changed. -/
def map (change : α → β) (done : Aloud α) : Aloud β :=
  (done.1, done.2.map change)

/-- One thing after another, provided that the first comes back. -/
def andThen (first : Aloud α) (next : α → Aloud β) : Aloud β :=
  match first.2 with
  | none => (first.1, none)
  | some value => (first.1 ++ (next value).1, (next value).2)

theorem andThen_snd (first : Aloud α) (next : α → Aloud β) :
    (first.andThen next).2 = first.2.bind fun value => (next value).2 := by
  rw [andThen]
  cases first.2 with
  | none => rfl
  | some value => rfl

end Aloud

/-! ## Dialogues -/

/-- What a host does while it waits and exchanges bytes. -/
inductive Talk (α : Type) where
  /-- It has come to a result, or it will never come back. -/
  | stop (result : Option α)
  /-- See whether the controller reports a condition. -/
  | poll (condition : Condition) (next : Bool → Talk α)
  /-- Look at the clock. -/
  | clock (next : UInt64 → Talk α)
  /-- Put a byte into the transmit register. -/
  | send (byte : UInt8) (last : Bool) (next : Talk α)
  /-- Take a byte out of the receive register. -/
  | take (next : UInt8 → Talk α)
  /-- A timeout: with a device selected this is a fault. -/
  | fault (next : Talk α)

namespace Talk

/-- One dialogue, and then another that depends on its result. -/
def bind : Talk α → (α → Talk β) → Talk β
  | .stop none, _ => .stop none
  | .stop (some value), next => next value
  | .poll condition more, next => .poll condition fun seen => (more seen).bind next
  | .clock more, next => .clock fun now => (more now).bind next
  | .send byte last more, next => .send byte last (more.bind next)
  | .take more, next => .take fun byte => (more byte).bind next
  | .fault more, next => .fault (more.bind next)

end Talk

/-- The dialogue of a computation that reads the clock. -/
def Clocked.talk : Clocked α → Talk α
  | .answer value => .stop (some value)
  | .ask next => .clock fun now => (next now).talk

namespace WaitPolicy

variable (waits : WaitPolicy)

/-- The dialogue of polling for a condition, at most a given number of times. -/
def pollTalk (condition : Condition) : Nat → waits.Budget → Talk Outcome
  | 0, _ => .stop none
  | polls + 1, budget =>
      .poll condition fun
        | true => .stop (some (.ok ()))
        | false => (waits.spend budget).talk.bind fun
            | (true, _) => .stop (some (.error (.timeout condition)))
            | (false, budget) => pollTalk condition polls budget

/-- The dialogue of a wait. -/
def waitTalk (condition : Condition) : Talk Outcome :=
  waits.start.talk.bind (waits.pollTalk condition waits.patience)

/-- The dialogue of a wait inside an exchange. -/
def awaitTalk (condition : Condition) : Talk Outcome :=
  (waits.waitTalk condition).bind fun
    | .ok () => .stop (some (.ok ()))
    | .error failure => .fault (.stop (some (.error failure)))

/-- The dialogue of exchanging the bytes that are left of a request. -/
def shiftTalk (feed : Feed .eight β) : (left : Nat) → (index : Nat) → β → Talk (Outcome × β)
  | 0, _, buffers => .stop (some (.ok (), buffers))
  | left + 1, index, buffers =>
      (waits.awaitTalk .txReady).bind fun
        | .error failure => .stop (some (.error failure, buffers))
        | .ok () => .send (feed.next index buffers) (left = 0)
            ((waits.awaitTalk .rxReady).bind fun
              | .error failure => .stop (some (.error failure, buffers))
              | .ok () => .take fun byte =>
                  shiftTalk feed left (index + 1) (feed.store index byte buffers))

end WaitPolicy

/-! ## Carrying a dialogue out -/

namespace Host

variable (host : Host ρ σ κ)

/-- Carry a dialogue out: what the host hears, and what comes of it. -/
def carry : Talk α → Bus ρ σ κ → Aloud (α × Bus ρ σ κ)
  | .stop result, bus => ({}, result.map fun value => (value, bus))
  | .poll condition next, bus =>
      let (seen, bus) := host.poll condition bus
      let (later, result) := carry (next seen) bus
      ({ polls := [seen] } ++ later, result)
  | .clock next, bus =>
      let (now, bus) := host.consult (.ask .answer) bus
      let (later, result) := carry (next now) bus
      ({ clocks := [now] } ++ later, result)
  | .send byte last next, bus => carry next (host.send (Width.eight.toUnit byte) last bus)
  | .take next, bus =>
      let (value, bus) := host.read host.controller.receive bus
      let (later, result) := carry (next value.toUInt8) bus
      ({ bytes := [value.toUInt8] } ++ later, result)
  | .fault next, bus =>
      carry next { bus with stage := if bus.stage = .selected then .faulted else bus.stage }

theorem carry_poll (condition : Condition) (next : Bool → Talk α) (bus : Bus ρ σ κ) :
    host.carry (.poll condition next) bus =
      let polled := host.poll condition bus
      let carried := host.carry (next polled.1) polled.2
      ({ polls := [polled.1] } ++ carried.1, carried.2) := rfl

theorem carry_clock (next : UInt64 → Talk α) (bus : Bus ρ σ κ) :
    host.carry (.clock next) bus =
      let looked := host.consult (.ask .answer) bus
      let carried := host.carry (next looked.1) looked.2
      ({ clocks := [looked.1] } ++ carried.1, carried.2) := rfl

theorem carry_take (next : UInt8 → Talk α) (bus : Bus ρ σ κ) :
    host.carry (.take next) bus =
      let received := host.read host.controller.receive bus
      let carried := host.carry (next received.1.toUInt8) received.2
      ({ bytes := [received.1.toUInt8] } ++ carried.1, carried.2) := rfl

/-- What comes of two dialogues in a row comes of one after the other. -/
theorem carry_bind (talk : Talk α) (next : α → Talk β) (bus : Bus ρ σ κ) :
    (host.carry (talk.bind next) bus).2 =
      (host.carry talk bus).2.bind fun (value, bus) => (host.carry (next value) bus).2 := by
  induction talk generalizing bus with
  | stop result =>
      cases result with
      | none => rfl
      | some value => rfl
  | poll condition more ih => exact ih ..
  | clock more ih => exact ih ..
  | send byte last more ih => exact ih ..
  | take more ih => exact ih ..
  | fault more ih => exact ih ..

theorem carry_clocked (clocked : Clocked α) (bus : Bus ρ σ κ) :
    (host.carry clocked.talk bus).2 = some (host.consult clocked bus) := by
  induction clocked generalizing bus with
  | answer value => rfl
  | ask next ih => exact ih ..

theorem carry_pollTalk (condition : Condition) (polls : Nat) (budget : host.waits.Budget)
    (bus : Bus ρ σ κ) :
    (host.carry (host.waits.pollTalk condition polls budget) bus).2 =
      host.pollUntil condition polls budget bus := by
  induction polls generalizing budget bus with
  | zero => rfl
  | succ polls ih =>
      rw [pollUntil, WaitPolicy.pollTalk, carry]
      rcases host.poll condition bus with ⟨seen, bus⟩
      cases seen with
      | true => rfl
      | false =>
          dsimp only
          rw [carry_bind, carry_clocked, Option.bind_some]
          rcases host.consult (host.waits.spend budget) bus with ⟨⟨spent, budget⟩, bus⟩
          cases spent with
          | true => rfl
          | false => exact ih budget bus

/-- What comes of the dialogue of a wait is the wait. -/
theorem carry_waitTalk (condition : Condition) (bus : Bus ρ σ κ) :
    (host.carry (host.waits.waitTalk condition) bus).2 = host.wait condition bus := by
  rw [WaitPolicy.waitTalk, carry_bind, carry_clocked]
  exact host.carry_pollTalk ..

theorem carry_awaitTalk (condition : Condition) (bus : Bus ρ σ κ) :
    (host.carry (host.waits.awaitTalk condition) bus).2 = host.await condition bus := by
  rw [WaitPolicy.awaitTalk, carry_bind, carry_waitTalk, await]
  cases host.wait condition bus with
  | none => rfl
  | some waited =>
      obtain ⟨outcome, bus⟩ := waited
      cases outcome with
      | ok => rfl
      | error failure => rfl

end Host

/-! ## Exchanging bytes -/

/-- A controller that moves bytes: the low eight bits of its data registers are the byte. -/
structure Controller.MovesBytes (controller : Controller ρ) : Prop where
  shifts : controller.shifts .eight = true
  encode : ∀ (byte : UInt8) (last : Bool),
    (controller.encode (Width.eight.toUnit byte) last).toUInt8 = byte
  decode : ∀ value, Width.eight.ofUnit (controller.decode value) = value.toUInt8

/-- Both backends move bytes. -/
theorem Backend.movesBytes (backend : Backend) : backend.controller.MovesBytes where
  shifts := by cases backend <;> rfl
  encode := by
    intro byte last
    have shifts : backend.controller.shifts .eight := by cases backend <;> rfl
    have carried := Backend.encode_toNat shifts byte last
    apply UInt8.toNat_inj.1
    have plain : (Width.eight.toUnit byte).toNat = byte.toNat := UInt8.toNat_toUInt16 byte
    have small := byte.toNat_lt
    -- the end mark lies above the low eight bits
    have mark : backend.endMark % 2 ^ 8 = 0 := by cases backend <;> rfl
    rw [UInt32.toNat_toUInt8, carried, plain]
    split
    next => omega
    next => omega
  decode := by
    intro value
    have shifts : backend.controller.shifts .eight := by cases backend <;> rfl
    exact Backend.ofUnit_decode shifts value

/-- A call that is about bytes, for baud rates that are legal. -/
def Call.ForBytes (legal : UInt32 → Prop) : Call → Prop
  | .bringUp bits => bits ≠ 16
  | .configure _ _ baudHz | .openSession _ _ _ baudHz => legal baudHz
  | .select _ | .deselect _ | .flush | .closeSession _ | .abandonSession _ => True
  | .transceive w _ _ _ | .receive w _ | .transmit w _ | .transfer w _ _
  | .transferInPlace w _ | .drain w => w = .eight
  | .transact _ _ | .prepareDma | .transmitByDma _ _ _ | .receiveByDma _ _ _
  | .clearOverrun => False

/-- The call that a turn makes, if it makes one. -/
def Turn.call? : Turn σ → Option Call
  | .change _ => none
  | .call asked => some asked

namespace Host

variable (host : Host ρ σ κ) (bytes : host.controller.MovesBytes)

include bytes in
/-- What comes of the dialogue of an exchange of bytes is the exchange. -/
theorem carry_shiftTalk (feed : Feed .eight β) (left index : Nat) (buffers : β)
    (bus : Bus ρ σ κ) :
    (host.carry (host.waits.shiftTalk feed left index buffers) bus).2.map
        (fun ((outcome, buffers), bus) => (outcome, buffers, bus)) =
      host.shift feed left index buffers bus := by
  induction left generalizing index buffers bus with
  | zero => rfl
  | succ left ih =>
      rw [shift, WaitPolicy.shiftTalk, carry_bind, carry_awaitTalk]
      cases host.await .txReady bus with
      | none => rfl
      | some waited =>
          obtain ⟨outcome, bus⟩ := waited
          cases outcome with
          | error failure => rfl
          | ok =>
              rw [Option.bind_some]
              dsimp only [carry]
              rw [carry_bind, carry_awaitTalk]
              cases host.await .rxReady
                  (host.send (Width.eight.toUnit (feed.next index buffers)) (left = 0) bus) with
              | none => rfl
              | some waited =>
                  obtain ⟨outcome, bus⟩ := waited
                  cases outcome with
                  | error failure => rfl
                  | ok =>
                      have decoded : Width.eight.ofUnit (host.take bus).1 =
                          (host.read host.controller.receive bus).1.toUInt8 := bytes.decode _
                      dsimp only
                      rw [decoded]
                      exact ih ..

/-! ## Calls answered aloud -/

/-- An exchange of bytes, aloud. -/
def exchangeAloud (feed : Feed .eight β) (length : Nat) (buffers : β) (bus : Bus ρ σ κ) :
    Aloud (Outcome × β × Bus ρ σ κ) :=
  match host.refusal bus.exchangeBreach with
  | some failure => ({}, some (.error failure, buffers, bus))
  | none => (host.carry (host.waits.shiftTalk feed length 0 buffers) bus).map
      fun ((outcome, buffers), bus) => (outcome, buffers, bus)

/-- A transfer of bytes with separate buffers, aloud. -/
def transceiveAloud (outgoing incoming : Option (List UInt8)) (length : Nat) (bus : Bus ρ σ κ) :
    Aloud (Outcome × Option (List UInt8) × Bus ρ σ κ) :=
  match shortage outgoing length with
  | some failure => ({}, some (.error failure, incoming, bus))
  | none =>
      match shortage incoming length with
      | some failure => ({}, some (.error failure, incoming, bus))
      | none => host.exchangeAloud (.separate .eight outgoing) length incoming bus

/-- Releasing a device, aloud. -/
def deselectAloud (device : Device) (bus : Bus ρ σ κ) : Aloud (Outcome × Bus ρ σ κ) :=
  match host.refusal bus.deselectBreach with
  | some failure => ({}, some (.error failure, bus))
  | none => (host.carry (host.waits.waitTalk .txEmpty) bus).map
      fun (drained, bus) => (drained, host.letGo device bus)

/-- Answer a call aloud: what the host hears during it, and the answer.  What is heard
during calls for wide words, transactions and DMA is not recorded. -/
def aloud (bus : Bus ρ σ κ) : Call → Aloud (Reply × Bus ρ σ κ)
  | .flush | .drain .eight =>
      (host.carry (host.waits.waitTalk .txEmpty) bus).map
        fun (outcome, bus) => (.outcome outcome, bus)
  | .deselect device =>
      (host.deselectAloud device bus).map fun (outcome, bus) => (.outcome outcome, bus)
  | .closeSession session =>
      (host.deselectAloud session.device bus).map fun (outcome, bus) => (.outcome outcome, bus)
  | .abandonSession session =>
      if session.isOpen then
        (host.deselectAloud session.device bus).map fun (_, bus) => (.outcome (.ok ()), bus)
      else ({}, some (.outcome (.ok ()), bus))
  | .transceive .eight outgoing incoming length =>
      (host.transceiveAloud outgoing incoming length bus).map
        fun (outcome, incoming, bus) => (.exchanged .eight outcome incoming, bus)
  | .receive .eight incoming =>
      (host.transceiveAloud none (some incoming) incoming.length bus).map
        fun (outcome, buffer, bus) =>
          (.exchanged .eight outcome (some (buffer.getD incoming)), bus)
  | .transmit .eight outgoing =>
      (host.transceiveAloud (some outgoing) none outgoing.length bus).map
        fun (outcome, _, bus) => (.outcome outcome, bus)
  | .transfer .eight incoming outgoing =>
      (host.exchangeAloud (.padded .eight outgoing) (max incoming.length outgoing.length)
          incoming bus).map
        fun (outcome, incoming, bus) => (.exchanged .eight outcome (some incoming), bus)
  | .transferInPlace .eight words =>
      (host.exchangeAloud (.inPlace .eight) words.length words bus).map
        fun (outcome, words, bus) => (.exchanged .eight outcome (some words), bus)
  | call => ({}, host.call bus call)

/-- Take a turn aloud. -/
def turnAloud (bus : Bus ρ σ κ) : Turn σ → Aloud (Option Reply × Bus ρ σ κ)
  | .change new => ({}, some (none, { bus with hardware := new bus.hardware }))
  | .call call => (host.aloud bus call).map fun (reply, bus) => (some reply, bus)

/-- Take turns aloud, up to the call that never comes back, if there is one. -/
def turnsAloud (bus : Bus ρ σ κ) : List (Turn σ) → Aloud (List (Option Reply × Bus ρ σ κ))
  | [] => ({}, some [])
  | first :: rest =>
      (host.turnAloud bus first).andThen fun (reply, bus) =>
        (turnsAloud bus rest).map fun log => (reply, bus) :: log

/-- What a host hears in a run. -/
def hears (bus : Bus ρ σ κ) (turns : List (Turn σ)) : Heard :=
  (host.turnsAloud bus turns).1

include bytes in
theorem exchangeAloud_snd (feed : Feed .eight β) (length : Nat) (buffers : β)
    (bus : Bus ρ σ κ) :
    (host.exchangeAloud feed length buffers bus).2 = host.exchange feed length buffers bus := by
  rw [exchangeAloud, exchange]
  cases host.refusal bus.exchangeBreach with
  | some failure => rfl
  | none => exact host.carry_shiftTalk bytes feed length 0 buffers bus

include bytes in
theorem transceiveAloud_snd (outgoing incoming : Option (List UInt8)) (length : Nat)
    (bus : Bus ρ σ κ) :
    (host.transceiveAloud outgoing incoming length bus).2 =
      host.transceive .eight outgoing incoming length bus := by
  rw [transceiveAloud, transceive]
  cases shortage outgoing length with
  | some failure => rfl
  | none =>
      cases shortage incoming length with
      | some failure => rfl
      | none => exact host.exchangeAloud_snd bytes ..

theorem deselectAloud_snd (device : Device) (bus : Bus ρ σ κ) :
    (host.deselectAloud device bus).2 = host.deselect device bus := by
  rw [deselectAloud, deselect]
  cases host.refusal bus.deselectBreach with
  | some failure => rfl
  | none => exact congrArg (Option.map _) (host.carry_waitTalk .txEmpty bus)

include bytes in
/-- A call answered aloud is answered all the same. -/
theorem aloud_snd (bus : Bus ρ σ κ) (call : Call) : (host.aloud bus call).2 = host.call bus call := by
  have shifting (answer : Option (Reply × Bus ρ σ κ)) :
      host.shifting .eight bus answer = answer := if_pos bytes.shifts
  cases call with
  | flush => exact congrArg (Option.map _) (host.carry_waitTalk .txEmpty bus)
  | drain w =>
      cases w with
      | eight =>
          rw [call, shifting]
          exact congrArg (Option.map _) (host.carry_waitTalk .txEmpty bus)
      | sixteen => rfl
  | deselect device => exact congrArg (Option.map _) (host.deselectAloud_snd device bus)
  | closeSession session =>
      rw [call, closeSession_eq]
      exact congrArg (Option.map _) (host.deselectAloud_snd session.device bus)
  | abandonSession session =>
      rw [call, abandonSession, aloud]
      split
      · rw [Option.map_map]
        exact congrArg (Option.map _) (host.deselectAloud_snd session.device bus)
      · rfl
  | transceive w outgoing incoming length =>
      cases w with
      | eight =>
          rw [call, shifting]
          exact congrArg (Option.map _) (host.transceiveAloud_snd bytes ..)
      | sixteen => rfl
  | receive w incoming =>
      cases w with
      | eight =>
          rw [call, shifting, receive, Option.map_map]
          exact congrArg (Option.map _)
            (host.transceiveAloud_snd bytes none (some incoming) incoming.length bus)
      | sixteen => rfl
  | transmit w outgoing =>
      cases w with
      | eight =>
          rw [call, shifting, transmit, Option.map_map]
          exact congrArg (Option.map _)
            (host.transceiveAloud_snd bytes (some outgoing) none outgoing.length bus)
      | sixteen => rfl
  | transfer w incoming outgoing =>
      cases w with
      | eight =>
          rw [call, shifting]
          exact congrArg (Option.map _) (host.exchangeAloud_snd bytes ..)
      | sixteen => rfl
  | transferInPlace w words =>
      cases w with
      | eight =>
          rw [call, shifting]
          exact congrArg (Option.map _) (host.exchangeAloud_snd bytes ..)
      | sixteen => rfl
  | _ => rfl

include bytes in
/-- Turns taken aloud come to what they come to. -/
theorem turnsAloud_snd (bus : Bus ρ σ κ) (turns : List (Turn σ)) :
    (host.turnsAloud bus turns).2 = host.turns bus turns := by
  induction turns generalizing bus with
  | nil => rfl
  | cons first rest ih =>
      have taken : (host.turnAloud bus first).2 = host.turn bus first := by
        cases first with
        | change new => rfl
        | call call => exact congrArg (Option.map _) (host.aloud_snd bytes bus call)
      rw [turnsAloud, Aloud.andThen_snd, taken, turns]
      cases host.turn bus first with
      | none => rfl
      | some answer => exact congrArg (Option.map _) (ih answer.2)

/-- What is heard in the first turns of a run is heard first in the run. -/
theorem exists_hears_eq_take_append (bus : Bus ρ σ κ) (turns : List (Turn σ)) (n : Nat) :
    ∃ later, host.hears bus turns = host.hears bus (turns.take n) ++ later := by
  induction turns generalizing bus n with
  | nil => exact ⟨{}, by rw [List.take_nil, Heard.append_nothing]⟩
  | cons first rest ih =>
      cases n with
      | zero => exact ⟨_, rfl⟩
      | succ n =>
          rw [List.take_succ_cons, hears, hears, turnsAloud, turnsAloud, Aloud.andThen,
            Aloud.andThen]
          cases (host.turnAloud bus first).2 with
          | none => exact ⟨{}, (Heard.append_nothing _).symm⟩
          | some answer =>
              obtain ⟨later, heard⟩ := ih answer.2 n
              refine ⟨later, ?_⟩
              rw [Heard.append_assoc]
              exact congrArg ((host.turnAloud bus first).1 ++ ·) heard

end Host

end SerialBus
