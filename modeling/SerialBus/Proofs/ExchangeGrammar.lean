import SerialBus.Proofs.Answers

/-!
# Exchanges by the grammar of their waits

An exchange does for every unit two waits, a write and a read, whatever the waits are.  If
it is known what a wait leaves in the trace, by its condition and its outcome, then so it is
for an exchange: `Exchanged` is the grammar of its traces over that of its waits, and every
call for a transfer follows it or does nothing (`call_conveys`).

Two things can be read off the grammar.  What each wait leaves at most so often, an exchange
leaves at most twice as often for every unit (`Exchanged.countP_le`), and the last that a
timeout leaves is the wait that it comes from (`Exchanged.of_timeout`).

A host whose waits all come back answers every call (`call_isSome`).
-/

set_option autoImplicit false

namespace SerialBus

variable {ρ σ κ : Type}

/-! ## The grammar -/

/-- What the exchange of the units that are left leaves in the trace, by its outcome, if
`waits` is what a wait leaves by its condition and its outcome. -/
inductive Exchanged (controller : Controller ρ)
    (waits : Condition → Outcome → List (Event ρ) → Prop) :
    (left : Nat) → Outcome → List (Event ρ) → Prop where
  | done : Exchanged controller waits 0 (.ok ()) []
  | noRoom {left : Nat} {events : List (Event ρ)}
      (room : waits .txReady (.error (.timeout .txReady)) events) :
      Exchanged controller waits (left + 1) (.error (.timeout .txReady)) events
  | noAnswer {left : Nat} {unit : UInt32} {before events : List (Event ρ)}
      (room : waits .txReady (.ok ()) before)
      (answer : waits .rxReady (.error (.timeout .rxReady)) events) :
      Exchanged controller waits (left + 1) (.error (.timeout .rxReady))
        (before ++ .write controller.transmit unit :: events)
  | unit {left : Nat} {unit value : UInt32} {before between rest : List (Event ρ)}
      {outcome : Outcome} (room : waits .txReady (.ok ()) before)
      (answer : waits .rxReady (.ok ()) between)
      (later : Exchanged controller waits left outcome rest) :
      Exchanged controller waits (left + 1) outcome
        (before ++ .write controller.transmit unit ::
          (between ++ .read controller.receive value :: rest))

namespace Exchanged

variable {controller : Controller ρ} {waits : Condition → Outcome → List (Event ρ) → Prop}
  {left : Nat} {outcome : Outcome} {events : List (Event ρ)}

/-- What a wait leaves at most so often, an exchange leaves at most twice as often for
every unit, if neither sending nor taking a unit leaves it. -/
theorem countP_le {counts : Event ρ → Bool} {bound : Nat}
    (waited : ∀ condition outcome events, waits condition outcome events →
      events.countP counts ≤ bound)
    (sent : ∀ unit, counts (.write controller.transmit unit) = false)
    (taken : ∀ value, counts (.read controller.receive value) = false)
    (exchanged : Exchanged controller waits left outcome events) :
    events.countP counts ≤ 2 * left * bound := by
  induction exchanged with
  | done => exact Nat.zero_le _
  | @noRoom left events room =>
      have first := waited _ _ _ room
      rw [Nat.mul_succ, Nat.add_mul]
      omega
  | @noAnswer left unit before events room answer =>
      have first := waited _ _ _ room
      have second := waited _ _ _ answer
      rw [List.countP_append, List.countP_cons_of_neg (by simp [sent]), Nat.mul_succ, Nat.add_mul]
      omega
  | @unit left unit value before between rest outcome room answer _ ih =>
      have first := waited _ _ _ room
      have second := waited _ _ _ answer
      rw [List.countP_append, List.countP_cons_of_neg (by simp [sent]), List.countP_append,
        List.countP_cons_of_neg (by simp [taken]), Nat.mul_succ, Nat.add_mul]
      omega

/-- An exchange that times out ends with the wait that does, which stands at the beginning
or comes right after a unit was sent or taken. -/
theorem of_timeout {condition : Condition}
    (exchanged : Exchanged controller waits left (.error (.timeout condition)) events) :
    ∃ earlier last, events = earlier ++ last ∧ waits condition (.error (.timeout condition)) last ∧
      ∀ event ∈ earlier.getLast?, (∃ unit, event = .write controller.transmit unit) ∨
        ∃ value, event = .read controller.receive value := by
  generalize failed : (Except.error (.timeout condition) : Outcome) = outcome at exchanged
  induction exchanged with
  | done => cases failed
  | noRoom room =>
      cases failed
      exact ⟨[], _, rfl, room, by simp⟩
  | @noAnswer left unit before events room answer =>
      cases failed
      refine ⟨before ++ [.write controller.transmit unit], events, by simp, answer, ?_⟩
      simp
  | @unit left unit value before between rest outcome room answer _ ih =>
      obtain ⟨earlier, last, rfl, waited, follows⟩ := ih failed
      refine ⟨before ++ .write controller.transmit unit ::
        (between ++ .read controller.receive value :: earlier), last, by simp, ?_, ?_⟩
      · exact failed ▸ waited
      · cases earlier with
        | nil => simp [List.getLast?_append, List.getLast?_cons]
        | cons first earlier => simpa [List.getLast?_append, List.getLast?_cons] using follows

end Exchanged

/-! ## Hosts whose waits follow a grammar -/

/-- The number of units that a call exchanges, if it is one for a transfer. -/
def Call.units? : Call → Option Nat
  | .transceive _ _ _ length => some length
  | .receive _ incoming => some incoming.length
  | .transmit _ outgoing => some outgoing.length
  | .transfer _ incoming outgoing => some (max incoming.length outgoing.length)
  | .transferInPlace _ words => some words.length
  | _ => none

namespace Host

/-- `waits` is what the waits of a host leave in the trace. -/
def Follows (host : Host ρ σ κ) (waits : Condition → Outcome → List (Event ρ) → Prop) : Prop :=
  ∀ condition bus outcome after, host.wait condition bus = some (outcome, after) →
    ∃ events, waits condition outcome events ∧ after = host.after events bus

/-- What a transfer of so many units comes to: a check objects and nothing happens, or the
units are exchanged. -/
inductive Conveys (host : Host ρ σ κ) (waits : Condition → Outcome → List (Event ρ) → Prop)
    (length : Nat) (bus : Bus ρ σ κ) : Outcome → Bus ρ σ κ → Prop where
  | refused {failure : Failure} (objection : host.Objection failure) :
      Conveys host waits length bus (.error failure) bus
  | exchanged {outcome : Outcome} {events : List (Event ρ)} {after : Bus ρ σ κ}
      (exchanged : Exchanged host.controller waits length outcome events)
      (trace : after.trace = bus.trace ++ events) : Conveys host waits length bus outcome after

variable {host : Host ρ σ κ} {waits : Condition → Outcome → List (Event ρ) → Prop}
  {bus after : Bus ρ σ κ} {outcome : Outcome} {w : Width}

section Follows

variable (follows : host.Follows waits)

include follows

theorem await_follows {condition : Condition}
    (result : host.await condition bus = some (outcome, after)) :
    ∃ events, waits condition outcome events ∧
      after = (host.after events bus).setStage (bus.stage.afterExchange outcome) := by
  obtain ⟨⟨waited, mid⟩, result, same⟩ := Option.map_eq_some_iff.1 result
  obtain ⟨events, grammar, rfl⟩ := follows _ _ _ _ result
  refine ⟨events, ?_⟩
  cases waited with
  | ok =>
      obtain ⟨rfl, rfl⟩ := Prod.mk.injEq .. ▸ same
      exact ⟨grammar, rfl⟩
  | error failure =>
      obtain ⟨rfl, rfl⟩ := Prod.mk.injEq .. ▸ same
      exact ⟨grammar, rfl⟩

/-- The loop over the units follows the grammar of its waits. -/
theorem shift_exchanged {β : Type} {feed : Feed w β} {left index : Nat} {buffers final : β}
    (result : host.shift feed left index buffers bus = some (outcome, final, after)) :
    ∃ events, Exchanged host.controller waits left outcome events ∧
      after.trace = bus.trace ++ events := by
  induction left generalizing index buffers bus with
  | zero =>
      cases result
      exact ⟨[], .done, by simp⟩
  | succ left ih =>
      rw [shift] at result
      split at result
      next => cases result
      next failure mid room =>
        cases result
        obtain ⟨rfl, _⟩ := await_error room
        obtain ⟨events, waited, rfl⟩ := await_follows follows room
        exact ⟨events, .noRoom waited, by simp⟩
      next mid room =>
        obtain ⟨before, roomWaited, left⟩ := await_follows follows room
        obtain rfl : mid = host.after before bus := left
        split at result
        next => cases result
        next failure mid answer =>
          cases result
          obtain ⟨rfl, _⟩ := await_error answer
          obtain ⟨events, answerWaited, rfl⟩ := await_follows follows answer
          refine ⟨before ++ .write host.controller.transmit (host.controller.encode
            (w.toUnit (feed.next index final)) (left = 0)) :: events,
            .noAnswer roomWaited answerWaited, ?_⟩
          rw [Bus.setStage_trace, send_eq, after_after, after_after, after_trace]
          simp
        next mid answer =>
          obtain ⟨value, took⟩ : ∃ value, host.take mid = (host.controller.decode value,
            host.after [.read host.controller.receive value] mid) := ⟨_, host.take_eq mid⟩
          obtain ⟨between, answerWaited, left⟩ := await_follows follows answer
          obtain rfl : mid = host.after between _ := left
          rw [took] at result
          obtain ⟨rest, later, trace⟩ := ih result
          refine ⟨before ++ .write host.controller.transmit (host.controller.encode
            (w.toUnit (feed.next index buffers)) (left = 0)) ::
              (between ++ .read host.controller.receive value :: rest),
            .unit roomWaited answerWaited later, ?_⟩
          rw [trace, send_eq]
          simp

theorem exchange_conveys {β : Type} {feed : Feed w β} {length : Nat} {buffers final : β}
    (result : host.exchange feed length buffers bus = some (outcome, final, after)) :
    host.Conveys waits length bus outcome after := by
  rw [exchange] at result
  split at result
  next failure refused =>
    cases result
    exact .refused (.of_refusal refused)
  next allowed =>
    obtain ⟨events, exchanged, trace⟩ := shift_exchanged follows result
    exact .exchanged exchanged trace

theorem transceive_conveys {outgoing incoming final : Option (List w.Word)} {length : Nat}
    (result : host.transceive w outgoing incoming length bus = some (outcome, final, after)) :
    host.Conveys waits length bus outcome after := by
  rw [transceive] at result
  split at result
  next short =>
    cases result
    exact .refused (.of_shortage short)
  next =>
    split at result
    next short =>
      cases result
      exact .refused (.of_shortage short)
    next => exact exchange_conveys follows result

theorem receive_conveys {incoming final : List w.Word}
    (result : host.receive w incoming bus = some (outcome, final, after)) :
    host.Conveys waits incoming.length bus outcome after := by
  obtain ⟨⟨_, buffer, _⟩, transceived, same⟩ := Option.map_eq_some_iff.1 result
  cases same
  exact transceive_conveys follows transceived

theorem transmit_conveys {outgoing : List w.Word}
    (result : host.transmit w outgoing bus = some (outcome, after)) :
    host.Conveys waits outgoing.length bus outcome after := by
  obtain ⟨⟨_, _, _⟩, transceived, same⟩ := Option.map_eq_some_iff.1 result
  cases same
  exact transceive_conveys follows transceived

end Follows

/-- A call for words of a width is not available, or it comes to what it asks for. -/
theorem conveys_of_shifting {α : Type} {result : Option α} {answer : α → Reply × Bus ρ σ κ}
    {reply : Reply} {length : Nat}
    (answered : host.shifting w bus (result.map answer) = some (reply, after))
    (conveys : ∀ found ∈ result, ∃ outcome, (answer found).1.failure? = outcome.failure? ∧
      host.Conveys waits length bus outcome (answer found).2) :
    reply = .unavailable ∧ after = bus ∨ ∃ outcome, reply.failure? = outcome.failure? ∧
      host.Conveys waits length bus outcome after := by
  rw [shifting] at answered
  split at answered
  · obtain ⟨found, resulted, same⟩ := Option.map_eq_some_iff.1 answered
    have conveyed := conveys found resulted
    rw [same] at conveyed
    exact .inr conveyed
  · cases answered
    exact .inl ⟨rfl, rfl⟩

/-- **A call for a transfer follows the grammar of its waits**, or it does nothing. -/
theorem call_conveys (follows : host.Follows waits) {call : Call} {reply : Reply} {length : Nat}
    (transfers : call.units? = some length)
    (answered : host.call bus call = some (reply, after)) :
    reply = .unavailable ∧ after = bus ∨ ∃ outcome, reply.failure? = outcome.failure? ∧
      host.Conveys waits length bus outcome after := by
  cases call with
  | transceive =>
      obtain rfl := Option.some.inj transfers
      exact conveys_of_shifting answered fun ⟨_, _, _⟩ result =>
        ⟨_, Reply.failure?_exchanged .., transceive_conveys follows result⟩
  | receive =>
      obtain rfl := Option.some.inj transfers
      exact conveys_of_shifting answered fun ⟨_, _, _⟩ result =>
        ⟨_, Reply.failure?_exchanged .., receive_conveys follows result⟩
  | transmit =>
      obtain rfl := Option.some.inj transfers
      exact conveys_of_shifting answered fun ⟨_, _⟩ result =>
        ⟨_, Reply.failure?_outcome _, transmit_conveys follows result⟩
  | transfer | transferInPlace =>
      obtain rfl := Option.some.inj transfers
      exact conveys_of_shifting answered fun ⟨_, _, _⟩ result =>
        ⟨_, Reply.failure?_exchanged .., exchange_conveys follows result⟩
  | _ => cases transfers

/-! ## Hosts whose waits come back -/

section Returns

variable (returns : ∀ condition (bus : Bus ρ σ κ), (host.wait condition bus).isSome)

include returns

theorem await_isSome (condition : Condition) (bus : Bus ρ σ κ) :
    (host.await condition bus).isSome := by
  rw [await, Option.isSome_map]
  exact returns condition bus

theorem shift_isSome {β : Type} (feed : Feed w β) (left index : Nat) (buffers : β)
    (bus : Bus ρ σ κ) : (host.shift feed left index buffers bus).isSome := by
  induction left generalizing index buffers bus with
  | zero => rfl
  | succ left ih =>
      rw [shift]
      split
      next room => simpa [room] using await_isSome returns .txReady bus
      next => rfl
      next mid _ =>
        split
        next answer =>
          simpa [answer] using await_isSome returns .rxReady
            (host.send (w.toUnit (feed.next index buffers)) (left = 0) mid)
        next => rfl
        next => exact ih _ _ _

theorem exchange_isSome {β : Type} (feed : Feed w β) (length : Nat) (buffers : β)
    (bus : Bus ρ σ κ) : (host.exchange feed length buffers bus).isSome := by
  rw [exchange]
  split
  · rfl
  · exact shift_isSome returns ..

theorem transceive_isSome (outgoing incoming : Option (List w.Word)) (length : Nat)
    (bus : Bus ρ σ κ) : (host.transceive w outgoing incoming length bus).isSome := by
  rw [transceive]
  split
  · rfl
  · split
    · rfl
    · exact exchange_isSome returns ..

theorem operate_isSome (operation : Operation w) (bus : Bus ρ σ κ) :
    (host.operate bus operation).isSome := by
  cases operation with
  | receive | transmit =>
      simp only [operate, receive, transmit, Option.isSome_map]
      exact transceive_isSome returns ..
  | transfer | transferInPlace =>
      simp only [operate, transfer, transferInPlace, Option.isSome_map]
      exact exchange_isSome returns ..
  | delay =>
      simp only [operate, Option.isSome_map]
      exact returns .txEmpty bus

theorem operateAll_isSome (operations : List (Operation w)) (bus : Bus ρ σ κ) :
    (host.operateAll bus operations).isSome := by
  induction operations generalizing bus with
  | nil => rfl
  | cons operation rest ih =>
      rw [operateAll]
      split
      next result => simpa [result] using operate_isSome returns operation bus
      next => rfl
      next =>
        rw [Option.isSome_map]
        exact ih _

theorem transact_isSome (operations : List (Operation w)) (bus : Bus ρ σ κ) :
    (host.transact operations bus).isSome := by
  rw [transact]
  split
  next result =>
    simpa [result] using operateAll_isSome returns operations (bus.note (.adapter .low))
  next =>
    rw [Option.isSome_map]
    exact returns .txEmpty _

theorem deselect_isSome (device : Device) (bus : Bus ρ σ κ) :
    (host.deselect device bus).isSome := by
  rw [deselect]
  split
  · rfl
  · rw [Option.isSome_map]
    exact returns .txEmpty bus

/-- **A host whose waits all come back answers every call.** -/
theorem call_isSome (call : Call) (bus : Bus ρ σ κ) : (host.call bus call).isSome := by
  have shifts {w : Width} {answer : Option (Reply × Bus ρ σ κ)} (answered : answer.isSome) :
      (host.shifting w bus answer).isSome := by
    rw [shifting]
    split
    · exact answered
    · rfl
  cases call with
  | deselect | closeSession =>
      simp only [Host.call, closeSession_eq, Option.isSome_map]
      exact deselect_isSome returns _ bus
  | abandonSession =>
      rw [Host.call, Option.isSome_map, abandonSession]
      split
      · rw [Option.isSome_map]
        exact deselect_isSome returns _ bus
      · rfl
  | flush =>
      simp only [Host.call, Option.isSome_map]
      exact returns .txEmpty bus
  | drain =>
      refine shifts ?_
      rw [Option.isSome_map]
      exact returns .txEmpty bus
  | transceive =>
      refine shifts ?_
      rw [Option.isSome_map]
      exact transceive_isSome returns ..
  | receive | transmit =>
      refine shifts ?_
      simp only [receive, transmit, Option.isSome_map]
      exact transceive_isSome returns ..
  | transfer | transferInPlace =>
      refine shifts ?_
      simp only [transfer, transferInPlace, Option.isSome_map]
      exact exchange_isSome returns ..
  | transact =>
      refine shifts ?_
      rw [Option.isSome_map]
      exact transact_isSome returns ..
  | openSession =>
      rw [Host.call]
      split
      · rfl
      · rfl
  | _ => rfl

end Returns

end Host

end SerialBus
