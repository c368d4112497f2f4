import Mathlib.Data.Option.Basic
import SerialBus.Proofs.Runs

/-!
# The order of calls, read off the past

A strict host decides whether a call is out of order by the state of its bus.  The
same can be decided by the past alone, without any bus (`Past.breach`): by whether
the bus was brought up, which device is held, which settings were applied last, and
whether a transfer has timed out since the device was selected.

The two agree wherever a run can get (`refused_iff_breach`), because the state of
the bus tracks the past (`Tracks`): every deed that a strict host allows keeps up,
stage and configured device in step with it.
-/

set_option autoImplicit false

namespace SerialBus

variable {ρ σ κ : Type}

/-- A strict host refuses nothing but calls out of order. -/
theorem Host.refusal_eq (host : Host ρ σ κ) (strict : host.discipline = .strict)
    (breach : Option Breach) : host.refusal breach = breach.map .outOfOrder := by
  rw [refusal, strict]

theorem Host.refusal_eq_none (host : Host ρ σ κ) (strict : host.discipline = .strict)
    {breach : Option Breach} : host.refusal breach = none ↔ breach = none := by
  rw [host.refusal_eq strict, Option.map_eq_none_iff]

/-! ## The language of the order of calls -/

namespace Past

variable (past : List Deed)

/-- How configuring a device is out of order after a past. -/
def configureBreach : Option Breach :=
  if .bringUp ∉ past then some .notBroughtUp
  else if (held past).isSome then some .stillSelected
  else none

/-- How selecting a device is out of order after a past. -/
def selectBreach (device : Device) : Option Breach :=
  if (held past).isSome then some .stillSelected
  else if (settings past).map Settings.device = some device then none
  else some .notConfigured

/-- How releasing a device is out of order after a past. -/
def deselectBreach : Option Breach :=
  if (held past).isSome then none else some .notSelected

/-- How a transfer is out of order after a past. -/
def exchangeBreach : Option Breach :=
  if (held past).isNone then some .notSelected
  else if Faulted past then some .faulted
  else none

/-- How a call is out of order after a past.  A transfer with a buffer that is too
short fails for that reason, whatever the order of calls, and a session that is
abandoned reports nothing. -/
def breach : Call → Option Breach
  | .configure _ _ _ | .openSession _ _ _ _ => configureBreach past
  | .select device => selectBreach past device
  | .deselect _ | .closeSession _ => deselectBreach past
  | .transceive _ outgoing incoming length =>
      if shortage outgoing length = none ∧ shortage incoming length = none then
        exchangeBreach past
      else none
  | .receive _ _ | .transmit _ _ | .transfer _ _ _ | .transferInPlace _ _ => exchangeBreach past
  | _ => none

theorem configureBreach_eq_none :
    configureBreach past = none ↔ .bringUp ∈ past ∧ held past = none := by
  unfold configureBreach
  split <;> simp_all

theorem selectBreach_eq_none {device : Device} :
    selectBreach past device = none ↔
      held past = none ∧ (settings past).map Settings.device = some device := by
  unfold selectBreach
  cases held past with
  | none => simp
  | some holding => simp

theorem deselectBreach_eq_none : deselectBreach past = none ↔ (held past).isSome := by
  unfold deselectBreach
  split <;> simp_all

theorem exchangeBreach_eq_none :
    exchangeBreach past = none ↔ (held past).isSome ∧ ¬ Faulted past := by
  unfold exchangeBreach
  split
  · simp_all
  · split <;> simp_all [Option.isSome_iff_ne_none]

end Past

/-! ## The bus tracks the past -/

/-- The state of a bus agrees with a past. -/
structure Tracks (past : List Deed) (bus : Bus ρ σ κ) : Prop where
  up : bus.up = true ↔ .bringUp ∈ past
  configured : bus.configured = (Past.settings past).map Settings.device
  engaged : bus.stage.engaged = (Past.held past).isSome
  faulted : bus.stage = .faulted ↔ Past.Faulted past
  settled : bus.stage.settled = ((Past.held past).isNone && (Past.settings past).isSome)
  /-- A device is configured only on a bus that was brought up. -/
  settingsUp : (Past.settings past).isSome → .bringUp ∈ past
  /-- Only the configured device is held. -/
  heldConfigured : ∀ device ∈ Past.held past,
    (Past.settings past).map Settings.device = some device

namespace Tracks

variable {past : List Deed} {bus after : Bus ρ σ κ}

/-- Only these parts of a bus have to do with the order of calls. -/
theorem congr (tracks : Tracks past bus) (up : after.up = bus.up)
    (stage : after.stage = bus.stage) (configured : after.configured = bus.configured) :
    Tracks past after where
  up := up ▸ tracks.up
  configured := configured ▸ tracks.configured
  engaged := stage ▸ tracks.engaged
  faulted := stage ▸ tracks.faulted
  settled := stage ▸ tracks.settled
  settingsUp := tracks.settingsUp
  heldConfigured := tracks.heldConfigured

theorem fresh (hardware : σ) (lines : κ) :
    Tracks [] (Bus.fresh hardware lines : Bus ρ σ κ) where
  up := by simp [Bus.fresh]
  configured := rfl
  engaged := rfl
  faulted := by simp [Bus.fresh]
  settled := rfl
  settingsUp := nofun
  heldConfigured := nofun

/-! What is out of order on a bus is what is out of order after its past. -/

theorem configureBreach_eq (tracks : Tracks past bus) :
    bus.configureBreach = Past.configureBreach past := by
  have up : (!bus.up) = true ↔ .bringUp ∉ past := by simp [← tracks.up]
  simp only [Bus.configureBreach, Past.configureBreach, up, tracks.engaged]

theorem selectBreach_eq (tracks : Tracks past bus) (device : Device) :
    bus.selectBreach device = Past.selectBreach past device := by
  simp only [Bus.selectBreach, Past.selectBreach, tracks.engaged, tracks.settled,
    tracks.configured]
  cases Past.held past <;> cases Past.settings past <;> simp

theorem deselectBreach_eq (tracks : Tracks past bus) :
    bus.deselectBreach = Past.deselectBreach past := by
  simp only [Bus.deselectBreach, Past.deselectBreach, tracks.engaged]

theorem exchangeBreach_eq (tracks : Tracks past bus) :
    bus.exchangeBreach = Past.exchangeBreach past := by
  have engaged := tracks.engaged
  have faulted := tracks.faulted
  cases held : Past.held past <;> cases stage : bus.stage <;>
    simp_all [Bus.exchangeBreach, Past.exchangeBreach, Stage.engaged]

/-- Nothing is configured or held before the bus is brought up. -/
theorem nothing_before_bringUp (tracks : Tracks past bus) (unused : .bringUp ∉ past) :
    Past.settings past = none ∧ Past.held past = none := by
  have nothingApplied : Past.settings past = none := by
    simpa using mt tracks.settingsUp unused
  refine ⟨nothingApplied, ?_⟩
  cases held : Past.held past with
  | none => rfl
  | some device => simpa [nothingApplied] using tracks.heldConfigured device held

/-- Every deed that a strict host allows keeps the bus in step with the past. -/
theorem enacted {host : Host ρ σ κ} (strict : host.discipline = .strict) {deed : Deed}
    (tracks : Tracks past bus) (enacted : host.Enacted deed bus after) :
    Tracks (deed :: past) after := by
  cases enacted with
  | bringUp down =>
      have unused : .bringUp ∉ past := by simp [← tracks.up, down]
      obtain ⟨nothingApplied, nothingHeld⟩ := tracks.nothing_before_bringUp unused
      have noFault : ¬ Past.Faulted past := by simp [Past.Faulted, nothingHeld]
      exact {
        up := by simp
        configured := by simp [tracks.configured]
        engaged := by simp [nothingHeld, Stage.engaged]
        faulted := by simp [noFault]
        settled := by simp [nothingApplied, Stage.settled]
        settingsUp := by simp
        heldConfigured := by simp [nothingHeld] }
  | bringUpAgain up =>
      exact {
        up := by simp [up]
        configured := by simpa using tracks.configured
        engaged := by simpa using tracks.engaged
        faulted := by simpa using tracks.faulted
        settled := by simpa using tracks.settled
        settingsUp := by simp
        heldConfigured := by simpa using tracks.heldConfigured }
  | @configure _ device mode baudHz divisor allowed legal =>
      rw [host.refusal_eq_none strict, tracks.configureBreach_eq] at allowed
      have inOrder := (Past.configureBreach_eq_none past).1 allowed
      have noFault : ¬ Past.Faulted past := by simp [Past.Faulted, inOrder.2]
      exact {
        up := by simp [tracks.up]
        configured := by simp
        engaged := by simp [inOrder.2, Stage.engaged]
        faulted := by simp [noFault]
        settled := by simp [inOrder.2, Stage.settled]
        settingsUp := by simp [inOrder.1]
        heldConfigured := by simp [inOrder.2] }
  | @select _ device allowed =>
      rw [host.refusal_eq_none strict, tracks.selectBreach_eq] at allowed
      have inOrder := ((Past.selectBreach_eq_none past).1 allowed).2
      exact {
        up := by simp [tracks.up]
        configured := by simp [tracks.configured]
        engaged := by simp [Stage.engaged]
        faulted := by simp
        settled := by simp [Stage.settled]
        settingsUp := by simpa using tracks.settingsUp
        heldConfigured := by simpa using inOrder }
  | @release _ device allowed =>
      rw [host.refusal_eq_none strict, tracks.deselectBreach_eq] at allowed
      obtain ⟨holding, held⟩ :=
        Option.isSome_iff_exists.1 ((Past.deselectBreach_eq_none past).1 allowed)
      have applied : (Past.settings past).isSome := by
        rw [← Option.isSome_map, tracks.heldConfigured holding held]
        rfl
      exact {
        up := by simp [tracks.up]
        configured := by simp [tracks.configured]
        engaged := by simp [Stage.engaged]
        faulted := by simp
        settled := by simp [Stage.settled, applied]
        settingsUp := by simpa using tracks.settingsUp
        heldConfigured := by simp }
  | @releaseNothing _ device _ refused =>
      -- a release that does nothing counts as one, and there was nothing to release
      have nothingHeld : Past.held past = none := by
        have notAllowed : ¬ (Past.held past).isSome := by
          rw [← Past.deselectBreach_eq_none, ← tracks.deselectBreach_eq,
            ← host.refusal_eq_none strict, refused]
          exact Option.some_ne_none _
        simpa using notAllowed
      have noFault : ¬ Past.Faulted past := by simp [Past.Faulted, nothingHeld]
      exact {
        up := by simp [tracks.up]
        configured := by simpa using tracks.configured
        engaged := by simp [tracks.engaged, nothingHeld]
        faulted := by simp [tracks.faulted, noFault]
        settled := by simp [tracks.settled, nothingHeld]
        settingsUp := by simpa using tracks.settingsUp
        heldConfigured := by simp }
  | fault allowed =>
      rw [host.refusal_eq_none strict] at allowed
      have selected : bus.stage = .selected := by
        unfold Bus.exchangeBreach at allowed
        split at allowed <;> simp_all
      have engaged : (Past.held past).isSome := by
        rw [← tracks.engaged, selected]
        rfl
      obtain ⟨device, holding⟩ := Option.isSome_iff_exists.1 engaged
      exact {
        up := by simp [tracks.up]
        configured := by simpa using tracks.configured
        engaged := by simp [selected, holding, Stage.engaged]
        faulted := by simp [selected, holding]
        settled := by simp [selected, holding, Stage.settled]
        settingsUp := by simpa using tracks.settingsUp
        heldConfigured := by simpa using tracks.heldConfigured }

end Tracks

/-- On a strict host the bus tracks the past wherever a run can get. -/
theorem Host.Reaches.tracks {host : Host ρ σ κ} (strict : host.discipline = .strict)
    {drift : σ → σ → Prop} {hardware : σ} {lines : κ} {log : List (Answered ρ σ κ)}
    {bus : Bus ρ σ κ} (reached : host.Reaches drift (.fresh hardware lines) log bus) :
    Tracks (pastOf log) bus :=
  reached.invariant Tracks (.fresh hardware lines) (fun tracks _ => tracks.congr rfl rfl rfl)
    (fun tracks _ => tracks.congr rfl rfl rfl) (fun tracks => tracks.enacted strict)

/-! ## Refusals -/

/-- How a failure says that a call is out of order. -/
def Failure.breach? : Failure → Option Breach
  | .outOfOrder breach => some breach
  | _ => none

/-- How a reply says that a call is out of order. -/
def Reply.breach? (reply : Reply) : Option Breach :=
  reply.failure?.bind Failure.breach?

/-- How an outcome says that a call is out of order. -/
def Outcome.breach? (outcome : Outcome) : Option Breach :=
  outcome.failure?.bind Failure.breach?

@[simp] theorem Reply.breach?_outcome (outcome : Outcome) :
    (Reply.outcome outcome).breach? = outcome.breach? := by
  rw [breach?, failure?_outcome]
  rfl

@[simp] theorem Reply.breach?_exchanged (w : Width) (outcome : Outcome)
    (incoming : Option (List w.Word)) :
    (Reply.exchanged w outcome incoming).breach? = outcome.breach? := by
  rw [breach?, failure?_exchanged]
  rfl

namespace Host

variable (host : Host ρ σ κ) {bus : Bus ρ σ κ} {breach : Breach}

/-- A call comes back and says how it is out of order. -/
def Refuses (bus : Bus ρ σ κ) (call : Call) (breach : Breach) : Prop :=
  ∃ answer ∈ host.call bus call, answer.1.breach? = some breach

/-- A call refuses as what it is an answer to does. -/
theorem refuses_map {α : Type} {result : Option α} {reply : α → Reply × Bus ρ σ κ}
    {call : Call} (outcome : α → Outcome) (answered : host.call bus call = result.map reply)
    (told : ∀ answer, (reply answer).1.breach? = (outcome answer).breach?) :
    host.Refuses bus call breach ↔ ∃ answer ∈ result, (outcome answer).breach? = some breach := by
  rw [Refuses, answered, Option.exists_mem_map]
  simp only [told]

theorem exchange_refuses (strict : host.discipline = .strict) {w : Width} {β : Type}
    (feed : Feed w β) (length : Nat) (buffers : β) :
    (∃ answer ∈ host.exchange feed length buffers bus, answer.1.breach? = some breach) ↔
      bus.exchangeBreach = some breach := by
  constructor
  · rintro ⟨⟨outcome, final, after⟩, result, refused⟩
    rcases exchange_shifted result with ⟨failure, refusal, rfl, _, _⟩ | ⟨_, _, shifted, _⟩
    · obtain ⟨reason, found, rfl⟩ := outOfOrder_of_refusal refusal
      exact found.trans refused
    · rcases shifted.outcome_cases with rfl | rfl | rfl
      · cases refused
      · cases refused
      · cases refused
  · intro found
    refine ⟨(.error (.outOfOrder breach), buffers, bus), ?_, rfl⟩
    rw [exchange, host.refusal_eq strict, found]
    rfl

theorem transceive_refuses (strict : host.discipline = .strict) {w : Width}
    {outgoing incoming : Option (List w.Word)} {length : Nat} :
    (∃ answer ∈ host.transceive w outgoing incoming length bus,
        answer.1.breach? = some breach) ↔
      (if shortage outgoing length = none ∧ shortage incoming length = none then
        bus.exchangeBreach else none) = some breach := by
  cases out : shortage outgoing length with
  | some failure =>
      obtain ⟨_, rfl⟩ := bufferTooShort_of_shortage out
      simp [transceive, out, Outcome.breach?, Outcome.failure?, Failure.breach?]
  | none =>
      cases into : shortage incoming length with
      | some failure =>
          obtain ⟨_, rfl⟩ := bufferTooShort_of_shortage into
          simp [transceive, out, into, Outcome.breach?, Outcome.failure?, Failure.breach?]
      | none =>
          simp only [transceive, out, into, and_self, if_true]
          exact host.exchange_refuses strict _ _ _

theorem receive_refuses (strict : host.discipline = .strict) {w : Width}
    (incoming : List w.Word) :
    (∃ answer ∈ host.receive w incoming bus, answer.1.breach? = some breach) ↔
      bus.exchangeBreach = some breach := by
  have enough : shortage (some incoming) incoming.length = none := shortage_eq_none (by simp)
  rw [receive, Option.exists_mem_map, host.transceive_refuses strict, if_pos ⟨rfl, enough⟩]

theorem transmit_refuses (strict : host.discipline = .strict) {w : Width}
    (outgoing : List w.Word) :
    (∃ answer ∈ host.transmit w outgoing bus, answer.1.breach? = some breach) ↔
      bus.exchangeBreach = some breach := by
  have enough : shortage (some outgoing) outgoing.length = none := shortage_eq_none (by simp)
  rw [transmit, Option.exists_mem_map, host.transceive_refuses strict, if_pos ⟨enough, rfl⟩]

theorem deselect_refuses (strict : host.discipline = .strict) (device : Device) :
    (∃ answer ∈ host.deselect device bus, answer.1.breach? = some breach) ↔
      bus.deselectBreach = some breach := by
  cases found : bus.deselectBreach with
  | some reason =>
      rw [deselect, host.refusal_eq strict, found]
      simp [Outcome.breach?, Outcome.failure?, Failure.breach?]
  | none =>
      rw [deselect, host.refusal_eq strict, found]
      simp only [Option.map_none, reduceCtorEq, iff_false, not_exists, not_and]
      intro answer result
      obtain ⟨⟨outcome, mid⟩, waits, rfl⟩ := Option.map_eq_some_iff.1 result
      obtain ⟨_, waited, _⟩ := wait_waited waits
      rcases waited.outcome_cases with rfl | rfl
      · exact (Option.some_ne_none breach).symm
      · exact (Option.some_ne_none breach).symm

theorem flush_refuses_nothing :
    ¬ ∃ answer ∈ host.flush bus, answer.1.breach? = some breach := by
  rintro ⟨⟨outcome, after⟩, waits, refused⟩
  obtain ⟨_, waited, _⟩ := wait_waited waits
  rcases waited.outcome_cases with rfl | rfl
  · cases refused
  · cases refused

theorem configure_breach? (strict : host.discipline = .strict) (device : Device) (mode : Mode)
    (baudHz : UInt32) :
    (host.configure device mode baudHz bus).1.breach? = bus.configureBreach := by
  rw [configure, host.refusal_eq strict]
  cases bus.configureBreach with
  | some reason => rfl
  | none =>
      cases host.controller.divisor host.clockHz baudHz with
      | none => rfl
      | some divisor => rfl

theorem select_breach? (strict : host.discipline = .strict) (device : Device) :
    (host.select device bus).1.breach? = bus.selectBreach device := by
  rw [select, host.refusal_eq strict]
  cases bus.selectBreach device with
  | some reason => rfl
  | none => rfl

/-- Opening a session fails only as configuring its device does. -/
theorem openSession_fst (held : Guard) (device : Device) (mode : Mode) (baudHz : UInt32)
    (bus : Bus ρ σ κ) :
    (host.openSession held device mode baudHz bus).1 =
      (host.configure device mode baudHz bus).1.map fun _ => { device } := by
  rw [openSession]
  rcases configured : host.configure device mode baudHz bus with ⟨outcome, mid⟩
  obtain ⟨rfl, enacted⟩ | ⟨failure, _, rfl, rfl⟩ := configure_cases configured
  · have allowed := selectBreach_of_configured enacted
    simp [select, allowed, Except.map]
  · rfl

theorem dmaRefusal_breach? {buffer : Option Dma.Buffer} {length : Nat} {failure : Failure}
    (refused : Dma.refusal buffer length = some failure) : failure.breach? = none := by
  unfold Dma.refusal at refused
  split at refused
  · cases refused
    rfl
  · obtain ⟨_, rfl⟩ := bufferTooShort_of_shortage refused
    rfl

theorem transmitByDma_breach? (handshakes : Handshakes) (channel : UInt8)
    (buffer : Option Dma.Buffer) (length : Nat) :
    (host.transmitByDma handshakes channel buffer length bus).1.breach? = none := by
  unfold transmitByDma
  split
  next refused => exact dmaRefusal_breach? refused
  next => rfl

theorem receiveByDma_breach? (handshakes : Handshakes) (channel : UInt8) (buffer : Dma.Buffer)
    (length : Nat) :
    (host.receiveByDma handshakes channel buffer length bus).1.breach? = none := by
  unfold receiveByDma
  split
  next refused => exact dmaRefusal_breach? refused
  next => rfl

/-- The order of calls is nothing to the DMA engine. -/
theorem dma_refuses_nothing {call : Call} {answer : Handshakes → Reply × Bus ρ σ κ}
    (answered : host.call bus call = some (host.withDma bus answer))
    (told : ∀ handshakes, (answer handshakes).1.breach? = none) :
    ¬ host.Refuses bus call breach := by
  rintro ⟨_, same, refused⟩
  obtain rfl := Option.some.inj (answered.symm.trans same)
  rw [withDma] at refused
  split at refused
  · cases refused
  · simp [told] at refused

end Host

/-- The calls that a controller offers: words only of a width that it shifts, and no
transaction of a device adapter, which is several calls in one. -/
def Controller.Offers (controller : Controller ρ) : Call → Prop
  | .transceive w _ _ _ | .receive w _ | .transmit w _ | .transfer w _ _
  | .transferInPlace w _ | .drain w => controller.shifts w
  | .transact _ _ => False
  | _ => True

/-- On a bus that tracks a past, the calls refused are those out of order after it. -/
theorem Tracks.refuses_iff {host : Host ρ σ κ} (strict : host.discipline = .strict)
    {past : List Deed} {bus : Bus ρ σ κ} (tracks : Tracks past bus) {call : Call}
    (offered : host.controller.Offers call) (breach : Breach) :
    host.Refuses bus call breach ↔ Past.breach past call = some breach := by
  have inOrder : none ≠ some breach := (Option.some_ne_none breach).symm
  cases call with
  | configure device mode baudHz =>
      rw [Past.breach, ← tracks.configureBreach_eq,
        ← host.configure_breach? strict device mode baudHz]
      simp [Host.Refuses, Host.call]
  | select device =>
      rw [Past.breach, ← tracks.selectBreach_eq, ← host.select_breach? strict device]
      simp [Host.Refuses, Host.call]
  | openSession held device mode baudHz =>
      rw [Past.breach, ← tracks.configureBreach_eq,
        ← host.configure_breach? strict device mode baudHz]
      have same := host.openSession_fst held device mode baudHz bus
      rcases opened : host.openSession held device mode baudHz bus with ⟨session, mid⟩
      rw [opened] at same
      cases configured : (host.configure device mode baudHz bus).1 with
      | error failure =>
          rw [configured] at same
          obtain rfl : session = .error failure := same
          simp [Host.Refuses, Host.call, opened]
      | ok =>
          rw [configured] at same
          obtain rfl : session = .ok { device } := same
          simp [Host.Refuses, Host.call, opened, Reply.breach?, Reply.failure?, Outcome.breach?,
            Outcome.failure?]
  | deselect device =>
      rw [Past.breach, ← tracks.deselectBreach_eq, ← host.deselect_refuses strict device]
      exact host.refuses_map Prod.fst rfl fun answer => Reply.breach?_outcome answer.1
  | closeSession session =>
      rw [Past.breach, ← tracks.deselectBreach_eq, ← host.deselect_refuses strict session.device,
        ← Host.closeSession_eq session bus]
      exact host.refuses_map Prod.fst rfl fun answer => Reply.breach?_outcome answer.1
  | transceive w outgoing incoming length =>
      rw [Past.breach, ← tracks.exchangeBreach_eq, ← host.transceive_refuses strict]
      exact host.refuses_map Prod.fst (if_pos offered) fun answer => Reply.breach?_exchanged ..
  | receive w incoming =>
      rw [Past.breach, ← tracks.exchangeBreach_eq, ← host.receive_refuses strict incoming]
      exact host.refuses_map Prod.fst (if_pos offered) fun answer => Reply.breach?_exchanged ..
  | transmit w outgoing =>
      rw [Past.breach, ← tracks.exchangeBreach_eq, ← host.transmit_refuses strict outgoing]
      exact host.refuses_map Prod.fst (if_pos offered) fun answer => Reply.breach?_outcome answer.1
  | transfer w incoming outgoing =>
      rw [Past.breach, ← tracks.exchangeBreach_eq, ← host.exchange_refuses strict
        (.padded w outgoing) (max incoming.length outgoing.length) incoming]
      exact host.refuses_map Prod.fst (if_pos offered) fun answer => Reply.breach?_exchanged ..
  | transferInPlace w words =>
      rw [Past.breach, ← tracks.exchangeBreach_eq, ← host.exchange_refuses strict
        (.inPlace w) words.length words]
      exact host.refuses_map Prod.fst (if_pos offered) fun answer => Reply.breach?_exchanged ..
  | flush =>
      refine iff_of_false ?_ inOrder
      rw [host.refuses_map Prod.fst rfl fun answer => Reply.breach?_outcome answer.1]
      exact host.flush_refuses_nothing
  | drain w =>
      have refuses : host.Refuses bus (.drain w) breach ↔
          ∃ answer ∈ host.flush bus, answer.1.breach? = some breach :=
        host.refuses_map Prod.fst (if_pos offered) fun answer => Reply.breach?_outcome answer.1
      exact iff_of_false (mt refuses.1 host.flush_refuses_nothing) inOrder
  | abandonSession session =>
      refine iff_of_false ?_ inOrder
      rw [host.refuses_map (fun _ => .ok ()) rfl fun answer => rfl]
      simp [Outcome.breach?, Outcome.failure?]
  | bringUp bits =>
      refine iff_of_false ?_ inOrder
      simp [Host.Refuses, Host.call, Reply.breach?, Reply.failure?]
  | prepareDma =>
      exact iff_of_false (host.dma_refuses_nothing rfl fun _ => rfl) inOrder
  | transmitByDma channel buffer length =>
      exact iff_of_false (host.dma_refuses_nothing rfl fun handshakes =>
        (Reply.breach?_outcome _).trans
          (host.transmitByDma_breach? handshakes channel buffer length)) inOrder
  | receiveByDma channel buffer length =>
      exact iff_of_false (host.dma_refuses_nothing rfl fun handshakes =>
        (Reply.breach?_outcome _).trans
          (host.receiveByDma_breach? handshakes channel buffer length)) inOrder
  | clearOverrun =>
      exact iff_of_false (host.dma_refuses_nothing rfl fun _ => rfl) inOrder
  | transact w operations => exact offered.elim

/-- **The order of calls is the documented one.**  Wherever a run on a strict host can
get, a call is refused as out of order exactly if it is out of order after the past
of the run, and for the same reason; and selecting a device that is in order
succeeds. -/
theorem refused_iff_breach {host : Host ρ σ κ} (strict : host.discipline = .strict)
    {drift : σ → σ → Prop} {hardware : σ} {lines : κ} {log : List (Answered ρ σ κ)}
    {bus : Bus ρ σ κ} (reached : host.Reaches drift (.fresh hardware lines) log bus) :
    (∀ call, host.controller.Offers call → ∀ breach,
      host.Refuses bus call breach ↔ Past.breach (pastOf log) call = some breach) ∧
    (∀ device, Past.selectBreach (pastOf log) device = none →
      ∃ after, host.call bus (.select device) = some (.outcome (.ok ()), after)) := by
  have tracks := reached.tracks strict
  refine ⟨fun call offered breach => tracks.refuses_iff strict offered breach, ?_⟩
  intro device inOrder
  rw [← tracks.selectBreach_eq] at inOrder
  rcases selected : host.select device bus with ⟨outcome, after⟩
  obtain ⟨rfl, _⟩ | ⟨failure, refused, _, _⟩ := Host.select_cases selected
  · exact ⟨after, by simp [Host.call, selected]⟩
  · rw [host.refusal_eq strict, inOrder] at refused
    cases refused

/-- After a device was selected, selecting another one is out of order, and a transfer
is in order. -/
theorem refused_iff_breach_constant :
    ∃ log bus, (Host.constant 0x203).Reaches (fun _ _ => True) (.fresh () ()) log bus ∧
      pastOf log = [.select ⟨0, 1, .eight⟩, .configure ⟨0, 1, .eight⟩ (.ofBits 0) 1000000,
        .bringUp] ∧
      (Host.constant 0x203).Refuses bus (.select ⟨1, 2, .eight⟩) .stillSelected ∧
      ∀ breach, ¬ (Host.constant 0x203).Refuses bus (.transmit .eight []) breach := by
  let turns : List (Turn Unit) := [.call (.bringUp 8),
    .call (.configure ⟨0, 1, .eight⟩ (.ofBits 0) 1000000), .call (.select ⟨0, 1, .eight⟩)]
  have ran : ((Host.constant 0x203).turns (.fresh () ()) turns).map
      (fun log => pastOf (answers turns log)) = some [.select ⟨0, 1, .eight⟩,
        .configure ⟨0, 1, .eight⟩ (.ofBits 0) 1000000, .bringUp] := rfl
  obtain ⟨log, ran, told⟩ := Option.map_eq_some_iff.1 ran
  have reached := Host.reaches_of_run ran
  obtain ⟨refused, _⟩ := refused_iff_breach rfl reached
  rw [told] at refused
  refine ⟨_, _, reached, told, ?_, ?_⟩
  · exact (refused (.select ⟨1, 2, .eight⟩) trivial _).2 rfl
  · intro breach out
    exact nomatch (refused (.transmit .eight []) rfl breach).1 out

end SerialBus
