import SerialBus.Proofs.Fields
import SerialBus.Proofs.Growth
import SerialBus.Proofs.LineLevels
import SerialBus.Proofs.Rounds

/-!
# Drained before released

A device is released in three steps: a wait for everything sent to leave the controller,
the controller's part in letting the device go, and the drive of its line.  The wait may
end either way, and what follows it is the same (`release_drains`).

What the wait leaves on the bus are status reads, of which only the last may report that
the transmitter is empty, and that one decides how the wait ends (`Host.Drains`).  The
standard controller then writes its control register and changes its mode register, where
it replaces the select pattern and nothing else; a USART does nothing
(`Backend.finishing`).

Nothing but a release takes a line high, so on lines that show every drive each line that
goes high in a run does so after such a wait (`Host.Reaches.releases`).
-/

set_option autoImplicit false

namespace SerialBus

variable {σ κ : Type}

/-! ## Calls that release a device -/

/-- The device that a call releases, if it releases one. -/
def Call.released? : Call → Option Device
  | .deselect device => some device
  | .closeSession session => some session.device
  | .abandonSession session => if session.isOpen then some session.device else none
  | _ => none

/-- A call that releases a device goes where releasing the device goes. -/
theorem Host.deselect_of_call {ρ : Type} {host : Host ρ σ κ} {bus after : Bus ρ σ κ}
    {call : Call} {reply : Reply} {device : Device} (releases : call.released? = some device)
    (answered : host.call bus call = some (reply, after)) :
    ∃ outcome, host.deselect device bus = some (outcome, after) := by
  cases call with
  | deselect =>
      obtain rfl := Option.some.inj releases
      obtain ⟨⟨outcome, _⟩, result, same⟩ := Option.map_eq_some_iff.1 answered
      cases same
      exact ⟨outcome, result⟩
  | closeSession session =>
      obtain rfl := Option.some.inj releases
      obtain ⟨⟨outcome, _⟩, result, same⟩ := Option.map_eq_some_iff.1 answered
      cases same
      exact ⟨outcome, (closeSession_eq session bus).symm.trans result⟩
  | abandonSession session =>
      obtain ⟨isOpen, rfl⟩ : session.isOpen = true ∧ session.device = device := by
        simpa [Call.released?] using releases
      obtain ⟨_, abandoned, same⟩ := Option.map_eq_some_iff.1 answered
      rw [abandonSession_of_open isOpen] at abandoned
      obtain ⟨⟨outcome, _⟩, result, rfl⟩ := Option.map_eq_some_iff.1 abandoned
      cases same
      exact ⟨outcome, result⟩
  | _ => cases releases

/-! ## The controller's part -/

namespace Standard

/-- Replacing the select pattern by that of no device sets the bits of the pattern. -/
theorem ModeControl.select_noneSelected (value : UInt32) :
    ModeControl.select noneSelected value = value ||| 0xF0000 := by
  have pattern : ∀ position < 32, testBit 0xF0000 position =
      decide (16 ≤ position ∧ position < 20) := by decide
  have ones : ∀ position < 4, testBit noneSelected.toUInt32 position = true := by decide
  apply eq_of_testBit_eq
  intro position inWord
  rw [ModeControl.select, Field.testBit_set _ _ _ _ inWord, testBit_or, pattern position inWord]
  by_cases inside : 16 ≤ position ∧ position < 20
  · have set := ones (position - 16) (by omega)
    simpa [ModeControl.pattern, inside] using set
  · simp [ModeControl.pattern, inside]

end Standard

namespace Backend

/-- What the controller's part in letting go of a device leaves on the bus, if its mode
register reads as a value: every bit of it is kept but those of the select pattern. -/
def finishing : (backend : Backend) → (mode : UInt32) → List (Event backend.Register)
  | .standard, mode =>
      [.write .control 0x1000000, .read .mode mode, .write .mode (mode ||| 0xF0000)]
  | .usart, _ => []

end Backend

namespace Host

variable {backend : Backend} {host : Host backend.Register σ κ} {bus : Bus backend.Register σ κ}

theorem run_finish (bus : Bus backend.Register σ κ)
    (drives : host.controller = backend.controller) :
    ∃ mode, host.run host.controller.finish bus = host.after (backend.finishing mode) bus := by
  rw [drives]
  cases backend with
  | standard =>
      refine ⟨(host.hardware.read .mode
        (host.hardware.write .control 0x1000000 bus.hardware)).1, ?_⟩
      rw [run_eq, Backend.finishing, ← Standard.ModeControl.select_noneSelected]
      rfl
  | usart => exact ⟨0, rfl⟩

/-! ## The wait -/

/-- What a wait for everything sent to leave the controller leaves on the bus, if the round
at an index is its last. -/
structure Drains (host : Host backend.Register σ κ) (bus : Bus backend.Register σ κ)
    (outcome : Outcome) (drain : List (Event backend.Register)) (last : Nat) : Prop where
  waits : host.wait .txEmpty bus = some (outcome, host.after drain bus)
  reads : Trace.onBus drain = host.polls bus (last + 1)
  goesOn : ∀ earlier < last, host.GoesOn bus .txEmpty earlier
  ends : host.readyAt bus .txEmpty last = true ∨ host.spentAt bus last = true
  ok_iff : outcome = .ok () ↔ host.readyAt bus .txEmpty last = true
  timeout_iff : outcome = .error (.timeout .txEmpty) ↔
    host.readyAt bus .txEmpty last = false ∧ host.spentAt bus last = true

theorem wait_drains {outcome : Outcome} {after : Bus backend.Register σ κ}
    (result : host.wait .txEmpty bus = some (outcome, after)) :
    ∃ drain last, host.Drains bus outcome drain last ∧ after = host.after drain bus := by
  obtain ⟨last, _, goesOn, ⟨ready, rfl, rfl⟩ | ⟨unready, spent, rfl, rfl⟩⟩ := wait_cases result
  · obtain ⟨drain, polled, reads⟩ := host.polledAt_after bus last
    refine ⟨drain, last, ⟨polled ▸ result, reads, goesOn, .inl ready, ?_, ?_⟩, polled⟩
    · simp [ready]
    · simp [ready]
  · obtain ⟨drain, rounds, reads⟩ := host.roundAt_after bus (last + 1)
    refine ⟨drain, last, ⟨rounds ▸ result, reads, goesOn, .inr spent, ?_, ?_⟩, rounds⟩
    · simp [unready]
    · simp [unready, spent]

end Host

/-! ## Releases -/

variable {backend : Backend} {host : Host backend.Register σ Unit}
  {bus after : Bus backend.Register σ Unit}

namespace Host

/-- A device is let go of: the controller's part, and then its line goes high. -/
theorem letGo_trace (bus : Bus backend.Register σ Unit)
    (drives : host.controller = backend.controller) (recorded : host.lines = .recorded)
    (device : Device) :
    ∃ mode, (host.letGo device bus).trace =
      bus.trace ++ (backend.finishing mode ++ [.line (.line device.line .high)]) := by
  obtain ⟨mode, finished⟩ := host.run_finish bus drives
  refine ⟨mode, ?_⟩
  have driven : (host.letGo device bus).trace =
      (host.run host.controller.finish bus).trace ++ [.line (.line device.line .high)] :=
    drive_trace recorded device.line .high
  rw [driven, finished, after_trace, List.append_assoc]

/-- A release that the order of calls allows waits first, and lets go however that ends. -/
theorem deselect_drains (drives : host.controller = backend.controller)
    (recorded : host.lines = .recorded) (allowed : host.refusal bus.deselectBreach = none)
    {device : Device} {outcome : Outcome}
    (result : host.deselect device bus = some (outcome, after)) :
    ∃ drain last mode, host.Drains bus outcome drain last ∧
      after.trace = bus.trace ++
        (drain ++ backend.finishing mode ++ [.line (.line device.line .high)]) ∧
      after.stage = .deselected := by
  simp only [deselect, allowed] at result
  obtain ⟨⟨waited, mid⟩, waits, same⟩ := Option.map_eq_some_iff.1 result
  cases same
  obtain ⟨drain, last, drains, rfl⟩ := wait_drains waits
  obtain ⟨mode, released⟩ := letGo_trace (host.after drain bus) drives recorded device
  refine ⟨drain, last, mode, drains, ?_, rfl⟩
  rw [released, after_trace]
  simp

end Host

/-! ## Releases in a trace -/

/-- A line goes high. -/
def Event.IsRelease {ρ : Type} : Event ρ → Prop
  | .line (.line _ .high) => True
  | _ => False

/-- Wherever a line goes high in a trace, a property of what went before holds. -/
def Trace.EachRelease {ρ : Type} (property : List (Event ρ) → Prop) (events : List (Event ρ)) :
    Prop :=
  ∀ before number rest, events = before ++ .line (.line number .high) :: rest → property before

section EachRelease

variable {ρ : Type} {property : List (Event ρ) → Prop} {first second : List (Event ρ)}

theorem Trace.EachRelease.append (each : EachRelease property first)
    (keeps : ∀ event ∈ second, ¬ event.IsRelease) : EachRelease property (first ++ second) := by
  intro before number rest split
  -- the release lies in the second list, or in the first, where the property is known
  rcases List.append_eq_append_iff.1 split with ⟨more, -, inSecond⟩ | ⟨more, inFirst, same⟩
  · exact (keeps (.line (.line number .high)) (by simp [inSecond]) trivial).elim
  · cases more with
    | nil =>
        have member : .line (.line number .high) ∈ [] ++ second := same ▸ List.mem_cons_self
        exact (keeps _ member trivial).elim
    | cons found more =>
        obtain ⟨rfl, _⟩ := List.cons.inj same
        exact each before number more inFirst

theorem Trace.EachRelease.snoc (each : EachRelease property first) (holds : property first)
    (driven : UInt8) : EachRelease property (first ++ [.line (.line driven .high)]) := by
  intro before number rest split
  rcases List.eq_nil_or_concat rest with rfl | ⟨rest, last, rfl⟩
  · obtain ⟨rfl, _⟩ := List.append_inj' split rfl
    exact holds
  · rw [List.concat_eq_append, ← List.cons_append, ← List.append_assoc] at split
    exact each before number rest (List.append_inj' split rfl).1

theorem Event.Routine.not_isRelease {controller : Controller ρ} {event : Event ρ}
    (routine : event.Routine controller) : ¬ event.IsRelease := by
  cases routine <;> exact id

theorem Event.IsClock.not_isRelease {event : Event ρ} (clock : event.IsClock) :
    ¬ event.IsRelease := by
  cases event with
  | clock now => exact id
  | _ => exact clock.elim

end EachRelease

theorem Host.Drains.not_isRelease {outcome : Outcome} {drain : List (Event backend.Register)}
    {last : Nat} (drains : host.Drains bus outcome drain last) :
    ∀ event ∈ drain, ¬ event.IsRelease := by
  intro event member
  by_cases clock : event.IsClock
  · exact clock.not_isRelease
  · have seen : event ∈ Trace.onBus drain := List.mem_filter.2 ⟨member, by simpa using clock⟩
    rw [drains.reads, Host.polls] at seen
    obtain ⟨_, _, rfl⟩ := List.mem_map.1 seen
    exact id

theorem Backend.finishing_not_isRelease (mode : UInt32) :
    ∀ event ∈ backend.finishing mode, ¬ event.IsRelease := by
  cases backend with
  | standard => simp [finishing, Event.IsRelease]
  | usart => simp [finishing]

/-- Only the release of a device takes a line high. -/
theorem Deed.Adds.not_isRelease (recorded : host.lines = .recorded) {deed : Deed}
    {event : Event backend.Register} (adds : deed.Adds host event)
    (keeps : ∀ device, deed ≠ .release device) : ¬ event.IsRelease := by
  cases adds with
  | @access access state _ _ member =>
      cases access with
      | enable | write =>
          rw [List.mem_singleton.1 member]
          exact id
      | modify register change =>
          rcases List.mem_cons.1 member with rfl | member
          · exact id
          · rw [List.mem_singleton.1 member]
            exact id
  | @drive number level lines shown drives shows =>
      rw [recorded] at shows
      obtain rfl : LineEvent.line number level = shown := Option.some.inj shows
      cases deed with
      | select device =>
          obtain ⟨rfl, rfl⟩ := Prod.mk.inj (Option.some.inj drives)
          exact id
      | release device => exact absurd rfl (keeps device)
      | _ => cases drives

/-! ## Releases in a run -/

theorem Call.keeps_of_released?_eq_none {call : Call} {reply : Reply}
    (keeps : call.released? = none) (device : Device) : .release device ∉ call.deeds reply := by
  rcases call.deeds_cases reply with ⟨released, deeds⟩ | keeps
  · cases call with
    | deselect | closeSession => cases keeps
    | abandonSession session =>
        cases isOpen : session.isOpen with
        | true => simp [Call.released?, isOpen] at keeps
        | false => simp [Call.deeds, isOpen]
    | configure | select | openSession =>
        simp only [Call.deeds] at deeds ⊢
        split
        · simp
        · simp
    | transceive | receive | transmit | transfer | transferInPlace =>
        rcases faults_cases reply.failure? with nothing | fault
        · simp [Call.deeds, nothing]
        · simp [Call.deeds, fault]
    | transact =>
        rcases transactionFaults_cases reply.failure? with nothing | fault
        · simp [Call.deeds, nothing]
        · simp [Call.deeds, fault]
    | bringUp | flush | drain | prepareDma | transmitByDma | receiveByDma | clearOverrun =>
        simp [Call.deeds]
  · exact keeps device

namespace Host

/-- What comes before a release in a run from a bus: a wait on a bus that the run has
reached, and the controller's part. -/
def DrainedBefore (host : Host backend.Register σ Unit) (drift : σ → σ → Prop)
    (start : Bus backend.Register σ Unit) (before : List (Event backend.Register)) : Prop :=
  ∃ earlier mid outcome drain last mode, host.Reaches drift start earlier mid ∧
    host.Drains mid outcome drain last ∧ before = mid.trace ++ (drain ++ backend.finishing mode)

/-- Nothing in a run takes a line high except after a wait for everything sent to leave the
controller. -/
theorem Reaches.releases (drives : host.controller = backend.controller)
    (recorded : host.lines = .recorded) {drift : σ → σ → Prop} {hardware : σ}
    {log : List (Answered backend.Register σ Unit)}
    (reached : host.Reaches drift (.fresh hardware ()) log bus) :
    Trace.EachRelease (host.DrainedBefore drift (.fresh hardware ())) bus.trace := by
  induction reached with
  | start =>
      intro before number rest split
      simp [Bus.fresh, Bus.trace] at split
  | drift _ _ ih => exact ih
  | @call log bus after call reply reached answered ih =>
      cases releases : call.released? with
      | none =>
          -- no deed of such a call is a release, so the property needs no new proof
          obtain ⟨events, trace, _, adds⟩ := call_grows answered
          rw [trace]
          refine ih.append fun event member => ?_
          rcases adds event member with routine | ⟨deed, done, added⟩
          · exact routine.not_isRelease
          · exact added.not_isRelease recorded fun device same =>
              Call.keeps_of_released?_eq_none releases device (same ▸ done)
      | some device =>
          obtain ⟨outcome, result⟩ := deselect_of_call releases answered
          cases refused : host.refusal bus.deselectBreach with
          | some failure =>
              simp only [deselect, refused, Option.some.injEq, Prod.mk.injEq] at result
              exact result.2 ▸ ih
          | none =>
              obtain ⟨drain, last, mode, drains, trace, _⟩ :=
                deselect_drains drives recorded refused result
              rw [trace, ← List.append_assoc]
              refine (ih.append fun event member => ?_).snoc
                ⟨_, _, _, _, _, _, reached, drains, rfl⟩ device.line
              rcases List.mem_append.1 member with waited | finished
              · exact drains.not_isRelease event waited
              · exact Backend.finishing_not_isRelease mode event finished

end Host

/-- **A device is released only after a wait for everything sent to leave the controller.**
Releasing a device, if the order of calls allows it, comes back exactly when that wait
does.  Its events are those of the wait, then those of the controller's part, and then the
line of the device goes high; this and the stage afterwards are the same whether the wait
has ended with its last status read or with its budget, which is what the call reports.
Closing a session is releasing its device, abandoning one that is open is the same without
the report, and abandoning one that is closed does nothing.  In a run of any calls, in any order and with hardware that may change in between,
a line goes high nowhere else. -/
theorem release_drains (backend : Backend) {host : Host backend.Register σ Unit}
    (drives : host.controller = backend.controller) (recorded : host.lines = .recorded) :
    (∀ (bus : Bus backend.Register σ Unit) (device : Device),
      host.refusal bus.deselectBreach = none →
        (host.call bus (.deselect device)).isSome = (host.wait .txEmpty bus).isSome ∧
        (∀ reply after, host.call bus (.deselect device) = some (reply, after) →
          ∃ outcome drain last mode, reply = .outcome outcome ∧
            host.Drains bus outcome drain last ∧
            after.trace = bus.trace ++
              (drain ++ backend.finishing mode ++ [.line (.line device.line .high)]) ∧
            after.stage = .deselected) ∧
        (∀ isOpen, host.call bus (.closeSession ⟨device, isOpen⟩) =
          host.call bus (.deselect device)) ∧
        host.call bus (.abandonSession ⟨device, true⟩) =
          (host.call bus (.deselect device)).map (fun (_, after) => (.outcome (.ok ()), after)) ∧
        host.call bus (.abandonSession ⟨device, false⟩) = some (.outcome (.ok ()), bus)) ∧
    ∀ (drift : σ → σ → Prop) (hardware : σ) (log : List (Answered backend.Register σ Unit))
      (bus : Bus backend.Register σ Unit), host.Reaches drift (.fresh hardware ()) log bus →
        ∀ before number rest, bus.trace = before ++ .line (.line number .high) :: rest →
          host.DrainedBefore drift (.fresh hardware ()) before := by
  refine ⟨fun bus device allowed =>
      ⟨?_, fun reply after answered => ?_, fun isOpen => ?_, ?_, rfl⟩,
    fun drift hardware log bus reached => reached.releases drives recorded⟩
  · simp [Host.call, Host.deselect, allowed]
  · obtain ⟨⟨outcome, _⟩, result, same⟩ := Option.map_eq_some_iff.1 answered
    cases same
    obtain ⟨drain, last, mode, drains, trace, stage⟩ :=
      Host.deselect_drains drives recorded allowed result
    exact ⟨outcome, drain, last, mode, rfl, drains, trace, stage⟩
  · exact congrArg (Option.map _) (Host.closeSession_eq ⟨device, isOpen⟩ bus)
  · simp [Host.call, Host.abandonSession, Function.comp_def]

/-- A host whose transmitter always has room and never runs empty. -/
def Host.undrained : Host Backend.standard.Register Unit Unit :=
  { Host.constant 0x2 with waits := .pollLimit 2 }

/-- A transfer and then the release of its device time out, and the line goes high all the
same. -/
theorem release_drains_undrained :
    ∃ log bus after drain last mode,
      Host.undrained.Reaches (fun _ _ => True) (.fresh () ()) log bus ∧ bus.stage = .faulted ∧
      Host.undrained.call bus (.deselect ⟨0, 1, .eight⟩) =
        some (.outcome (.error (.timeout .txEmpty)), after) ∧
      Host.undrained.Drains bus (.error (.timeout .txEmpty)) drain last ∧
      after.trace = bus.trace ++ (drain ++ Backend.standard.finishing mode) ++
        [.line (.line 1 .high)] ∧
      after.stage = .deselected ∧
      Host.undrained.DrainedBefore (fun _ _ => True) (.fresh () ())
        (bus.trace ++ (drain ++ Backend.standard.finishing mode)) := by
  let start : Bus Backend.standard.Register Unit Unit := .fresh () ()
  let turns : List (Turn Unit) := [.call (.bringUp 8),
    .call (.configure ⟨0, 1, .eight⟩ (.ofBits 0) 1000000), .call (.select ⟨0, 1, .eight⟩),
    .call (.transmit .eight [1])]
  have ran : (Host.undrained.turns start turns).map (fun log =>
      ((start.afterRun log).stage, (Host.undrained.call (start.afterRun log)
        (.deselect ⟨0, 1, .eight⟩)).map fun answer => answer.1.failure?)) =
      some (.faulted, some (some (.timeout .txEmpty))) := rfl
  obtain ⟨log, ran, told⟩ := Option.map_eq_some_iff.1 ran
  obtain ⟨faulted, told⟩ := Prod.mk.inj told
  obtain ⟨⟨reply, after⟩, answered, failed⟩ := Option.map_eq_some_iff.1 told
  have reached := Host.reaches_of_run ran
  have drives : Host.undrained.controller = Backend.standard.controller := rfl
  obtain ⟨releases, everywhere⟩ := release_drains .standard drives rfl
  have allowed : Host.undrained.refusal (start.afterRun log).deselectBreach = none := by
    simp [Bus.deselectBreach, faulted, Stage.engaged]
  obtain ⟨_, drained, _⟩ := releases _ ⟨0, 1, .eight⟩ allowed
  obtain ⟨outcome, drain, last, mode, rfl, drains, trace, deselected⟩ := drained _ _ answered
  obtain rfl : outcome = .error (.timeout .txEmpty) := by
    cases outcome with
    | ok => cases failed
    | error failure => rw [Option.some.inj failed]
  rw [← List.append_assoc] at trace
  exact ⟨_, _, after, drain, last, mode, reached, faulted, answered, drains, trace, deselected,
    everywhere _ _ _ after (reached.call answered) _ 1 [] trace⟩

end SerialBus
