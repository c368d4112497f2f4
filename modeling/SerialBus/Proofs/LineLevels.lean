import SerialBus.Proofs.CallOrder

/-!
# The levels of the chip-select lines

On lines that show every drive, the level of a line can be read off the trace: it is
the level that the line was last driven to, and high before that (`Trace.level`).

On a strict host the line of the device that is held is low (`Reaches.heldLow`).
Whether it is the only one depends on the caller.  A release names its device anew,
and the line that goes high is that of the device it names.  So the lines are
exclusive all through a run exactly if every release that happened while a device was
held named the line of that device (`exclusive_iff_matched`); one that names another
line leaves a bus with no device selected and a line that is low all the same
(`mismatched_release_constant`).
-/

set_option autoImplicit false

namespace SerialBus

variable {ρ σ : Type}

/-! ## Levels -/

/-- The level that an event drives a line to. -/
def Event.drives? (number : UInt8) : Event ρ → Option Level
  | .line (.line driven level) => if driven = number then some level else none
  | _ => none

theorem Event.Traffic.drives?_eq_none {controller : Controller ρ} {event : Event ρ}
    (traffic : event.Traffic controller) (number : UInt8) : event.drives? number = none := by
  cases event with
  | line => exact traffic.elim
  | _ => rfl

namespace Trace

/-- The level of a line after events, which is high before any of them. -/
def level (number : UInt8) (events : List (Event ρ)) : Level :=
  events.foldl (fun level event => (event.drives? number).getD level) .high

variable {number driven : UInt8} {before events : List (Event ρ)}

@[simp] theorem level_drive (level : Level) :
    Trace.level number (before ++ [.line (.line driven level)]) =
      if driven = number then level else Trace.level number before := by
  rw [Trace.level, List.foldl_append]
  by_cases same : driven = number
  · simp [Event.drives?, same]
  · simp [Event.drives?, same, Trace.level]

theorem level_append_of_silent (silent : ∀ event ∈ events, event.drives? number = none) :
    level number (before ++ events) = level number before := by
  rw [level, List.foldl_append]
  change events.foldl _ (level number before) = level number before
  generalize level number before = now
  induction events with
  | nil => rfl
  | cons event events ih =>
      rw [List.foldl_cons, silent event List.mem_cons_self]
      exact ih fun later member => silent later (List.mem_cons_of_mem _ member)

theorem level_append_of_traffic {controller : Controller ρ}
    (traffic : ∀ event ∈ events, event.Traffic controller) :
    level number (before ++ events) = level number before :=
  level_append_of_silent fun event member => (traffic event member).drives?_eq_none number

end Trace

namespace Host

variable {host : Host ρ σ Unit} {bus : Bus ρ σ Unit} {number : UInt8}

/-- A script drives no chip-select line. -/
@[simp] theorem level_run (script : List (Access ρ)) :
    Trace.level number (host.run script bus).trace = Trace.level number bus.trace := by
  rw [run_trace]
  apply Trace.level_append_of_silent
  intro event member
  obtain ⟨access, _, state, member⟩ := Hardware.mem_eventsOfScript member
  cases access with
  | enable | write =>
      rw [List.mem_singleton.1 member]
      rfl
  | modify register change =>
      rcases List.mem_cons.1 member with rfl | member
      · rfl
      · rw [List.mem_singleton.1 member]
        rfl

theorem drive_trace (recorded : host.lines = .recorded) (driven : UInt8) (level : Level) :
    (host.drive driven level bus).trace = bus.trace ++ [.line (.line driven level)] := by
  rw [trace_drive, recorded]
  rfl

theorem level_drive (recorded : host.lines = .recorded) (driven : UInt8) (level : Level) :
    Trace.level number (host.drive driven level bus).trace =
      if driven = number then level else Trace.level number bus.trace := by
  rw [drive_trace recorded, Trace.level_drive]

theorem level_letGo (recorded : host.lines = .recorded) (device : Device) :
    Trace.level number (host.letGo device bus).trace =
      if device.line = number then .high else Trace.level number bus.trace :=
  (level_drive recorded ..).trans (by rw [level_run])

/-- What a deed does to the level of a line. -/
theorem Enacted.level_eq (recorded : host.lines = .recorded) {deed : Deed}
    {after : Bus ρ σ Unit} (enacted : host.Enacted deed bus after) :
    Trace.level number after.trace =
      match deed with
      | .select device => if device.line = number then .low else Trace.level number bus.trace
      | .release device =>
          if host.refusal bus.deselectBreach = none ∧ device.line = number then .high
          else Trace.level number bus.trace
      | _ => Trace.level number bus.trace := by
  cases enacted with
  | bringUp down => exact level_run _
  | bringUpAgain up => rfl
  | configure allowed legal => exact level_run _
  | select allowed => exact (level_drive recorded ..).trans (by rw [level_run])
  | release allowed =>
      simp only [allowed, true_and]
      exact level_letGo recorded _
  | releaseNothing refused => simp [refused]
  | fault allowed => rfl

end Host

/-! ## The line of the device that is held -/

variable {host : Host ρ σ Unit} {drift : σ → σ → Prop} {hardware : σ}
  {log : List (Answered ρ σ Unit)} {bus after : Bus ρ σ Unit} {past : List Deed} {deed : Deed}

/-- The line of the device that is held is low. -/
def HeldLow (past : List Deed) (bus : Bus ρ σ Unit) : Prop :=
  ∀ device, Past.held past = some device → Trace.level device.line bus.trace = .low

theorem HeldLow.enacted (recorded : host.lines = .recorded) (low : HeldLow past bus)
    (enacted : host.Enacted deed bus after) : HeldLow (deed :: past) after := by
  intro device held
  rw [enacted.level_eq recorded]
  cases deed with
  | select selected =>
      obtain rfl : selected = device := Option.some.inj held
      exact if_pos rfl
  | release released => cases held
  | _ => exact low device held

/-- Wherever a run can get, the line of the device that is held is low. -/
theorem Host.Reaches.heldLow (recorded : host.lines = .recorded)
    (reached : host.Reaches drift (.fresh hardware ()) log bus) : HeldLow (pastOf log) bus := by
  refine reached.invariant HeldLow ?_ (fun low _ => low) ?_ (fun low => low.enacted recorded)
  · intro device held
    cases held
  · intro past bus events low traffic device held
    rw [after_trace, Trace.level_append_of_traffic traffic]
    exact low device held

/-! ## Exclusivity -/

/-- The line of the device that is held is low, and no other. -/
def OnlyHeldLow (past : List Deed) (bus : Bus ρ σ Unit) : Prop :=
  ∀ number, Trace.level number bus.trace = .low ↔
    ∃ device, Past.held past = some device ∧ device.line = number

/-- Every release that happened while a device was held named the line of that device. -/
def Past.Matched : List Deed → Prop
  | [] => True
  | .release device :: past =>
      (∀ holding, held past = some holding → device.line = holding.line) ∧ Matched past
  | _ :: past => Matched past

theorem Past.Matched.of_append {first second : List Deed} (matched : Matched (first ++ second)) :
    Matched second := by
  induction first with
  | nil => exact matched
  | cons deed first ih =>
      cases deed with
      | release device => exact ih matched.2
      | _ => exact ih matched

/-- Deeds without a release are matched. -/
theorem Past.Matched.append {first second : List Deed}
    (keeps : ∀ device, .release device ∉ first) (matched : Matched second) :
    Matched (first ++ second) := by
  induction first with
  | nil => exact matched
  | cons deed first ih =>
      have later := ih fun device member => keeps device (List.mem_cons_of_mem _ member)
      cases deed with
      | release device => exact absurd List.mem_cons_self (keeps device)
      | _ => exact later

/-- A call releases one device and does nothing else, or it releases none. -/
theorem Call.deeds_cases (call : Call) (reply : Reply) :
    (∃ device, call.deeds reply = [.release device]) ∨
      ∀ device, .release device ∉ call.deeds reply := by
  have noRelease {deeds : List Deed} (fault : deeds = [] ∨ deeds = [.fault]) (device : Device) :
      .release device ∉ deeds := by
    rcases fault with rfl | rfl
    · simp
    · simp
  cases call with
  | deselect device =>
      by_cases refused : reply.isOutOfOrder
      · exact .inr (by simp [deeds, refused])
      · exact .inl ⟨device, by simp [deeds, refused]⟩
  | closeSession session =>
      by_cases refused : reply.isOutOfOrder
      · exact .inr (by simp [deeds, refused])
      · exact .inl ⟨session.device, by simp [deeds, refused]⟩
  | abandonSession session =>
      by_cases isOpen : session.isOpen
      · exact .inl ⟨session.device, by simp [deeds, isOpen]⟩
      · exact .inr (by simp [deeds, isOpen])
  | configure | select | openSession =>
      apply Or.inr
      intro device
      simp only [deeds]
      split
      · simp
      · simp
  | transceive | receive | transmit | transfer | transferInPlace =>
      exact .inr (noRelease (faults_cases _))
  | transact => exact .inr (noRelease (transactionFaults_cases _))
  | bringUp | flush | drain | prepareDma | transmitByDma | receiveByDma | clearOverrun =>
      exact .inr (by simp [deeds])

theorem OnlyHeldLow.enacted (strict : host.discipline = .strict)
    (recorded : host.lines = .recorded) (tracks : Tracks past bus) (only : OnlyHeldLow past bus)
    (enacted : host.Enacted deed bus after) (matched : Past.Matched (deed :: past)) :
    OnlyHeldLow (deed :: past) after := by
  intro number
  rw [enacted.level_eq recorded]
  cases deed with
  | select device =>
      have nothingHeld : Past.held past = none := by
        cases enacted with
        | select allowed =>
            rw [host.refusal_eq_none strict, tracks.selectBreach_eq] at allowed
            exact ((Past.selectBreach_eq_none past).1 allowed).1
      have others := only number
      simp only [nothingHeld] at others
      by_cases same : device.line = number
      · simp [same]
      · simp [same, others]
  | release device =>
      have allowed : host.refusal bus.deselectBreach = none ↔ (Past.held past).isSome := by
        rw [host.refusal_eq_none strict, tracks.deselectBreach_eq, Past.deselectBreach_eq_none]
      have others := only number
      simp only [allowed]
      cases held : Past.held past with
      | none => simpa [held] using others
      | some holding =>
          have sameLine := matched.1 holding held
          by_cases same : holding.line = number
          · simp [sameLine, same]
          · simp [sameLine, same, others, held]
  | _ => exact only number

theorem Host.Reaches.onlyHeldLow (strict : host.discipline = .strict)
    (recorded : host.lines = .recorded)
    (reached : host.Reaches drift (.fresh hardware ()) log bus)
    (matched : Past.Matched (pastOf log)) : OnlyHeldLow (pastOf log) bus := by
  refine (reached.invariant
    (fun past bus => Tracks past bus ∧ (Past.Matched past → OnlyHeldLow past bus))
    ⟨.fresh hardware (), fun _ number => ?_⟩ ?_ ?_ ?_).2 matched
  · simp [Bus.fresh, Bus.trace, Trace.level]
  · rintro past bus new ⟨tracks, only⟩ _
    exact ⟨tracks.congr rfl rfl rfl, only⟩
  · rintro past bus events ⟨tracks, only⟩ traffic
    refine ⟨tracks.congr rfl rfl rfl, fun matched number => ?_⟩
    rw [after_trace, Trace.level_append_of_traffic traffic]
    exact only matched number
  · rintro past deed bus after ⟨tracks, only⟩ enacted
    refine ⟨tracks.enacted strict enacted, fun matched => ?_⟩
    have before : Past.Matched past :=
      Past.Matched.of_append (show Past.Matched ([deed] ++ past) from matched)
    exact (only before).enacted strict recorded tracks enacted matched

/-- A line is low exactly if a device is selected, be it after a fault, and then only
the line of the device last selected is. -/
structure Exclusive (past : List Deed) (bus : Bus ρ σ Unit) : Prop where
  lowIff : (∃ number, Trace.level number bus.trace = .low) ↔
    bus.stage = .selected ∨ bus.stage = .faulted
  lowLine : ∀ number, Trace.level number bus.trace = .low →
    ∃ device, Past.lastSelected past = some device ∧ device.line = number

theorem Stage.engaged_iff (stage : Stage) :
    stage.engaged = true ↔ stage = .selected ∨ stage = .faulted := by
  cases stage <;> simp [engaged]

theorem Tracks.exclusive_iff (tracks : Tracks past bus) :
    Exclusive past bus ↔ OnlyHeldLow past bus := by
  have engaged : (bus.stage = .selected ∨ bus.stage = .faulted) ↔ (Past.held past).isSome := by
    rw [← Stage.engaged_iff, tracks.engaged]
  constructor
  · intro exclusive number
    constructor
    · intro low
      obtain ⟨holding, held⟩ :=
        Option.isSome_iff_exists.1 (engaged.1 (exclusive.lowIff.1 ⟨number, low⟩))
      obtain ⟨device, last, line⟩ := exclusive.lowLine number low
      obtain rfl := Option.some.inj (last.symm.trans (Past.lastSelected_of_held held))
      exact ⟨device, held, line⟩
    · rintro ⟨device, held, rfl⟩
      obtain ⟨number, low⟩ := exclusive.lowIff.2 (engaged.2 (by simp [held]))
      obtain ⟨other, last, rfl⟩ := exclusive.lowLine number low
      obtain rfl := Option.some.inj (last.symm.trans (Past.lastSelected_of_held held))
      exact low
  · intro only
    refine ⟨?_, fun number low => ?_⟩
    · rw [engaged]
      constructor
      · rintro ⟨number, low⟩
        obtain ⟨device, held, _⟩ := (only number).1 low
        simp [held]
      · intro holding
        obtain ⟨device, held⟩ := Option.isSome_iff_exists.1 holding
        exact ⟨device.line, (only device.line).2 ⟨device, held, rfl⟩⟩
    · obtain ⟨device, held, line⟩ := (only number).1 low
      exact ⟨device, Past.lastSelected_of_held held, line⟩

/-- A release that leaves the lines exclusive named the line of the device held. -/
theorem OnlyHeldLow.matched_of_exclusive (strict : host.discipline = .strict)
    (recorded : host.lines = .recorded) (tracks : Tracks past bus) (only : OnlyHeldLow past bus)
    {device : Device} (leads : host.Leads [.release device] bus after)
    (exclusive : Exclusive (.release device :: past) after) {holding : Device}
    (held : Past.held past = some holding) : device.line = holding.line := by
  obtain ⟨events, traffic, _, enacts⟩ := leads
  cases enacts with
  | cons released rest =>
      cases rest
      -- otherwise the line held stays low, on a bus that has no device selected any more
      by_contra differs
      have before : Trace.level holding.line bus.trace = .low :=
        (only holding.line).2 ⟨holding, held, rfl⟩
      have still : Trace.level holding.line after.trace = .low := by
        rw [released.level_eq recorded]
        simp only [differs, and_false, if_false]
        rw [Host.after_trace, Trace.level_append_of_traffic traffic]
        exact before
      have tracksMid : Tracks past (host.after events bus) := tracks.congr rfl rfl rfl
      have engaged := (tracksMid.enacted strict released).engaged
      rw [(Stage.engaged_iff _).2 (exclusive.lowIff.1 ⟨_, still⟩)] at engaged
      cases engaged

/-- **When the chip-select lines are exclusive.**  On a strict host with lines that
show every drive, the lines are exclusive after every call of a run exactly if every
release that happened while a device was held named the line of that device. -/
theorem exclusive_iff_matched (strict : host.discipline = .strict)
    (recorded : host.lines = .recorded)
    (reached : host.Reaches drift (.fresh hardware ()) log bus) :
    (∀ entry earlier, entry :: earlier <:+ log →
        Exclusive (pastOf (entry :: earlier)) entry.bus) ↔ Past.Matched (pastOf log) := by
  constructor
  · intro exclusive
    -- the releases before the last call are matched, so the lines were exclusive before it
    induction reached with
    | start => exact trivial
    | drift _ _ ih => exact ih exclusive
    | @call log bus after call reply reached answered ih =>
        have matched := ih fun entry earlier suffix =>
          exclusive entry earlier (suffix.trans (List.suffix_cons _ _))
        have now := exclusive _ _ (List.suffix_refl _)
        have leads := host.call_leads answered
        rw [pastOf_cons] at now ⊢
        rcases call.deeds_cases reply with ⟨device, release⟩ | keeps
        · rw [release] at now leads ⊢
          refine ⟨fun holding held => ?_, matched⟩
          exact (reached.onlyHeldLow strict recorded matched).matched_of_exclusive strict recorded
            (reached.tracks strict) leads now held
        · exact matched.append fun device member => keeps device (List.mem_reverse.1 member)
  · intro matched entry earlier suffix
    obtain ⟨later, rfl⟩ := suffix
    have reachedThen := reached.of_suffix (List.suffix_append later (entry :: earlier))
    have matchedThen : Past.Matched (pastOf (entry :: earlier)) := by
      rw [pastOf, List.flatMap_append] at matched
      exact matched.of_append
    exact (reachedThen.tracks strict).exclusive_iff.2
      (reachedThen.onlyHeldLow strict recorded matchedThen)

/-- A device is selected, exchanged with and released, and only its line is ever low. -/
theorem exclusive_iff_matched_constant :
    ∃ log bus, (Host.constant 0x203).Reaches (fun _ _ => True) (.fresh () ()) log bus ∧
      pastOf log = [.release ⟨0, 1, .eight⟩, .select ⟨0, 1, .eight⟩,
        .configure ⟨0, 1, .eight⟩ (.ofBits 0) 1000000, .bringUp] ∧
      ∀ entry earlier, entry :: earlier <:+ log →
        Exclusive (pastOf (entry :: earlier)) entry.bus := by
  let turns : List (Turn Unit) := [.call (.bringUp 8),
    .call (.configure ⟨0, 1, .eight⟩ (.ofBits 0) 1000000), .call (.select ⟨0, 1, .eight⟩),
    .call (.transmit .eight [1, 2]), .call (.deselect ⟨0, 1, .eight⟩)]
  have ran : ((Host.constant 0x203).turns (.fresh () ()) turns).map
      (fun log => pastOf (answers turns log)) = some [.release ⟨0, 1, .eight⟩,
        .select ⟨0, 1, .eight⟩, .configure ⟨0, 1, .eight⟩ (.ofBits 0) 1000000, .bringUp] := rfl
  obtain ⟨log, ran, told⟩ := Option.map_eq_some_iff.1 ran
  have reached := Host.reaches_of_run ran
  refine ⟨_, _, reached, told, (exclusive_iff_matched rfl rfl reached).2 ?_⟩
  rw [told]
  simp [Past.Matched]

/-- A release that names another device leaves the line of the one selected low on a
bus with no device selected. -/
theorem mismatched_release_constant :
    ∃ log bus, (Host.constant 0x203).Reaches (fun _ _ => True) (.fresh () ()) log bus ∧
      pastOf log = [.release ⟨1, 2, .eight⟩, .select ⟨0, 1, .eight⟩,
        .configure ⟨0, 1, .eight⟩ (.ofBits 0) 1000000, .bringUp] ∧
      bus.stage = .deselected ∧ Trace.level 1 bus.trace = .low ∧
      ¬ Exclusive (pastOf log) bus := by
  let start : Bus Backend.standard.Register Unit Unit := .fresh () ()
  let turns : List (Turn Unit) := [.call (.bringUp 8),
    .call (.configure ⟨0, 1, .eight⟩ (.ofBits 0) 1000000), .call (.select ⟨0, 1, .eight⟩),
    .call (.deselect ⟨1, 2, .eight⟩)]
  have ran : ((Host.constant 0x203).turns start turns).map (fun log =>
        (pastOf (answers turns log), (start.afterRun log).stage,
          Trace.level 1 (start.afterRun log).trace)) =
      some ([.release ⟨1, 2, .eight⟩, .select ⟨0, 1, .eight⟩,
        .configure ⟨0, 1, .eight⟩ (.ofBits 0) 1000000, .bringUp], .deselected, .low) := rfl
  obtain ⟨log, ran, told⟩ := Option.map_eq_some_iff.1 ran
  obtain ⟨toldPast, deselected, low⟩ : _ ∧ _ ∧ _ := by simpa only [Prod.mk.injEq] using told
  refine ⟨_, _, Host.reaches_of_run ran, toldPast, deselected, low, fun exclusive => ?_⟩
  have selected := exclusive.lowIff.1 ⟨1, low⟩
  rw [deselected] at selected
  simp at selected

end SerialBus
