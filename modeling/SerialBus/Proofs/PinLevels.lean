import SerialBus.Proofs.LineLevels
import SerialBus.Proofs.Unlined

/-!
# Lines that nobody listens to

What becomes of the chip-select lines in a run depends on the drives and on nothing else,
and which drives there are can be read off the answers to the calls (`Host.drivesOf`): the
line of a device goes low when the device is selected and high when it is released.

With one pin per line, a pin sees the drives of its own line.  It ends at the level of the
last one that it has followed, and stays where it was if there is none
(`Pin.level_driveAll`).  In the other direction nothing comes back: hosts that differ in
their lines alone give the same answers and leave the same buses behind, apart from the
lines (`run_apart_from_lines`).
-/

set_option autoImplicit false

namespace SerialBus

variable {ρ σ κ : Type}

/-! ## Drives -/

namespace Host

variable (host : Host ρ σ κ)

/-- The drive that a deed makes, on the bus before it.  A release that is refused makes
none. -/
def driveOf (bus : Bus ρ σ κ) : Deed → Option (UInt8 × Level)
  | .select device => some (device.line, .low)
  | .release device =>
      if host.refusal bus.deselectBreach = none then some (device.line, .high) else none
  | _ => none

/-- The drives of a run of turns, in order. -/
def drivesOf (bus : Bus ρ σ κ) :
    List (Turn σ) → List (Option Reply × Bus ρ σ κ) → List (UInt8 × Level)
  | .call call :: turns, (some reply, after) :: log =>
      (call.deeds reply).filterMap (host.driveOf bus) ++ drivesOf after turns log
  | .change _ :: turns, (_, after) :: log => drivesOf after turns log
  | _, _ => []

/-- Lines after drives. -/
def driven (drives : List (UInt8 × Level)) (lines : κ) : κ :=
  drives.foldl (fun lines (number, level) => (host.lines.drive number level lines).1) lines

variable {host} {bus after : Bus ρ σ κ}

theorem driven_append (first second : List (UInt8 × Level)) (lines : κ) :
    host.driven (first ++ second) lines = host.driven second (host.driven first lines) :=
  List.foldl_append

theorem run_lines (host : Host ρ σ κ) (bus : Bus ρ σ κ) (script : List (Access ρ)) :
    (host.run script bus).lines = bus.lines := by
  rw [run_eq]
  rfl

/-- A deed moves the lines by its drive. -/
theorem Enacted.lines_eq {deed : Deed} (enacted : host.Enacted deed bus after) :
    after.lines = host.driven (host.driveOf bus deed).toList bus.lines := by
  cases enacted with
  | bringUp down => exact host.run_lines bus _
  | bringUpAgain up => rfl
  | configure allowed legal => exact host.run_lines bus _
  | @select _ device allowed =>
      have before := host.run_lines bus (host.controller.select device)
      exact congrArg (fun lines => (host.lines.drive device.line .low lines).1) before
  | @release _ device allowed =>
      rw [driveOf, if_pos allowed]
      have before := host.run_lines bus host.controller.finish
      exact congrArg (fun lines => (host.lines.drive device.line .high lines).1) before
  | releaseNothing refused =>
      rw [driveOf, if_neg (by simp [refused])]
      rfl
  | fault allowed => rfl

/-- Deeds without a release make the same drives on every bus. -/
theorem Enacts.lines_eq (start : Bus ρ σ κ) {deeds : List Deed}
    (keeps : ∀ device, .release device ∉ deeds) (enacts : host.Enacts deeds bus after) :
    after.lines = host.driven (deeds.filterMap (host.driveOf start)) bus.lines := by
  induction enacts with
  | nil => rfl
  | @cons deed deeds bus mid after first _ ih =>
      have same : host.driveOf bus deed = host.driveOf start deed := by
        cases deed with
        | release device => exact absurd List.mem_cons_self (keeps device)
        | _ => rfl
      have rest := ih fun device member => keeps device (List.mem_cons_of_mem _ member)
      have split : (deed :: deeds).filterMap (host.driveOf start) =
          (host.driveOf start deed).toList ++ deeds.filterMap (host.driveOf start) := by
        rw [List.filterMap_cons]
        cases host.driveOf start deed with
        | none => rfl
        | some drive => rfl
      rw [rest, first.lines_eq, same, split, driven_append]

/-- A call moves the lines by the drives of its deeds. -/
theorem call_lines {call : Call} {reply : Reply}
    (answered : host.call bus call = some (reply, after)) :
    after.lines = host.driven ((call.deeds reply).filterMap (host.driveOf bus)) bus.lines := by
  obtain ⟨events, _, _, enacts⟩ := call_leads answered
  rcases call.deeds_cases reply with ⟨device, released⟩ | keeps
  · rw [released] at enacts ⊢
    cases enacts with
    | cons first rest =>
        cases rest
        -- traffic does not change whether a release is refused
        have drive : host.driveOf (host.after events bus) (.release device) =
            host.driveOf bus (.release device) := rfl
        rw [first.lines_eq, drive, List.filterMap_cons]
        cases host.driveOf bus (.release device) with
        | none => rfl
        | some drive => rfl
  · have moved := enacts.lines_eq bus keeps
    exact moved

/-- A run moves the lines by its drives. -/
theorem turns_lines {turns : List (Turn σ)} {log : List (Option Reply × Bus ρ σ κ)}
    (ran : host.turns bus turns = some log) :
    (bus.afterRun log).lines = host.driven (host.drivesOf bus turns log) bus.lines := by
  induction turns generalizing bus log with
  | nil =>
      cases ran
      rfl
  | cons first rest ih =>
      rw [turns] at ran
      split at ran
      next => simp at ran
      next reply mid turned =>
        obtain ⟨log, continued, rfl⟩ := Option.map_eq_some_iff.1 ran
        rw [Bus.afterRun_cons, ih continued]
        cases first with
        | change new =>
            cases turned
            rfl
        | call call =>
            obtain ⟨⟨reply, after⟩, answered, same⟩ := Option.map_eq_some_iff.1 turned
            cases same
            rw [drivesOf, driven_append, ← call_lines answered]

end Host

/-! ## Pins -/

namespace Pin

/-- A pin after drives to levels. -/
def driveAll (levels : List Level) (pin : Pin) : Pin :=
  levels.foldl (fun pin level => pin.drive level) pin

/-- The levels that a pin follows when it is driven to levels in order. -/
def followed (pin : Pin) (levels : List Level) : List Level :=
  ((levels.zipIdx pin.drives).filter fun drive => !pin.refuses drive.2 drive.1).map Prod.fst

theorem followed_cons (pin : Pin) (level : Level) (levels : List Level) :
    pin.followed (level :: levels) =
      if pin.follows level then level :: (pin.drive level).followed levels
      else (pin.drive level).followed levels := by
  rw [followed, List.zipIdx_cons, List.filter_cons, follows]
  dsimp only
  cases pin.refuses pin.drives level with
  | true => rfl
  | false => rfl

/-- **A pin is at the level of the last drive that it has followed.** -/
theorem level_driveAll (pin : Pin) (levels : List Level) :
    (pin.driveAll levels).level = (pin.followed levels).getLast?.or pin.level := by
  induction levels generalizing pin with
  | nil => rfl
  | cons level levels ih =>
      have step : pin.driveAll (level :: levels) = (pin.drive level).driveAll levels := rfl
      rw [step, ih, followed_cons, follows]
      dsimp only [drive]
      cases pin.refuses pin.drives level with
      | true => rfl
      | false =>
          rw [Bool.not_false, if_pos rfl, List.getLast?_cons, if_neg Bool.false_ne_true]
          cases (({ pin with level := some level, drives := pin.drives + 1 } : Pin).followed
              levels).getLast? with
          | none => rfl
          | some last => rfl

end Pin

/-- The levels to which drives ask a line with a number to go. -/
def levelsTo (number : Nat) (drives : List (UInt8 × Level)) : List Level :=
  drives.filterMap fun (driven, level) => if driven.toNat = number then some level else none

/-- A drive of one pin leaves the others alone. -/
theorem SelectLines.getElem?_pins (driven : UInt8) (level : Level) (pins : List Pin)
    (number : Nat) :
    (SelectLines.pins.drive driven level pins).1[number]? =
      if driven.toNat = number then pins[number]?.map (Pin.drive level) else pins[number]? := by
  unfold SelectLines.pins
  dsimp only
  cases found : pins[driven.toNat]? with
  | none =>
      dsimp only
      split
      next same =>
        rw [← same, found]
        rfl
      next => rfl
  | some pin =>
      have inside := (List.getElem?_eq_some_iff.1 found).1
      dsimp only
      rw [List.getElem?_set, if_pos inside]
      split
      next same =>
        rw [← same, found]
        rfl
      next => rfl

namespace Host

variable {host : Host ρ σ (List Pin)} (pinned : host.lines = .pins)
include pinned

theorem driven_pins_cons (driven : UInt8) (level : Level) (drives : List (UInt8 × Level))
    (pins : List Pin) :
    host.driven ((driven, level) :: drives) pins =
      host.driven drives (SelectLines.pins.drive driven level pins).1 := by
  rw [← pinned]
  rfl

/-- Pins see the drives of their own lines. -/
theorem getElem?_driven (drives : List (UInt8 × Level)) (pins : List Pin) (number : Nat) :
    (host.driven drives pins)[number]? =
      pins[number]?.map (Pin.driveAll (levelsTo number drives)) := by
  induction drives generalizing pins with
  | nil => exact (Option.map_id' ..).symm
  | cons first rest ih =>
      obtain ⟨driven, level⟩ := first
      rw [driven_pins_cons pinned, ih, SelectLines.getElem?_pins, levelsTo, levelsTo, List.filterMap_cons]
      by_cases same : driven.toNat = number
      · simp only [if_pos same, Option.map_map]
        rfl
      · simp only [if_neg same]

theorem length_driven (drives : List (UInt8 × Level)) (pins : List Pin) :
    (host.driven drives pins).length = pins.length := by
  induction drives generalizing pins with
  | nil => rfl
  | cons first rest ih =>
      obtain ⟨driven, level⟩ := first
      rw [driven_pins_cons pinned, ih]
      unfold SelectLines.pins
      dsimp only
      split
      · rfl
      · exact List.length_set

end Host

/-! ## Runs -/

/-- **A run is apart from its lines.**  Take any host and any run.  Hosts that differ in
their chip-select lines alone, from buses that differ in their lines alone, come back from
the same runs, with the same replies and with buses that differ in their lines alone: the
hardware, the stage, the device and every event that is not shown by a line are the same.
With one pin per line, whichever drives a pin refuses, the pin of a line ends at the level
of the last drive of that line that it has followed, and where it was without one. -/
theorem run_apart_from_lines (host : Host ρ σ κ) (turns : List (Turn σ)) :
    (∀ (κ' : Type) (lines : SelectLines κ') (bus : Bus ρ σ κ) (twin : Bus ρ σ κ'),
      bus.unlined = twin.unlined →
      (host.turns bus turns).map (List.map Host.unlinedEnd) =
        ((host.withLines lines).turns twin turns).map (List.map Host.unlinedEnd)) ∧
    ∀ (bus : Bus ρ σ (List Pin)) (log : List (Option Reply × Bus ρ σ (List Pin))),
      (host.withLines .pins).turns bus turns = some log →
      let pins := (bus.afterRun log).lines
      let drives := (host.withLines .pins).drivesOf bus turns log
      pins.length = bus.lines.length ∧
      ∀ (number : Nat) (pin : Pin), bus.lines[number]? = some pin →
        ∃ last, pins[number]? = some last ∧
          last.level = (pin.followed (levelsTo number drives)).getLast?.or pin.level := by
  refine ⟨?_, ?_⟩
  · intro κ' lines bus twin alike
    rw [← Host.turns_unlined, ← Host.turns_unlined, alike]
  · intro bus log ran pins drives
    have pinned : (host.withLines SelectLines.pins).lines = .pins := rfl
    have moved : pins = (host.withLines .pins).driven drives bus.lines := Host.turns_lines ran
    refine ⟨?_, ?_⟩
    · rw [moved, Host.length_driven pinned]
    · intro number pin here
      refine ⟨pin.driveAll (levelsTo number drives), ?_, pin.level_driveAll _⟩
      rw [moved, Host.getElem?_driven pinned, here]
      rfl

/-- A strict host with one pin per line. -/
abbrev Host.pinned : Host Backend.standard.Register Unit (List Pin) :=
  (Host.constant 0x203).withLines .pins

/-- Two devices are selected and released on pins of which the first refuses to go low: it
only sees its release, and the second follows both of its drives. -/
theorem run_apart_from_lines_pins :
    let bus : Bus Backend.standard.Register Unit (List Pin) :=
      .fresh () [{ refuses := fun _ level => level = .low }, {}]
    let turns : List (Turn Unit) := [.call (.bringUp 8),
      .call (.openSession ⟨0⟩ ⟨0, 1, .eight⟩ (.ofBits 0) 1000000),
      .call (.closeSession ⟨⟨0, 1, .eight⟩, true⟩),
      .call (.openSession ⟨0⟩ ⟨0, 0, .eight⟩ (.ofBits 0) 1000000),
      .call (.abandonSession ⟨⟨0, 0, .eight⟩, true⟩)]
    ((Host.constant 0x203).turns (.fresh () ()) turns).map (List.map Host.unlinedEnd) =
      (Host.pinned.turns bus turns).map (List.map Host.unlinedEnd) ∧
    ∃ log, Host.pinned.turns bus turns = some log ∧
      Host.pinned.drivesOf bus turns log = [(1, .low), (1, .high), (0, .low), (0, .high)] ∧
      (bus.afterRun log).lines.length = 2 ∧
      ∃ first second, (bus.afterRun log).lines[0]? = some first ∧
        (bus.afterRun log).lines[1]? = some second ∧
        first.level = some .high ∧ second.level = some .high := by
  intro bus turns
  have ran : (Host.pinned.turns bus turns).map (Host.pinned.drivesOf bus turns) =
      some [(1, .low), (1, .high), (0, .low), (0, .high)] := rfl
  obtain ⟨log, ran, drives⟩ := Option.map_eq_some_iff.1 ran
  obtain ⟨apart, pins⟩ := run_apart_from_lines (Host.constant 0x203) turns
  obtain ⟨length, levels⟩ := pins bus log ran
  obtain ⟨first, firstFound, firstLevel⟩ := levels 0 _ rfl
  obtain ⟨second, secondFound, secondLevel⟩ := levels 1 _ rfl
  rw [drives] at firstLevel secondLevel
  exact ⟨apart _ .pins (.fresh () ()) bus rfl, log, ran, drives, length, first, second,
    firstFound, secondFound, firstLevel, secondLevel⟩

end SerialBus
