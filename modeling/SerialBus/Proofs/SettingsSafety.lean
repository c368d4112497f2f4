import SerialBus.Proofs.LineLevels
import SerialBus.Proofs.Pairing
import SerialBus.Proofs.RegisterFile

/-!
# Units go out with the settings of the device that is held

On hardware whose mode register and slots hold what was last written to them
(`Standard.RegisterFile`), a strict host on a standard controller sends no unit but to
the device that was configured last: at every write of the transmit register that
device is selected and its line is low, and mode register and slot hold its settings
(`settings_at_transmit`).

The settings are put in place by three deeds at different times: bringing the bus up
makes the controller a master, configuring fills the slot, and selecting picks it.  The
invariant `InPlace` says what each of them has left behind and that nothing else
disturbs it, whatever was in the registers at first and whether or not a reset clears
them.
-/

set_option autoImplicit false

namespace SerialBus

namespace Standard

variable {σ : Type} {host : Host Register σ Unit} (file : RegisterFile host.hardware)
  {bus : Bus Register σ Unit}

/-! ## The settings of a device -/

/-- The contents hold the settings of a device, and the mode register picks its slot. -/
structure Applied (clockHz : UInt32) (settings : Settings) (contents : Contents) : Prop where
  master : ModeControl.master.isFull contents.mode = true
  faultDetectionOff : ModeControl.faultDetectionOff.isFull contents.mode = true
  loopback : ModeControl.loopback.isFull contents.mode = false
  variableSelect : ModeControl.variableSelect.isFull contents.mode = false
  decoder : ModeControl.decoder.isFull contents.mode = false
  picked : pickedSlot? (ModeControl.selected contents.mode) = some (slotOf settings.device.id)
  width : Slot.width.get (contents.settings (slotOf settings.device.id)) =
    Slot.widthCode settings.device.width
  divisor : (Slot.divisor.get (contents.settings (slotOf settings.device.id))).toNat =
    (clockHz.toNat + settings.baudHz.toNat - 1) / settings.baudHz.toNat
  divisorLegal :
    1 ≤ (Slot.divisor.get (contents.settings (slotOf settings.device.id))).toNat ∧
      (Slot.divisor.get (contents.settings (slotOf settings.device.id))).toNat ≤ 255
  polarity : Slot.polarity.isFull (contents.settings (slotOf settings.device.id)) =
    settings.mode.idlesHigh
  leading : Slot.leading.isFull (contents.settings (slotOf settings.device.id)) =
    settings.mode.capturesOnLeadingEdge

/-- What the deeds of a past have left in the registers. -/
structure InPlace (clockHz : UInt32) (past : List Deed) (contents : Contents) : Prop where
  master : .bringUp ∈ past → MasterOnly contents.mode
  slot : ∀ settings, Past.settings past = some settings →
    ∃ divisor, Standard.divisor clockHz settings.baudHz = some divisor ∧
      Slot.Holds (contents.settings (slotOf settings.device.id)) settings.device settings.mode
        divisor
  pattern : ∀ device, Past.held past = some device →
    ModeControl.selected contents.mode = patternOf device.id

/-- Every deed that a strict host allows leaves its part of the settings in place. -/
theorem InPlace.enacted (drives : host.controller = Standard.controller)
    (strict : host.discipline = .strict) {past : List Deed} {deed : Deed}
    {after : Bus Register σ Unit} (tracks : Tracks past bus)
    (inPlace : InPlace host.clockHz past (file.contents bus.hardware))
    (enacted : host.Enacted deed bus after) :
    InPlace host.clockHz (deed :: past) (file.contents after.hardware) := by
  cases enacted with
  | bringUp down =>
      have unused : .bringUp ∉ past := by simp [← tracks.up, down]
      obtain ⟨nothingApplied, nothingHeld⟩ := tracks.nothing_before_bringUp unused
      obtain ⟨base, _, contents⟩ := file.contents_run_bringUp bus
      rw [drives]
      change InPlace _ _ (file.contents (host.run Standard.bringUp bus).hardware)
      rw [contents]
      exact {
        master := fun _ => (masterOnly_bringUp base.mode).select initialPattern
        slot := fun settings applied => by simp [nothingApplied] at applied
        pattern := fun device held => by simp [nothingHeld] at held }
  | bringUpAgain up =>
      exact {
        master := fun _ => inPlace.master (tracks.up.1 up)
        slot := inPlace.slot
        pattern := inPlace.pattern }
  | @configure _ device mode baudHz divisor allowed legal =>
      rw [host.refusal_eq_none strict, tracks.configureBreach_eq,
        Past.configureBreach_eq_none] at allowed
      rw [drives] at legal ⊢
      obtain ⟨base, reset, contents⟩ := file.contents_run_configure device mode divisor bus
      have plain : Plain base.mode := by
        rcases reset with rfl | rfl
        · exact (inPlace.master allowed.1).toPlain
        · exact plain_zero
      change InPlace _ _ (file.contents (host.run (Standard.configure device mode divisor)
        bus).hardware)
      rw [contents]
      exact {
        master := fun _ => plain.masterOnly.select (patternOf device.id)
        slot := fun settings applied => by
          obtain rfl : ⟨device, mode, baudHz⟩ = settings := Option.some.inj applied
          refine ⟨divisor, legal, ?_⟩
          simp only [Contents.configured, Contents.write, Function.update_self]
          exact holds_slotSettings (divisor_eq_ceil legal).2.2 _
        pattern := fun other held => by simp [allowed.2] at held }
  | @select _ device allowed =>
      rw [drives]
      change InPlace _ _ (file.contents (host.run (Standard.select device) bus).hardware)
      rw [file.contents_run_select]
      exact {
        master := fun up => (inPlace.master (by simpa using up)).select (patternOf device.id)
        slot := inPlace.slot
        pattern := fun other held => by
          obtain rfl : device = other := Option.some.inj held
          exact selected_select_patternOf device.id _ }
  | release allowed =>
      rw [Host.letGo, drives]
      change InPlace _ _ (file.contents (host.run Standard.finish bus).hardware)
      rw [file.contents_run_finish]
      exact {
        master := fun up => (inPlace.master (by simpa using up)).select noneSelected
        slot := inPlace.slot
        pattern := fun device held => by cases held }
  | releaseNothing refused =>
      exact {
        master := fun up => inPlace.master (by simpa using up)
        slot := inPlace.slot
        pattern := fun device held => by cases held }
  | fault allowed =>
      exact {
        master := fun up => inPlace.master (by simpa using up)
        slot := inPlace.slot
        pattern := inPlace.pattern }

/-- Wherever a run can get, the settings are in place. -/
theorem inPlace_of_reaches (drives : host.controller = Standard.controller)
    (strict : host.discipline = .strict) {hardware : σ} {log : List (Answered Register σ Unit)}
    (reached : host.Reaches (fun old new => file.contents new = file.contents old)
      (.fresh hardware ()) log bus) :
    InPlace host.clockHz (pastOf log) (file.contents bus.hardware) := by
  refine (reached.invariant
    (fun past bus => Tracks past bus ∧ InPlace host.clockHz past (file.contents bus.hardware))
    ⟨.fresh hardware (), nofun, nofun, nofun⟩ ?_ ?_ ?_).2
  · rintro past bus new ⟨tracks, inPlace⟩ same
    exact ⟨tracks.congr rfl rfl rfl, same ▸ inPlace⟩
  · rintro past bus events ⟨tracks, inPlace⟩ traffic
    have same := file.contents_traffic drives traffic bus.hardware
    exact ⟨tracks.congr rfl rfl rfl, same ▸ inPlace⟩
  · rintro past deed bus after ⟨tracks, inPlace⟩ enacted
    exact ⟨tracks.enacted strict enacted, inPlace.enacted file drives strict tracks enacted⟩

/-! ## Units are sent in traffic -/

/-- A unit that a call sends goes out in its traffic, while the order of calls allows it. -/
theorem sent_in_traffic (drives : host.controller = Standard.controller) {call : Call}
    {reply : Reply} {after : Bus Register σ Unit}
    (answered : host.call bus call = some (reply, after))
    {before rest : List (Event Register)} {value : UInt32}
    (sent : after.trace = bus.trace ++ (before ++ .write .transmit value :: rest)) :
    (∀ event ∈ before, event.Traffic host.controller) ∧
      host.refusal bus.exchangeBreach = none := by
  have spares : host.controller.SparesData := drives ▸ Backend.standard.sparesData
  have transmit : host.controller.transmit = .transmit := drives ▸ rfl
  obtain ⟨events, traffic, allowed, enacts⟩ := host.call_leads answered
  obtain ⟨later, trace, silent⟩ := enacts.spared spares
  have kept : .write .transmit value ∉ later := by
    intro member
    cases (silent _ member).symm.trans (transmit ▸ Event.side?_transmit host.controller value)
  rw [Host.after_trace, List.append_assoc] at trace
  have same := List.append_cancel_left (trace.symm.trans sent)
  -- the unit is not among the events of the deeds, so it splits the traffic before them
  rcases List.append_eq_append_iff.1 same with ⟨more, _, inLater⟩ | ⟨more, inEvents, inRest⟩
  · exact absurd (inLater ▸ by simp) kept
  · cases more with
    | nil =>
        have inLater : .write .transmit value :: rest = later := inRest
        exact absurd (inLater ▸ List.mem_cons_self) kept
    | cons event more =>
        obtain ⟨rfl, _⟩ := List.cons.inj inRest
        refine ⟨fun event member => traffic event (by simp [inEvents, member]), allowed ⟨value, ?_⟩⟩
        simp [inEvents, transmit]

/-! ## Every unit goes out with the settings in place -/

/-- Settings in place for the device that is held are those of the last configuration. -/
theorem InPlace.applied {clockHz : UInt32} {past : List Deed} {contents : Contents}
    (inPlace : InPlace clockHz past contents) (up : .bringUp ∈ past) {settings : Settings}
    (last : Past.settings past = some settings) (held : Past.held past = some settings.device) :
    Applied clockHz settings contents := by
  obtain ⟨divisor, legal, holds⟩ := inPlace.slot settings last
  have only := inPlace.master up
  have ceil := divisor_eq_ceil legal
  exact {
    master := only.master
    faultDetectionOff := only.faultDetectionOff
    loopback := only.loopback
    variableSelect := only.variableSelect
    decoder := only.decoder
    picked := inPlace.pattern settings.device held ▸ pickedSlot?_patternOf settings.device.id
    width := holds.width
    divisor := holds.divisor ▸ ceil.1
    divisorLegal := holds.divisor ▸ ceil.2
    polarity := holds.polarity
    leading := holds.leading }

/-- **Every unit goes out with the settings of the device last configured.**  At every
write of the transmit register, in every call that a run on a strict host can make,
the device last configured is the one last selected, its line is low, and mode
register and slot hold its settings. -/
theorem settings_at_transmit (drives : host.controller = Standard.controller)
    (strict : host.discipline = .strict) (recorded : host.lines = .recorded) {hardware : σ}
    {log : List (Answered Register σ Unit)}
    (reached : host.Reaches (fun old new => file.contents new = file.contents old)
      (.fresh hardware ()) log bus)
    {call : Call} {reply : Reply} {after : Bus Register σ Unit}
    (answered : host.call bus call = some (reply, after))
    {before rest : List (Event Register)} {value : UInt32}
    (sent : after.trace = bus.trace ++ (before ++ .write .transmit value :: rest)) :
    ∃ settings, Past.settings (pastOf log) = some settings ∧
      Past.lastSelected (pastOf log) = some settings.device ∧
      Trace.level settings.device.line (bus.trace ++ before) = .low ∧
      Applied host.clockHz settings (file.contents (host.hardware.replay before bus.hardware)) := by
  obtain ⟨traffic, allowed⟩ := sent_in_traffic drives answered sent
  have tracks := reached.tracks strict
  rw [host.refusal_eq_none strict, tracks.exchangeBreach_eq,
    Past.exchangeBreach_eq_none] at allowed
  obtain ⟨device, held⟩ := Option.isSome_iff_exists.1 allowed.1
  obtain ⟨settings, last, rfl⟩ := Option.map_eq_some_iff.1 (tracks.heldConfigured device held)
  have up := tracks.settingsUp (by simp [last])
  refine ⟨settings, last, Past.lastSelected_of_held held, ?_, ?_⟩
  · rw [Trace.level_append_of_traffic traffic]
    exact reached.heldLow recorded settings.device held
  · rw [file.contents_traffic drives traffic]
    exact (inPlace_of_reaches file drives strict reached).applied up last held

/-! ## A byte on ideal hardware -/

/-- A strict host on ideal hardware that is always ready. -/
def idealHost : Host Register Contents Unit where
  controller := Standard.controller
  hardware := Contents.ideal 0x203
  lines := .recorded
  discipline := .strict

/-- The bus of that host, brought up on registers full of ones. -/
def idealUp : Bus Register Contents Unit :=
  (idealHost.bringUp 8 (.fresh ⟨0xFFFFFFFF, fun _ => 0xFFFFFFFF⟩ ())).2

/-- That bus with a device configured. -/
def idealConfigured : Bus Register Contents Unit :=
  (idealHost.configure ⟨6, 1, .eight⟩ (.ofBits 3) 1000000 idealUp).2

/-- That bus with the device selected. -/
def idealSelected : Bus Register Contents Unit :=
  (idealHost.select ⟨6, 1, .eight⟩ idealConfigured).2

/-- A byte goes out to the device that was configured and selected. -/
theorem settings_at_transmit_ideal :
    ∃ (log : List (Answered Register Contents Unit)) (after : Bus Register Contents Unit)
      (before rest : List (Event Register)),
      idealHost.Reaches (fun old new => new = old) (.fresh ⟨0xFFFFFFFF, fun _ => 0xFFFFFFFF⟩ ())
        log idealSelected ∧
      idealHost.call idealSelected (.transmit .eight [5]) = some (.outcome (.ok ()), after) ∧
      after.trace = idealSelected.trace ++ (before ++ .write .transmit 0x1000005 :: rest) ∧
      ∃ settings, Past.settings (pastOf log) = some settings ∧
        Past.lastSelected (pastOf log) = some settings.device ∧
        Trace.level settings.device.line (idealSelected.trace ++ before) = .low ∧
        Applied idealHost.clockHz settings
          (idealHost.hardware.replay before idealSelected.hardware) := by
  have raised : idealHost.call (.fresh ⟨0xFFFFFFFF, fun _ => 0xFFFFFFFF⟩ ()) (.bringUp 8) =
      some (.width .eight, idealUp) := rfl
  have configured : idealHost.call idealUp (.configure ⟨6, 1, .eight⟩ (.ofBits 3) 1000000) =
      some (.outcome (.ok ()), idealConfigured) := rfl
  have selected : idealHost.call idealConfigured (.select ⟨6, 1, .eight⟩) =
      some (.outcome (.ok ()), idealSelected) := rfl
  have reached : idealHost.Reaches (fun old new => new = old) _ _ idealSelected :=
    ((Host.Reaches.start.call raised).call configured).call selected
  have sent : idealHost.call idealSelected (.transmit .eight [5]) =
      some (.outcome (.ok ()), idealHost.after ([.read .status 0x203] ++
        .write .transmit 0x1000005 :: [.read .status 0x203, .read .receive 0x203])
          idealSelected) := rfl
  have trace := idealHost.after_trace ([.read .status 0x203] ++
    .write .transmit 0x1000005 :: [.read .status 0x203, .read .receive 0x203]) idealSelected
  exact ⟨_, _, _, _, reached, sent, trace,
    settings_at_transmit (Contents.registerFile 0x203) rfl rfl rfl reached sent trace⟩

end Standard

end SerialBus
