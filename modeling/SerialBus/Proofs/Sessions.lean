import SerialBus.Proofs.SettingsSafety

/-!
# The bracket of a session

While a session is open, its device is engaged, whatever the exchanges in it come to
and on a permissive host as on a strict one (`Reaches.engaged_of_open`).  So a session
is never refused its end, and its end is one wait and one release of its device
(`Host.closeSession_of_engaged`): closing a session marks it before it is lost, and what
is marked is not released again.

On a bus that is used through sessions alone, one after the other, there is more to it
(`Bracket`): a device is engaged only while its session is open, and no line is low but
that of the session's device.  Opening a session then fails only for a bus that was
never brought up or for a baud rate without a divisor, and its end leaves every line
high and every select output of the controller back (`session_bracket`).
-/

set_option autoImplicit false

namespace SerialBus

variable {ρ σ κ : Type}

/-! ## The session that is open -/

/-- The session that a reply opens. -/
def Reply.session? : Reply → Option Session
  | .opened session => some session
  | _ => none

/-- The session that is open after a call, given the one before it.  It stays open only
for exchanges. -/
def Call.sessionAfter (session : Option Session) (reply : Reply) : Call → Option Session
  | .openSession _ _ _ _ => reply.session?
  | .transceive _ _ _ _ => session
  | _ => none

/-- The session that is open after a run whose calls are given, the latest first. -/
def openAfter : List (Answered ρ σ κ) → Option Session
  | [] => none
  | entry :: earlier => entry.call.sessionAfter (openAfter earlier) entry.reply

/-- The calls that make up sessions: with none open, the bus may be brought up and a
session opened, and with one open, units exchanged and that session ended. -/
def Call.OfSession (session : Option Session) : Call → Prop
  | .bringUp _ | .openSession _ _ _ _ => session = none
  | .transceive _ _ _ _ => session.isSome
  | .closeSession ended | .abandonSession ended => session = some ended
  | _ => False

instance (session : Option Session) : (call : Call) → Decidable (call.OfSession session)
  | .bringUp _ | .openSession _ _ _ _ => inferInstanceAs (Decidable (session = none))
  | .transceive _ _ _ _ => inferInstanceAs (Decidable (session.isSome = true))
  | .closeSession ended | .abandonSession ended =>
      inferInstanceAs (Decidable (session = some ended))
  | .configure _ _ _ | .select _ | .deselect _ | .flush | .receive _ _ | .transmit _ _
  | .transfer _ _ _ | .transferInPlace _ _ | .transact _ _ | .drain _ | .prepareDma
  | .transmitByDma _ _ _ | .receiveByDma _ _ _ | .clearOverrun => isFalse id

/-- A run whose calls, the latest first, make up sessions. -/
def BySessions : List (Answered ρ σ κ) → Prop
  | [] => True
  | entry :: earlier => entry.call.OfSession (openAfter earlier) ∧ BySessions earlier

instance : (log : List (Answered ρ σ κ)) → Decidable (BySessions log)
  | [] => isTrue trivial
  | entry :: earlier =>
      match inferInstanceAs (Decidable (entry.call.OfSession (openAfter earlier))),
        instDecidableBySessions earlier with
      | isTrue part, isTrue rest => isTrue ⟨part, rest⟩
      | isFalse part, _ => isFalse fun all => part all.1
      | _, isFalse rest => isFalse fun all => rest all.2

/-! ## The device of a session is engaged -/

namespace Host

variable {host : Host ρ σ κ} {bus after : Bus ρ σ κ} {deeds : List Deed} {call : Call}
  {reply : Reply} {session : Option Session}

/-- A fault does not let go of the device. -/
theorem Leads.engaged_of_faults {failure : Option Failure}
    (leads : host.Leads (faults failure) bus after) :
    after.stage.engaged = bus.stage.engaged := by
  obtain ⟨events, _, _, enacts⟩ := leads
  rcases faults_cases failure with nothing | fault
  · rw [nothing] at enacts
    cases enacts
    rfl
  · rw [fault] at enacts
    cases enacts with
    | cons first rest =>
        cases rest
        cases first with
        | fault allowed =>
            by_cases selected : bus.stage = .selected
            · simp [selected, Stage.engaged]
            · simp [selected]

/-- A session is opened by two deeds, or nothing is done. -/
theorem openSession_enacted {held : Guard} {device : Device} {mode : Mode} {baudHz : UInt32}
    (answered : host.call bus (.openSession held device mode baudHz) = some (reply, after)) :
    (reply = .opened { device } ∧ ∃ mid, host.Enacted (.configure device mode baudHz) bus mid ∧
        host.Enacted (.select device) mid after) ∨
      (reply.session? = none ∧ after = bus) := by
  rcases result : host.openSession held device mode baudHz bus with ⟨opened, mid⟩
  simp only [Host.call, result] at answered
  obtain ⟨rfl, enacts⟩ | ⟨failure, _, rfl, rfl⟩ := openSession_cases result
  · cases answered
    cases enacts with
    | cons configured rest =>
        cases rest with
        | cons selected rest =>
            cases rest
            exact .inl ⟨rfl, _, configured, selected⟩
  · cases answered
    exact .inr ⟨rfl, rfl⟩

theorem Enacted.selected {device : Device} (enacted : host.Enacted (.select device) bus after) :
    after.stage = .selected := by
  cases enacted
  rfl

theorem call_engaged (answered : host.call bus call = some (reply, after))
    (engaged : session.isSome → bus.stage.engaged)
    (stays : (call.sessionAfter session reply).isSome) : after.stage.engaged := by
  cases call with
  | openSession held device mode baudHz =>
      obtain ⟨_, _, _, selected⟩ | ⟨nothing, _⟩ := openSession_enacted answered
      · rw [selected.selected]
        rfl
      · rw [Call.sessionAfter, nothing] at stays
        cases stays
  | transceive w outgoing incoming length =>
      rw [(call_leads answered).engaged_of_faults]
      exact engaged stays
  | _ => cases stays

theorem call_isOpen (answered : host.call bus call = some (reply, after))
    (isOpen : ∀ opened ∈ session, opened.isOpen = true) :
    ∀ opened ∈ call.sessionAfter session reply, opened.isOpen = true := by
  cases call with
  | openSession held device mode baudHz =>
      obtain ⟨rfl, _⟩ | ⟨nothing, _⟩ := openSession_enacted answered
      · intro opened found
        obtain rfl := Option.some.inj found
        rfl
      · rw [Call.sessionAfter, nothing]
        exact fun _ => nofun
  | transceive w outgoing incoming length => exact isOpen
  | _ => exact fun _ => nofun

/-- While a session is open, its device is engaged. -/
theorem Reaches.engaged_of_open {drift : σ → σ → Prop} {start : Bus ρ σ κ}
    {log : List (Answered ρ σ κ)} (reached : host.Reaches drift start log bus)
    (stays : (openAfter log).isSome) : bus.stage.engaged := by
  induction reached with
  | start => cases stays
  | drift _ _ ih => exact ih stays
  | call _ answered ih => exact call_engaged answered ih stays

/-- A session that was opened and has not ended is marked as open. -/
theorem Reaches.isOpen_of_open {drift : σ → σ → Prop} {start : Bus ρ σ κ}
    {log : List (Answered ρ σ κ)} (reached : host.Reaches drift start log bus) :
    ∀ opened ∈ openAfter log, opened.isOpen = true := by
  induction reached with
  | start => exact fun _ nothing => nomatch nothing
  | drift _ _ ih => exact ih
  | @call _ _ _ call _ _ answered ih => exact call_isOpen answered ih

/-- The bus was brought up exactly if a call brought it up. -/
theorem Reaches.up_iff {drift : σ → σ → Prop} {hardware : σ} {lines : κ}
    {log : List (Answered ρ σ κ)} (reached : host.Reaches drift (.fresh hardware lines) log bus) :
    bus.up = true ↔ .bringUp ∈ pastOf log := by
  refine reached.invariant (fun past bus => bus.up = true ↔ .bringUp ∈ past) ?_ ?_ ?_ ?_
  · simp [Bus.fresh]
  · intro past bus new up _
    exact up
  · intro past bus events up _
    exact up
  · intro past deed bus after up enacted
    cases enacted with
    | bringUp down => simp
    | bringUpAgain again => simp [again]
    | _ => simpa using up

/-! ## Opening and ending a session -/

/-- What opening a session comes to when no device is engaged. -/
theorem openSession_of_free (free : bus.stage.engaged = false) (held : Guard) (device : Device)
    (mode : Mode) (baudHz : UInt32) :
    (host.openSession held device mode baudHz bus).1 =
      if host.discipline = .strict ∧ bus.up = false then .error (.outOfOrder .notBroughtUp)
      else if host.controller.divisor host.clockHz baudHz = none then
        .error (.invalidBaudRate baudHz)
      else .ok { device } := by
  have refused : host.refusal bus.configureBreach =
      if host.discipline = .strict ∧ bus.up = false then some (.outOfOrder .notBroughtUp)
      else none := by
    cases discipline : host.discipline with
    | permissive => simp [refusal, discipline]
    | strict => cases up : bus.up <;> simp [refusal, discipline, Bus.configureBreach, free, up]
  rw [openSession_fst, configure, refused]
  by_cases early : host.discipline = .strict ∧ bus.up = false
  · simp only [if_pos early]
    rfl
  · simp only [if_neg early]
    cases host.controller.divisor host.clockHz baudHz with
    | none => rfl
    | some divisor => rfl

/-- A device that is engaged is let go of after a wait, whatever comes of the wait. -/
theorem deselect_of_engaged (engaged : bus.stage.engaged = true) (device : Device) :
    host.deselect device bus =
      (host.wait .txEmpty bus).map fun (drained, bus) => (drained, host.letGo device bus) := by
  have inOrder : bus.deselectBreach = none := if_pos engaged
  rw [deselect, inOrder, refusal_none]

/-- Closing a session whose device is engaged is one wait and one release of the device. -/
theorem closeSession_of_engaged (engaged : bus.stage.engaged = true) (session : Session) :
    host.closeSession session bus = (host.wait .txEmpty bus).map fun (drained, bus) =>
      (drained, host.letGo session.device bus) := by
  rw [closeSession_eq, deselect_of_engaged engaged]

/-- Losing a session that is open is closing it without the report. -/
theorem abandonSession_eq_closeSession {session : Session} (isOpen : session.isOpen = true) :
    host.abandonSession session bus = (host.closeSession session bus).map Prod.snd := by
  rw [abandonSession_of_open isOpen, closeSession_eq]

end Host

/-! ## The bracket -/

section Bracket

variable {host : Host ρ σ Unit} {bus after : Bus ρ σ Unit} {session : Option Session}
  {number : UInt8}

/-- A device is engaged exactly if a session is open, and only the line of its device is
low. -/
structure Bracket (session : Option Session) (bus : Bus ρ σ Unit) : Prop where
  engaged : bus.stage.engaged = session.isSome
  low : ∀ number, Trace.level number bus.trace = .low ↔
    ∃ opened, session = some opened ∧ number = opened.device.line

/-- With no session open, every line is high. -/
theorem Bracket.high (bracket : Bracket none bus) (number : UInt8) :
    Trace.level number bus.trace = .high := by
  cases level : Trace.level number bus.trace with
  | high => rfl
  | low =>
      obtain ⟨_, nothing, _⟩ := (bracket.low number).1 level
      cases nothing

section Recorded

variable (recorded : host.lines = .recorded)
include recorded

/-- Deeds that neither select nor release leave the lines alone. -/
theorem Host.Enacts.level_eq {deeds : List Deed} (enacts : host.Enacts deeds bus after)
    (still : ∀ deed ∈ deeds, deed.switch? = none) :
    Trace.level number after.trace = Trace.level number bus.trace := by
  induction enacts with
  | nil => rfl
  | @cons deed deeds _ _ _ first _ ih =>
      rw [ih fun later member => still later (List.mem_cons_of_mem _ member),
        first.level_eq recorded]
      have here := still deed List.mem_cons_self
      cases deed with
      | select | release => cases here
      | _ => rfl

theorem Host.Leads.level_eq {deeds : List Deed} (leads : host.Leads deeds bus after)
    (still : ∀ deed ∈ deeds, deed.switch? = none) :
    Trace.level number after.trace = Trace.level number bus.trace := by
  obtain ⟨events, traffic, _, enacts⟩ := leads
  rw [enacts.level_eq recorded still, after_trace, Trace.level_append_of_traffic traffic]

namespace Bracket

/-- Selecting the device of a session takes its line low. -/
theorem opened {mid : Bus ρ σ Unit} {device : Device} {mode : Mode} {baudHz : UInt32}
    (bracket : Bracket none bus) (configured : host.Enacted (.configure device mode baudHz) bus mid)
    (selected : host.Enacted (.select device) mid after) : Bracket (some { device }) after where
  engaged := by
    rw [selected.selected]
    rfl
  low := by
    intro number
    rw [selected.level_eq recorded, configured.level_eq recorded]
    by_cases line : device.line = number
    · simp [line]
    · simp [line, Ne.symm line, bracket.high number]

/-- Letting go of the device of a session takes its line high, whatever comes of the wait
before. -/
theorem ended {session : Session} {outcome : Outcome} (bracket : Bracket (some session) bus)
    (result : host.closeSession session bus = some (outcome, after)) :
    (outcome = .ok () ∨ outcome = .error (.timeout .txEmpty)) ∧ Bracket none after ∧
      ∃ mid, after = host.letGo session.device mid := by
  rw [Host.closeSession_of_engaged bracket.engaged] at result
  obtain ⟨⟨drained, mid⟩, waits, same⟩ := Option.map_eq_some_iff.1 result
  cases same
  obtain ⟨events, waited, rfl⟩ := Host.wait_waited waits
  refine ⟨waited.outcome_cases, ⟨rfl, ?_⟩, _, rfl⟩
  intro number
  rw [Host.level_letGo recorded, Host.after_trace,
    Trace.level_append_of_traffic waited.traffic]
  by_cases line : session.device.line = number
  · simp [line]
  · have others := bracket.low number
    simpa [line, Ne.symm line] using others

/-- Every call that is part of a session keeps the bracket. -/
theorem call (bracket : Bracket session bus) (isOpen : ∀ opened ∈ session, opened.isOpen = true)
    {call : Call} {reply : Reply}
    (part : call.OfSession session) (answered : host.call bus call = some (reply, after)) :
    Bracket (call.sessionAfter session reply) after := by
  cases call with
  | bringUp bits =>
      obtain rfl : session = none := part
      have leads := Host.call_leads answered
      refine ⟨?_, fun number => ?_⟩
      · obtain ⟨events, _, _, enacts⟩ := leads
        cases enacts with
        | cons first rest =>
            cases rest
            cases first with
            | bringUp down => rfl
            | bringUpAgain up => exact bracket.engaged
      · rw [leads.level_eq recorded (by simp [Call.deeds, Deed.switch?])]
        exact bracket.low number
  | openSession held device mode baudHz =>
      obtain rfl : session = none := part
      obtain ⟨rfl, mid, configured, selected⟩ | ⟨nothing, rfl⟩ :=
        Host.openSession_enacted answered
      · exact bracket.opened recorded configured selected
      · rw [Call.sessionAfter, nothing]
        exact bracket
  | transceive w outgoing incoming length =>
      have leads := Host.call_leads answered
      have still : ∀ deed ∈ faults reply.failure?, deed.switch? = none := by
        intro deed member
        rcases faults_cases reply.failure? with nothing | fault
        · simp [nothing] at member
        · rw [fault] at member
          rw [List.mem_singleton.1 member]
          rfl
      refine ⟨leads.engaged_of_faults.trans bracket.engaged, fun number => ?_⟩
      rw [leads.level_eq recorded still]
      exact bracket.low number
  | closeSession closing =>
      obtain rfl : session = some closing := part
      obtain ⟨⟨_, _⟩, result, same⟩ := Option.map_eq_some_iff.1 answered
      cases same
      exact (bracket.ended recorded result).2.1
  | abandonSession abandoned =>
      obtain rfl : session = some abandoned := part
      obtain ⟨_, left, same⟩ := Option.map_eq_some_iff.1 answered
      rw [Host.abandonSession_eq_closeSession (isOpen _ rfl)] at left
      obtain ⟨⟨_, _⟩, result, rfl⟩ := Option.map_eq_some_iff.1 left
      cases same
      exact (bracket.ended recorded result).2.1
  | _ => exact part.elim

end Bracket

/-- On a bus that is used through sessions alone, the bracket holds wherever a run can get. -/
theorem Host.Reaches.bracket {drift : σ → σ → Prop} {hardware : σ}
    {log : List (Answered ρ σ Unit)}
    (reached : host.Reaches drift (.fresh hardware ()) log bus) (sessions : BySessions log) :
    Bracket (openAfter log) bus := by
  induction reached with
  | start => exact ⟨rfl, fun number => by simp [Bus.fresh, Bus.trace, Trace.level, openAfter]⟩
  | drift _ _ ih =>
      obtain ⟨engaged, low⟩ := ih sessions
      exact ⟨engaged, low⟩
  | call earlier answered ih =>
      exact (ih sessions.2).call recorded earlier.isOpen_of_open sessions.1 answered

end Recorded

/-! ## Every session is a bracket -/

namespace Backend

/-- The select pattern that the mode register reads as, on a backend that has one. -/
def pattern? : (backend : Backend) → Hardware backend.Register σ → σ → Option UInt8
  | .standard, hardware, state =>
      some (Standard.ModeControl.selected (hardware.read .mode state).1)
  | .usart, _, _ => none

/-- The mode register with the select pattern reads back what was written to it. -/
def KeepsMode : (backend : Backend) → Hardware backend.Register σ → Prop
  | .standard, hardware =>
      ∀ value state, (hardware.read .mode (hardware.write .mode value state)).1 = value
  | .usart, _ => True

/-- Letting go of a device takes every select output back. -/
theorem pattern?_letGo {backend : Backend} {host : Host backend.Register σ κ}
    (drives : host.controller = backend.controller) (keeps : backend.KeepsMode host.hardware)
    {bus : Bus backend.Register σ κ} {device : Device} :
    ∀ pattern ∈ backend.pattern? host.hardware (host.letGo device bus).hardware,
      pattern = 0xF := by
  intro pattern found
  cases backend with
  | standard =>
      obtain ⟨value, state, written⟩ : ∃ value state, (host.letGo device bus).hardware =
          host.hardware.write .mode
            (Standard.ModeControl.select Standard.noneSelected value) state := by
        rw [Host.letGo, drives]
        exact ⟨_, _, rfl⟩
      rw [written] at found
      obtain rfl := Option.some.inj found
      rw [keeps, Standard.selected_select_noneSelected]
      rfl
  | usart => cases found

end Backend

/-- **Every session is a bracket.**  On a bus that is used through sessions alone, in
either discipline and on any hardware: with no session open, every line is high, and a
session is opened unless a strict host was never brought up or the baud rate has no
divisor.  With a session open, it is marked as open, the line of its device is low and no
other, and its device is engaged.  Closing it is one wait for everything sent to leave
the controller and one release of its device, and reports that wait alone; losing it
while it is open does the same and reports nothing, and losing it once it was closed
does nothing at all.  Either way every line is high afterwards, no device is selected,
and the select pattern is that of no device. -/
theorem session_bracket (backend : Backend) {host : Host backend.Register σ Unit}
    (drives : host.controller = backend.controller) (recorded : host.lines = .recorded)
    {drift : σ → σ → Prop} {hardware : σ} {log : List (Answered backend.Register σ Unit)}
    {bus : Bus backend.Register σ Unit}
    (reached : host.Reaches drift (.fresh hardware ()) log bus) (sessions : BySessions log) :
    (openAfter log = none →
        (∀ number, Trace.level number bus.trace = .high) ∧
        ∀ held device mode baudHz, (host.openSession held device mode baudHz bus).1 =
          if host.discipline = .strict ∧ .bringUp ∉ pastOf log then
            .error (.outOfOrder .notBroughtUp)
          else if host.controller.divisor host.clockHz baudHz = none then
            .error (.invalidBaudRate baudHz)
          else .ok { device }) ∧
      ∀ session, openAfter log = some session → session.isOpen = true ∧
        (∀ number, Trace.level number bus.trace = .low ↔ number = session.device.line) ∧
        (bus.stage = .selected ∨ bus.stage = .faulted) ∧
        host.closeSession session bus = (host.wait .txEmpty bus).map (fun (drained, bus) =>
          (drained, host.letGo session.device bus)) ∧
        (∀ outcome after, host.closeSession session bus = some (outcome, after) →
          (outcome = .ok () ∨ outcome = .error (.timeout .txEmpty)) ∧
          (∀ number, Trace.level number after.trace = .high) ∧
          after.stage = .deselected ∧
          (backend.KeepsMode host.hardware →
            ∀ pattern ∈ backend.pattern? host.hardware after.hardware, pattern = 0xF)) ∧
        host.abandonSession session bus = (host.closeSession session bus).map Prod.snd ∧
        ∀ later, host.abandonSession session.closed later = some later := by
  have bracket := reached.bracket recorded sessions
  constructor
  · intro free
    rw [free] at bracket
    refine ⟨bracket.high, ?_⟩
    intro held device mode baudHz
    have up : bus.up = false ↔ .bringUp ∉ pastOf log := by
      rw [← reached.up_iff, Bool.not_eq_true]
    simp only [Host.openSession_of_free bracket.engaged, up]
  · intro session opened
    rw [opened] at bracket
    have isOpen := reached.isOpen_of_open session opened
    refine ⟨isOpen, ?_, (Stage.engaged_iff _).1 bracket.engaged,
      Host.closeSession_of_engaged bracket.engaged session, ?_,
      Host.abandonSession_eq_closeSession isOpen, fun _ => Host.abandonSession_of_closed rfl⟩
    · intro number
      rw [bracket.low]
      simp
    · intro outcome after closed
      obtain ⟨reported, ended, mid, rfl⟩ := bracket.ended recorded closed
      exact ⟨reported, ended.high, rfl, fun keeps => Backend.pattern?_letGo drives keeps⟩

/-- A strict host on registers that hold what was written, to which no answer comes. -/
def Standard.idealUnheard : Host Standard.Register Standard.Contents Unit :=
  { Standard.idealHost with hardware := Standard.Contents.ideal 0x202, waits := .pollLimit 2 }

/-- The bus of that host before it is brought up, with registers full of ones. -/
def Standard.idealFresh : Bus Standard.Register Standard.Contents Unit :=
  .fresh ⟨0xFFFFFFFF, fun _ => 0xFFFFFFFF⟩ ()

/-- A session with a transfer in it. -/
def Standard.idealTurns : List (Turn Standard.Contents) :=
  [.call (.bringUp 8), .call (.openSession ⟨0⟩ ⟨6, 1, .eight⟩ (.ofBits 3) 1000000),
    .call (.transceive .eight (some [1, 2]) none 2)]

/-- A session is closed after a transfer in it has timed out, and it is lost after that without
another release. -/
theorem session_bracket_unheard :
    ∃ log bus after, Standard.idealUnheard.Reaches (fun _ _ => True) Standard.idealFresh log bus ∧
      BySessions log ∧ openAfter log = some ⟨⟨6, 1, .eight⟩, true⟩ ∧ bus.stage = .faulted ∧
      Standard.idealUnheard.closeSession ⟨⟨6, 1, .eight⟩, true⟩ bus = some (.ok (), after) ∧
      (∀ number, Trace.level number after.trace = .high) ∧ after.stage = .deselected ∧
      Standard.ModeControl.selected
        (Standard.idealUnheard.hardware.read .mode after.hardware).1 = 0xF ∧
      Standard.idealUnheard.abandonSession ⟨⟨6, 1, .eight⟩, false⟩ after = some after := by
  have ran : (Standard.idealUnheard.turns Standard.idealFresh Standard.idealTurns).map
      (fun log => (decide (BySessions (answers Standard.idealTurns log)),
        openAfter (answers Standard.idealTurns log), (Standard.idealFresh.afterRun log).stage,
        (Standard.idealUnheard.closeSession ⟨⟨6, 1, .eight⟩, true⟩
          (Standard.idealFresh.afterRun log)).map Prod.fst)) =
      some (true, some ⟨⟨6, 1, .eight⟩, true⟩, .faulted, some (.ok ())) := rfl
  obtain ⟨log, ran, told⟩ := Option.map_eq_some_iff.1 ran
  simp only [Prod.mk.injEq, decide_eq_true_eq] at told
  obtain ⟨sessions, opened, faulted, told⟩ := told
  obtain ⟨⟨_, after⟩, closed, rfl⟩ := Option.map_eq_some_iff.1 told
  have reached := Host.reaches_of_run ran
  obtain ⟨_, bracket⟩ := session_bracket .standard rfl rfl reached sessions
  obtain ⟨_, _, _, _, ended, _, lost⟩ := bracket _ opened
  obtain ⟨_, high, deselected, pattern⟩ := ended _ after closed
  have keeps : Backend.standard.KeepsMode Standard.idealUnheard.hardware := fun _ _ => rfl
  exact ⟨_, _, after, reached, sessions, opened, faulted, closed, high, deselected,
    pattern keeps _ rfl, lost after⟩

end Bracket

end SerialBus
