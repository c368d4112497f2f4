import SerialBus.Proofs.Answers

/-!
# Runs and their past

A run is a sequence of answered calls, between which the hardware may change by
itself.  Its past is the list of the deeds of its calls, the latest first, and
everything that the order of calls depends on can be read off the past: the device
that is held selected, the device last selected, the settings last applied, and
whether a transfer has timed out since.

A property of past and bus that traffic and deeds keep holds wherever a run can get
(`Reaches.invariant`).  The runs here are those of `Host.turns` (`reaches_of_turns`).
-/

set_option autoImplicit false

namespace SerialBus

variable {ρ σ κ : Type}

/-! ## The past -/

/-- The settings that a device was configured with. -/
structure Settings where
  device : Device
  mode : Mode
  baudHz : UInt32
  deriving DecidableEq, Repr

namespace Deed

/-- The device that is held selected after a deed, if the deed says so. -/
def switch? : Deed → Option (Option Device)
  | .select device => some (some device)
  | .release _ => some none
  | _ => none

/-- The device that a deed selected. -/
def selected? : Deed → Option Device
  | .select device => some device
  | _ => none

/-- The settings that a deed applied. -/
def settings? : Deed → Option Settings
  | .configure device mode baudHz => some ⟨device, mode, baudHz⟩
  | _ => none

end Deed

namespace Past

/-- The device that is held: the one selected, unless one was released since. -/
def held (past : List Deed) : Option Device :=
  (past.findSome? Deed.switch?).join

/-- The device last selected. -/
def lastSelected (past : List Deed) : Option Device :=
  past.findSome? Deed.selected?

/-- The settings last applied. -/
def settings (past : List Deed) : Option Settings :=
  past.findSome? Deed.settings?

/-- A device is held, and a transfer has timed out since it was selected. -/
def Faulted (past : List Deed) : Prop :=
  (held past).isSome ∧ .fault ∈ past.takeWhile fun deed => deed.switch?.isNone

instance (past : List Deed) : Decidable (Faulted past) :=
  inferInstanceAs (Decidable (_ ∧ _))

section Simp

variable (past : List Deed) (device : Device) (mode : Mode) (baudHz : UInt32)

@[simp] theorem held_nil : held [] = none := rfl

@[simp] theorem held_bringUp : held (.bringUp :: past) = held past := rfl

@[simp] theorem held_configure :
    held (.configure device mode baudHz :: past) = held past := rfl

@[simp] theorem held_select : held (.select device :: past) = some device := rfl

@[simp] theorem held_release : held (.release device :: past) = none := rfl

@[simp] theorem held_fault : held (.fault :: past) = held past := rfl

@[simp] theorem settings_bringUp : settings (.bringUp :: past) = settings past := rfl

@[simp] theorem settings_configure :
    settings (.configure device mode baudHz :: past) = some ⟨device, mode, baudHz⟩ := rfl

@[simp] theorem settings_select : settings (.select device :: past) = settings past := rfl

@[simp] theorem settings_release : settings (.release device :: past) = settings past := rfl

@[simp] theorem settings_fault : settings (.fault :: past) = settings past := rfl

@[simp] theorem not_faulted_nil : ¬ Faulted [] := by decide

@[simp] theorem faulted_bringUp : Faulted (.bringUp :: past) ↔ Faulted past := by
  simp [Faulted, Deed.switch?]

@[simp] theorem faulted_configure :
    Faulted (.configure device mode baudHz :: past) ↔ Faulted past := by
  simp [Faulted, Deed.switch?]

@[simp] theorem not_faulted_select : ¬ Faulted (.select device :: past) := by
  simp [Faulted, Deed.switch?]

@[simp] theorem not_faulted_release : ¬ Faulted (.release device :: past) := by
  simp [Faulted]

@[simp] theorem faulted_fault : Faulted (.fault :: past) ↔ (held past).isSome := by
  simp [Faulted, Deed.switch?]

end Simp

/-- The device that is held is the one last selected. -/
theorem lastSelected_of_held {past : List Deed} {device : Device}
    (holds : held past = some device) : lastSelected past = some device := by
  induction past with
  | nil => simp at holds
  | cons deed past ih =>
      cases deed with
      | select other => exact holds
      | release other => simp at holds
      | _ => exact ih holds

end Past

/-! ## Runs -/

/-- A bus that was never used. -/
def Bus.fresh (hardware : σ) (lines : κ) : Bus ρ σ κ where
  hardware := hardware
  lines := lines

/-- A call that was answered, with the bus that it left behind. -/
structure Answered (ρ σ κ : Type) where
  call : Call
  reply : Reply
  bus : Bus ρ σ κ

/-- The past of a run whose calls are given, the latest first. -/
def pastOf (log : List (Answered ρ σ κ)) : List Deed :=
  log.flatMap fun entry => (entry.call.deeds entry.reply).reverse

@[simp] theorem pastOf_cons (entry : Answered ρ σ κ) (log : List (Answered ρ σ κ)) :
    pastOf (entry :: log) = (entry.call.deeds entry.reply).reverse ++ pastOf log := rfl

namespace Host

variable (host : Host ρ σ κ) (drift : σ → σ → Prop) (start : Bus ρ σ κ)

/-- The buses that a run can reach, with the calls answered on the way, the latest
first.  Between calls the hardware drifts. -/
inductive Reaches : List (Answered ρ σ κ) → Bus ρ σ κ → Prop where
  | start : Reaches [] start
  | drift {log : List (Answered ρ σ κ)} {bus : Bus ρ σ κ} {new : σ}
      (reached : Reaches log bus) (drifts : drift bus.hardware new) :
      Reaches log { bus with hardware := new }
  | call {log : List (Answered ρ σ κ)} {bus after : Bus ρ σ κ} {call : Call} {reply : Reply}
      (reached : Reaches log bus) (answered : host.call bus call = some (reply, after)) :
      Reaches (⟨call, reply, after⟩ :: log) after

variable {host drift start}

/-- What deeds keep one by one, they keep one after the other. -/
theorem Enacts.invariant {kept : List Deed → Bus ρ σ κ → Prop}
    (enacted : ∀ {past deed bus after}, kept past bus → host.Enacted deed bus after →
      kept (deed :: past) after)
    {past deeds : List Deed} {bus after : Bus ρ σ κ} (keeps : kept past bus)
    (enacts : host.Enacts deeds bus after) : kept (deeds.reverse ++ past) after := by
  induction enacts generalizing past with
  | nil => exact keeps
  | cons first _ ih =>
      rw [List.reverse_cons, List.append_assoc]
      exact ih (enacted keeps first)

/-- **What drift, traffic and deeds keep holds wherever a run can get.** -/
theorem Reaches.invariant (kept : List Deed → Bus ρ σ κ → Prop) (begins : kept [] start)
    (drifted : ∀ {past bus new}, kept past bus → drift bus.hardware new →
      kept past { bus with hardware := new })
    (trafficked : ∀ {past bus events}, kept past bus →
      (∀ event ∈ events, event.Traffic host.controller) → kept past (host.after events bus))
    (enacted : ∀ {past deed bus after}, kept past bus → host.Enacted deed bus after →
      kept (deed :: past) after)
    {log : List (Answered ρ σ κ)} {bus : Bus ρ σ κ} (reached : host.Reaches drift start log bus) :
    kept (pastOf log) bus := by
  induction reached with
  | start => exact begins
  | drift _ drifts ih => exact drifted ih drifts
  | call _ answered ih =>
      obtain ⟨events, traffic, _, enacts⟩ := call_leads answered
      exact enacts.invariant enacted (trafficked ih traffic)

/-- The buses that were left behind on the way were reached as well. -/
theorem Reaches.of_suffix {log earlier : List (Answered ρ σ κ)} {entry : Answered ρ σ κ}
    {bus : Bus ρ σ κ} (reached : host.Reaches drift start log bus)
    (suffix : entry :: earlier <:+ log) :
    host.Reaches drift start (entry :: earlier) entry.bus := by
  induction reached with
  | start => simp at suffix
  | drift _ _ ih => exact ih suffix
  | call before answered ih =>
      rcases List.suffix_cons_iff.1 suffix with same | inside
      · cases same
        exact before.call answered
      · exact ih inside

end Host

/-! ## Runs of turns -/

/-- The answer to a turn that was a call. -/
def Turn.answered? : Turn σ → Option Reply × Bus ρ σ κ → Option (Answered ρ σ κ)
  | .call asked, (some reply, bus) => some ⟨asked, reply, bus⟩
  | _, _ => none

/-- The calls answered in a run of turns, the latest first. -/
def answers (turns : List (Turn σ)) (log : List (Option Reply × Bus ρ σ κ)) :
    List (Answered ρ σ κ) :=
  ((turns.zip log).filterMap fun (turn, answer) => turn.answered? answer).reverse

theorem answers_call (call : Call) (reply : Reply) (bus : Bus ρ σ κ) (turns : List (Turn σ))
    (log : List (Option Reply × Bus ρ σ κ)) :
    answers (.call call :: turns) ((some reply, bus) :: log) =
      answers turns log ++ [⟨call, reply, bus⟩] := by
  simp [answers, Turn.answered?]

theorem Bus.afterRun_cons (bus : Bus ρ σ κ) (answer : Option Reply × Bus ρ σ κ)
    (log : List (Option Reply × Bus ρ σ κ)) :
    bus.afterRun (answer :: log) = answer.2.afterRun log := by
  cases log with
  | nil => rfl
  | cons next rest => simp [Bus.afterRun, List.getLast?_cons]

theorem Host.turns_cons {host : Host ρ σ κ} {turn : Turn σ} {reply : Option Reply}
    {bus mid : Bus ρ σ κ} {turns : List (Turn σ)} {log : List (Option Reply × Bus ρ σ κ)}
    (turned : host.turn bus turn = some (reply, mid))
    (continued : host.turns mid turns = some log) :
    host.turns bus (turn :: turns) = some ((reply, mid) :: log) := by
  rw [Host.turns, turned]
  simp only [continued, Option.map_some]

/-- A run of turns goes where a run can get, if the hardware changes as it may drift. -/
theorem Host.reaches_of_turns {host : Host ρ σ κ} {drift : σ → σ → Prop} {start : Bus ρ σ κ}
    {earlier : List (Answered ρ σ κ)} {bus : Bus ρ σ κ} {turns : List (Turn σ)}
    {log : List (Option Reply × Bus ρ σ κ)} (reached : host.Reaches drift start earlier bus)
    (drifts : ∀ new, .change new ∈ turns → ∀ state, drift state (new state))
    (ran : host.turns bus turns = some log) :
    host.Reaches drift start (answers turns log ++ earlier) (bus.afterRun log) := by
  induction turns generalizing bus earlier log with
  | nil =>
      cases ran
      exact reached
  | cons first rest ih =>
      have later := fun new member => drifts new (List.mem_cons_of_mem _ member)
      rw [turns] at ran
      split at ran
      next => simp at ran
      next reply mid turned =>
        obtain ⟨log, continued, rfl⟩ := Option.map_eq_some_iff.1 ran
        rw [Bus.afterRun_cons]
        cases first with
        | change new =>
            cases turned
            exact ih (reached.drift (drifts new List.mem_cons_self _)) later continued
        | call call =>
            obtain ⟨⟨reply, after⟩, answered, same⟩ := Option.map_eq_some_iff.1 turned
            cases same
            rw [answers_call, List.append_assoc]
            exact ih (reached.call answered) later continued

/-- A run of turns from a bus goes where a run from it can get with any drift. -/
theorem Host.reaches_of_run {host : Host ρ σ κ} {start : Bus ρ σ κ} {turns : List (Turn σ)}
    {log : List (Option Reply × Bus ρ σ κ)} (ran : host.turns start turns = some log) :
    host.Reaches (fun _ _ => True) start (answers turns log) (start.afterRun log) :=
  List.append_nil (answers turns log) ▸ reaches_of_turns .start (fun _ _ _ => trivial) ran

end SerialBus
