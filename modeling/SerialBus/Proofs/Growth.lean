import SerialBus.Proofs.Runs

/-!
# How the trace grows

The hardware of a bus changes by nothing but what is noted in its trace: from one bus to
the next the trace has grown by some events, and the hardware has undergone them
(`Host.Grows`).

Of what a call adds to the trace, most is routine: polls, readings of the clock, units,
DMA commands, and the doings of a device adapter (`Event.Routine`).  The rest are the
events of its deeds, accesses of a script and a drive of a chip-select line (`Deed.Adds`).
There is nothing else (`call_grows`).
-/

set_option autoImplicit false

namespace SerialBus

variable {ρ σ κ : Type}

/-! ## Routine -/

/-- An event of a call that belongs to none of its deeds. -/
inductive Event.Routine (controller : Controller ρ) : Event ρ → Prop where
  | clock (now : UInt64) : Routine controller (.clock now)
  | poll (status : UInt32) : Routine controller (.read controller.status status)
  | send (value : UInt32) : Routine controller (.write controller.transmit value)
  | take (value : UInt32) : Routine controller (.read controller.receive value)
  | dma (command : Dma.Command) : Routine controller (.dma command)
  | adapter (level : Level) : Routine controller (.adapter level)
  | delay (nanoseconds : UInt32) : Routine controller (.delay nanoseconds)

section Routine

variable {controller : Controller ρ} {event : Event ρ} {events : List (Event ρ)}
  {outcome : Outcome}

theorem Event.Waiting.routine (waiting : event.Waiting controller) : event.Routine controller := by
  rcases waiting with clock | ⟨value, rfl⟩
  · cases event with
    | clock now => exact .clock now
    | _ => exact clock.elim
  · exact .poll value

theorem Event.Arming.routine (arming : event.Arming controller) : event.Routine controller := by
  rcases arming with ⟨command, rfl⟩ | ⟨value, rfl⟩
  · exact .dma command
  · exact .poll value

theorem Waited.routine {condition : Condition}
    (waited : Waited controller condition outcome events) :
    ∀ event ∈ events, event.Routine controller :=
  fun event member => (waited.waiting event member).routine

theorem Shifted.routine {w : Width} {β : Type} {feed : Feed w β} {left index : Nat}
    {buffers final : β}
    (shifted : Shifted controller feed left index buffers outcome final events) :
    ∀ event ∈ events, event.Routine controller :=
  shifted.each (fun _ waiting => waiting.routine) .send .take

end Routine

/-! ## The events of a deed -/

namespace Deed

/-- An access that a script makes for a deed. -/
def Makes (host : Host ρ σ κ) (access : Access ρ) : Deed → Prop
  | .bringUp => access ∈ host.controller.bringUp host.clockHz
  | .configure device mode _ =>
      ∃ divisor, access ∈ host.controller.configure device mode divisor
  | .select device => access ∈ host.controller.select device
  | .release _ => access ∈ host.controller.finish
  | .fault => False

/-- The line that is driven for a deed, with its new level. -/
def drive? : Deed → Option (UInt8 × Level)
  | .select device => some (device.line, .low)
  | .release device => some (device.line, .high)
  | _ => none

/-- An event of a deed. -/
inductive Adds (host : Host ρ σ κ) (deed : Deed) : Event ρ → Prop where
  | access {access : Access ρ} {state : σ} {event : Event ρ} (makes : deed.Makes host access)
      (member : event ∈ host.hardware.eventsOf state access) : Adds host deed event
  | drive {number : UInt8} {level : Level} {lines : κ} {shown : LineEvent}
      (drives : deed.drive? = some (number, level))
      (shows : shown ∈ (host.lines.drive number level lines).2) : Adds host deed (.line shown)

end Deed

namespace Host

/-- From one bus to another the trace has grown by events with a property, and the hardware
has undergone them. -/
def Grows (host : Host ρ σ κ) (property : Event ρ → Prop) (bus after : Bus ρ σ κ) : Prop :=
  ∃ events, after.trace = bus.trace ++ events ∧
    after.hardware = host.hardware.replay events bus.hardware ∧ ∀ event ∈ events, property event

variable {host : Host ρ σ κ} {property : Event ρ → Prop} {bus mid after : Bus ρ σ κ}
  {events : List (Event ρ)}

theorem Grows.refl : host.Grows property bus bus :=
  ⟨[], by simp, rfl, by simp⟩

theorem Grows.trans (first : host.Grows property bus mid) (second : host.Grows property mid after) :
    host.Grows property bus after := by
  obtain ⟨before, trace, hardware, holds⟩ := first
  obtain ⟨later, laterTrace, laterHardware, laterHolds⟩ := second
  refine ⟨before ++ later, ?_, ?_, ?_⟩
  · rw [laterTrace, trace, List.append_assoc]
  · rw [laterHardware, hardware, Hardware.replay_append]
  · intro event member
    rcases List.mem_append.1 member with here | there
    · exact holds event here
    · exact laterHolds event there

theorem Grows.mono {other : Event ρ → Prop} (grows : host.Grows property bus after)
    (implies : ∀ event, property event → other event) : host.Grows other bus after := by
  obtain ⟨events, trace, hardware, holds⟩ := grows
  exact ⟨events, trace, hardware, fun event member => implies event (holds event member)⟩

theorem after_grows (holds : ∀ event ∈ events, property event) :
    host.Grows property bus (host.after events bus) :=
  ⟨events, host.after_trace events bus, rfl, holds⟩

theorem run_grows {script : List (Access ρ)}
    (holds : ∀ access ∈ script, ∀ state, ∀ event ∈ host.hardware.eventsOf state access,
      property event) : host.Grows property bus (host.run script bus) := by
  rw [run_eq]
  refine after_grows fun event member => ?_
  obtain ⟨access, inScript, state, member⟩ := Hardware.mem_eventsOfScript member
  exact holds access inScript state event member

theorem drive_grows {number : UInt8} {level : Level}
    (holds : ∀ shown ∈ (host.lines.drive number level bus.lines).2, property (.line shown)) :
    host.Grows property bus (host.drive number level bus) := by
  refine ⟨_, host.trace_drive bus number level, ?_, ?_⟩
  · cases (host.lines.drive number level bus.lines).2 with
    | none => rfl
    | some shown => rfl
  · intro event member
    obtain ⟨shown, shows, rfl⟩ := Option.map_eq_some_iff.1 (Option.mem_toList.1 member)
    exact holds shown shows

theorem note_adapter_grows (level : Level) :
    host.Grows (Event.Routine host.controller) bus (bus.note (.adapter level)) := by
  rw [host.note_adapter_eq]
  exact after_grows fun event member => List.mem_singleton.1 member ▸ .adapter level

/-! ## Calls -/

/-- A deed adds its events. -/
theorem Enacted.grows {deed : Deed} (enacted : host.Enacted deed bus after) :
    host.Grows (deed.Adds host) bus after := by
  have driven {device : Device} {level : Level} (now : Bus ρ σ κ)
      (drives : deed.drive? = some (device.line, level)) :
      host.Grows (deed.Adds host) now (host.drive device.line level now) :=
    drive_grows fun _ shows => .drive drives shows
  cases enacted with
  | bringUp down => exact run_grows fun _ member _ _ => .access member
  | bringUpAgain up => exact .refl
  | configure allowed legal => exact run_grows fun _ member _ _ => .access ⟨_, member⟩
  | select allowed =>
      exact (run_grows fun _ member _ _ => .access member).trans (driven _ rfl)
  | release allowed =>
      exact (run_grows fun _ member _ _ => .access member).trans (driven _ rfl)
  | releaseNothing refused => exact .refl
  | fault allowed => exact .refl

theorem Enacts.grows {deeds : List Deed} (enacts : host.Enacts deeds bus after) :
    host.Grows (fun event => ∃ deed ∈ deeds, deed.Adds host event) bus after := by
  induction enacts with
  | nil => exact .refl
  | cons first _ ih =>
      refine (first.grows.mono ?_).trans (ih.mono ?_)
      · exact fun event adds => ⟨_, List.mem_cons_self, adds⟩
      · rintro event ⟨deed, member, adds⟩
        exact ⟨deed, List.mem_cons_of_mem _ member, adds⟩

theorem Transfers.grows {γ : Type} {given back : γ} {outcome : Outcome}
    (transfers : host.Transfers bus given outcome back after) :
    host.Grows (Event.Routine host.controller) bus after := by
  cases transfers with
  | refused objection => exact .refl
  | shifted allowed shifted => exact after_grows shifted.routine

theorem Operates.grows {outcome : Outcome} (operates : host.Operates bus outcome after) :
    host.Grows (Event.Routine host.controller) bus after := by
  cases operates with
  | transferred transfers => exact transfers.grows
  | delayed waited =>
      rw [← after_after]
      exact (after_grows waited.routine).trans
        (after_grows fun event member => List.mem_singleton.1 member ▸ .delay _)
  | undrained waited => exact after_grows waited.routine

theorem transact_grows {w : Width} {operations done : List (Operation w)} {outcome : Outcome}
    (result : host.transact operations bus = some (outcome, done, after)) :
    host.Grows (Event.Routine host.controller) bus after := by
  obtain ⟨carried, drained, mid, events, carriedOut, -, waited, rfl, -⟩ := transact_cases result
  have operated := operateAll_relates
    (fun _ bus after => host.Grows (Event.Routine host.controller) bus after)
    (fun _ => .refl) (fun first second => first.trans second) Operates.grows carriedOut
  rw [← after_after, ← note_adapter_eq]
  exact ((note_adapter_grows .low).trans operated).trans
    ((after_grows waited.routine).trans (note_adapter_grows .high))

/-- **A call adds routine and the events of its deeds, and nothing else.** -/
theorem call_grows {call : Call} {reply : Reply}
    (answered : host.call bus call = some (reply, after)) :
    host.Grows (fun event => event.Routine host.controller ∨
      ∃ deed ∈ call.deeds reply, deed.Adds host event) bus after := by
  cases call_answers answered with
  | unavailable nothing => exact .refl
  | refused objection nothing => exact .refl
  | enacted fine enacts => exact enacts.grows.mono fun _ => .inr
  | drained waited told enacts =>
      exact (after_grows fun event member => .inl (waited.routine event member)).trans
        (enacts.grows.mono fun _ => .inr)
  | shifted allowed shifted told faulty =>
      exact after_grows fun event member => .inl (shifted.routine event member)
  | armed fine nothing arming =>
      exact after_grows fun event member => .inl (arming event member).routine
  | transacted result =>
      have attached : host.Grows (Event.Routine host.controller) bus bus.attachAdapter :=
        note_adapter_grows .high
      exact (attached.trans (transact_grows result)).mono fun _ => .inl

end Host

end SerialBus
