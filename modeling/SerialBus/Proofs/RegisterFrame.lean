import SerialBus.Proofs.Backend
import SerialBus.Proofs.Growth

/-!
# Which registers are touched

A call writes the control, mode and transmit registers of its backend and reads the mode
register, where the backend does, and those that report status and received units.  Apart
from them there are the settings slots of the standard controller, and of these only the
slots of devices that the call configures (`Backend.MayWrite`, `Backend.MayRead`,
`Host.call_within`).

Registers laid over memory are words at some distance from a base address, no two at the
same (`Backend.place_injective`).  So after a run each word is the last value written to
its register, and the words of all other registers are as they were, and so are those of
none (`registers_framed`).
-/

set_option autoImplicit false

namespace SerialBus

variable {ρ σ κ : Type}

/-! ## The registers of a backend -/

/-- A device was configured by one of some deeds. -/
def Past.Configured (deeds : List Deed) (device : Device) : Prop :=
  ∃ mode baudHz, .configure device mode baudHz ∈ deeds

theorem Past.Configured.mono {deeds more : List Deed} (included : deeds ⊆ more) {device : Device}
    (configured : Configured deeds device) : Configured more device := by
  obtain ⟨mode, baudHz, member⟩ := configured
  exact ⟨mode, baudHz, included member⟩

namespace Backend

/-- The registers that may be written while some devices are configured. -/
def MayWrite : (backend : Backend) → (configures : Device → Prop) → backend.Register → Prop
  | .standard, _, .control | .standard, _, .mode | .standard, _, .transmit => True
  | .standard, _, .receive | .standard, _, .status => False
  | .standard, configures, .settings slot =>
      ∃ device, configures device ∧ slot.val = device.id.toNat % 4
  | .usart, _, .control | .usart, _, .mode | .usart, _, .interruptDisable
  | .usart, _, .baudRate | .usart, _, .transmit => True
  | .usart, _, .status | .usart, _, .receive => False

/-- The registers that may be read. -/
def MayRead : (backend : Backend) → backend.Register → Prop
  | .standard, .mode | .standard, .settings _ | .standard, .status | .standard, .receive => True
  | .standard, .control | .standard, .transmit => False
  | .usart, .status | .usart, .receive => True
  | .usart, .control | .usart, .mode | .usart, .interruptDisable | .usart, .baudRate
  | .usart, .transmit => False

variable {backend : Backend} {configures others : Device → Prop}

theorem MayWrite.mono (included : ∀ device, configures device → others device)
    {register : backend.Register} (may : backend.MayWrite configures register) :
    backend.MayWrite others register := by
  cases backend with
  | standard =>
      cases register with
      | settings slot =>
          obtain ⟨device, configured, same⟩ := may
          exact ⟨device, included device configured, same⟩
      | _ => exact may
  | usart => cases register <;> exact may

theorem mayWrite_transmit : backend.MayWrite configures backend.controller.transmit := by
  cases backend <;> exact trivial

theorem mayRead_status : backend.MayRead backend.controller.status := by
  cases backend <;> exact trivial

theorem mayRead_receive : backend.MayRead backend.controller.receive := by
  cases backend <;> exact trivial

end Backend

/-- An event that touches no other register than those of a backend that it may. -/
def Event.Within (backend : Backend) (configures : Device → Prop) : Event backend.Register → Prop
  | .read register _ => backend.MayRead register
  | .write register _ => backend.MayWrite configures register
  | _ => True

/-- An access that touches no other register than those of a backend that it may. -/
def Access.Within (backend : Backend) (configures : Device → Prop) :
    Access backend.Register → Prop
  | .enable => True
  | .write register _ => backend.MayWrite configures register
  | .modify register _ => backend.MayRead register ∧ backend.MayWrite configures register

section Within

variable {backend : Backend} {configures others : Device → Prop}

theorem Event.Within.mono (included : ∀ device, configures device → others device)
    {event : Event backend.Register} (within : event.Within backend configures) :
    event.Within backend others := by
  cases event with
  | write register value => exact Backend.MayWrite.mono included within
  | _ => exact within

theorem Event.Routine.within {event : Event backend.Register}
    (routine : event.Routine backend.controller) : event.Within backend configures := by
  cases routine with
  | poll => exact Backend.mayRead_status
  | send => exact Backend.mayWrite_transmit
  | take => exact Backend.mayRead_receive
  | _ => exact trivial

theorem Access.Within.events {access : Access backend.Register}
    (within : access.Within backend configures) {hardware : Hardware backend.Register σ} {state : σ}
    {event : Event backend.Register} (member : event ∈ hardware.eventsOf state access) :
    event.Within backend configures := by
  cases access with
  | enable =>
      rw [List.mem_singleton.1 member]
      exact trivial
  | write register value =>
      rw [List.mem_singleton.1 member]
      exact within
  | modify register change =>
      rcases List.mem_cons.1 member with rfl | member
      · exact within.1
      · rw [List.mem_singleton.1 member]
        exact within.2

end Within

/-! ## What calls touch -/

section Calls

variable {backend : Backend} {host : Host backend.Register σ κ}
  {bus after : Bus backend.Register σ κ}

/-- The scripts that a backend runs for a deed touch what they may. -/
theorem Deed.Makes.within (drives : host.controller = backend.controller) {deed : Deed}
    {access : Access backend.Register} (makes : deed.Makes host access) :
    access.Within backend (Past.Configured [deed]) := by
  cases deed with
  | bringUp =>
      rw [Deed.Makes, drives] at makes
      revert makes access
      cases backend with
      | standard => simp [Backend.controller, Standard.controller, Standard.bringUp, Access.Within,
          Backend.MayRead, Backend.MayWrite]
      | usart => simp [Backend.controller, Usart.controller, Usart.bringUp, Access.Within,
          Backend.MayWrite]
  | configure device mode baudHz =>
      obtain ⟨divisor, member⟩ := makes
      rw [drives] at member
      revert member access
      have configured : Past.Configured [.configure device mode baudHz] device :=
        ⟨mode, baudHz, List.mem_singleton_self _⟩
      cases backend with
      | standard =>
          have slot : ∃ other, Past.Configured [.configure device mode baudHz] other ∧
              (Standard.slotOf device.id).val = other.id.toNat % 4 := ⟨device, configured, rfl⟩
          simp [Backend.controller, Standard.controller, Standard.configure, Access.Within,
            Backend.MayRead, Backend.MayWrite, slot]
      | usart => simp [Backend.controller, Usart.controller, Usart.configure, Access.Within,
          Backend.MayWrite]
  | select device =>
      rw [Deed.Makes, drives] at makes
      revert makes access
      cases backend with
      | standard => simp [Backend.controller, Standard.controller, Standard.select, Access.Within,
          Backend.MayRead, Backend.MayWrite]
      | usart => simp [Backend.controller, Usart.controller]
  | release device =>
      rw [Deed.Makes, drives] at makes
      revert makes access
      cases backend with
      | standard => simp [Backend.controller, Standard.controller, Standard.finish, Access.Within,
          Backend.MayRead, Backend.MayWrite]
      | usart => simp [Backend.controller, Usart.controller]
  | fault => exact makes.elim

theorem Deed.Adds.within (drives : host.controller = backend.controller) {deed : Deed}
    {event : Event backend.Register} (adds : deed.Adds host event) :
    event.Within backend (Past.Configured [deed]) := by
  cases adds with
  | access makes member => exact (makes.within drives).events member
  | drive drives shows => exact trivial

/-- **A call touches the registers that it may and no others.** -/
theorem Host.call_within (drives : host.controller = backend.controller) {call : Call}
    {reply : Reply} (answered : host.call bus call = some (reply, after)) :
    host.Grows (fun event => event.Within backend (Past.Configured (call.deeds reply))) bus
      after := by
  refine (call_grows answered).mono fun event added => ?_
  rcases added with routine | ⟨deed, done, adds⟩
  · exact (drives ▸ routine).within
  · refine (adds.within drives).mono fun device configured => ?_
    exact configured.mono fun _ member => List.mem_singleton.1 member ▸ done

/-- On hardware that does not change by itself, so does a run. -/
theorem Host.Reaches.within (drives : host.controller = backend.controller)
    {start : Bus backend.Register σ κ} {log : List (Answered backend.Register σ κ)}
    (reached : host.Reaches (fun old new => new = old) start log bus) :
    host.Grows (fun event => event.Within backend (Past.Configured (pastOf log))) start bus := by
  induction reached with
  | start => exact .refl
  | drift _ still ih => exact still ▸ ih
  | @call log bus after call reply _ answered ih =>
      have added := call_within drives answered
      rw [pastOf_cons]
      refine (ih.mono ?_).trans (added.mono ?_)
      · exact fun event within => within.mono fun device configured =>
          configured.mono (List.subset_append_right _ _)
      · exact fun event within => within.mono fun device configured =>
          configured.mono fun deed done => List.mem_append_left _ (List.mem_reverse.2 done)

end Calls

/-! ## Words of memory -/

/-- The values written to a register, in order. -/
def Trace.written [DecidableEq ρ] (register : ρ) (events : List (Event ρ)) : List UInt32 :=
  events.filterMap fun
    | .write other value => if other = register then some value else none
    | _ => none

/-- The position of a register among the words from the first register on. -/
def Controller.place (controller : Controller ρ) (register : ρ) : Nat :=
  (controller.offset register).toNat / 4

namespace Memory

variable {controller : Controller ρ} {base : UInt64} {memory : Memory} {words : List UInt32}
  {events : List (Event ρ)} {register : ρ}

/-- Words in which that of a register is replaced if an event writes the register. -/
def overwrite (controller : Controller ρ) (words : List UInt32) : Event ρ → List UInt32
  | .write register value => words.set (controller.place register) value
  | _ => words

theorem index_register (starts : memory.base = base) (register : ρ) :
    memory.index (base + controller.offset register) = controller.place register := by
  rw [index, starts, UInt64.add_comm, UInt64.add_sub_cancel]
  rfl

/-- Registers over memory keep in its words what is written to them. -/
theorem replay_registers (starts : memory.base = base) :
    (registers controller base).replay events memory =
      { memory with words := events.foldl (overwrite controller) memory.words } := by
  induction events generalizing memory with
  | nil => rfl
  | cons event events ih =>
      have undergone : (registers controller base).undergo memory event =
          { memory with words := overwrite controller memory.words event } := by
        cases event with
        | write register value =>
            change memory.store (base + controller.offset register) value = _
            rw [store, index_register starts]
            rfl
        | _ => rfl
      change (registers controller base).replay events
        ((registers controller base).undergo memory event) = _
      rw [undergone]
      exact ih starts

/-- A word that no write goes to is kept. -/
theorem getElem?_foldl_of_spared {index : Nat}
    (spared : ∀ register value, .write register value ∈ events →
      controller.place register ≠ index) :
    (events.foldl (overwrite controller) words)[index]? = words[index]? := by
  induction events generalizing words with
  | nil => rfl
  | cons event events ih =>
      have later := fun register value member =>
        spared register value (List.mem_cons_of_mem _ member)
      refine (ih later).trans ?_
      cases event with
      | write register value =>
          exact List.getElem?_set_ne (spared register value List.mem_cons_self)
      | _ => rfl

/-- The word of a register holds the last value written to it. -/
theorem getElem?_foldl_place [DecidableEq ρ] (injective : Function.Injective controller.place)
    (inside : controller.place register < words.length) :
    (events.foldl (overwrite controller) words)[controller.place register]? =
      (Trace.written register events).getLast?.or words[controller.place register]? := by
  induction events generalizing words with
  | nil => rfl
  | cons event events ih =>
      rw [List.foldl_cons]
      cases event with
      | write other value =>
          rw [overwrite, ih (by rwa [List.length_set])]
          by_cases same : other = register
          · subst same
            simp [Trace.written, inside, List.getLast?_cons]
          · rw [List.getElem?_set_ne fun clash => same (injective clash)]
            simp [Trace.written, same]
      | _ => exact ih inside

end Memory

namespace Backend

/-- The number of words from the first register of a backend to the last. -/
def span : Backend → Nat
  | .standard => 16
  | .usart => 9

/-- The register at a position, if there is one; a register is found at its own. -/
def registerAt : (backend : Backend) → Nat → backend.Register
  | .standard, 0 => .control
  | .standard, 1 => .mode
  | .standard, 2 => .receive
  | .standard, 3 => .transmit
  | .standard, 4 => .status
  | .standard, position => .settings (Fin.ofNat 4 position)
  | .usart, 0 => .control
  | .usart, 1 => .mode
  | .usart, 3 => .interruptDisable
  | .usart, 5 => .status
  | .usart, 6 => .receive
  | .usart, 7 => .transmit
  | .usart, _ => .baudRate

theorem registerAt_place (backend : Backend) (register : backend.Register) :
    backend.registerAt (backend.controller.place register) = register := by
  cases backend with
  | standard =>
      cases register with
      | settings slot => revert slot; decide
      | _ => rfl
  | usart => cases register <;> rfl

/-- No two registers share a word. -/
theorem place_injective (backend : Backend) : Function.Injective backend.controller.place :=
  Function.LeftInverse.injective backend.registerAt_place

theorem place_lt_span (backend : Backend) (register : backend.Register) :
    backend.controller.place register < backend.span := by
  cases backend with
  | standard =>
      cases register with
      | settings slot => revert slot; decide
      | _ => decide
  | usart => cases register <;> decide

theorem toNat_offset (backend : Backend) (register : backend.Register) :
    (backend.controller.offset register).toNat = 4 * backend.controller.place register := by
  cases backend with
  | standard =>
      cases register with
      | settings slot => revert slot; decide
      | _ => rfl
  | usart => cases register <;> rfl

/-- Registers that fit below the end of the addresses are found one word apart. -/
theorem toNat_address {backend : Backend} {base : UInt64}
    (fits : base.toNat + 4 * backend.span ≤ UInt64.size) (register : backend.Register) :
    (base + backend.controller.offset register).toNat =
      base.toNat + 4 * backend.controller.place register := by
  have inside := backend.place_lt_span register
  rw [UInt64.toNat_add, backend.toNat_offset]
  exact Nat.mod_eq_of_lt (Nat.lt_of_lt_of_le (by omega) fits)

theorem not_mem_of_within {backend : Backend} {configures : Device → Prop}
    {events : List (Event backend.Register)}
    (within : ∀ event ∈ events, event.Within backend configures) {register : backend.Register}
    (spared : ¬ backend.MayWrite configures register) (value : UInt32) :
    .write register value ∉ events :=
  fun member => spared (within _ member)

end Backend

/-! ## Registers over memory -/

section Framed

variable {backend : Backend} {host : Host backend.Register Memory κ}
  {base : UInt64} {memory : Memory} {lines : κ} {log : List (Answered backend.Register Memory κ)}
  {bus : Bus backend.Register Memory κ}

theorem Host.Reaches.words (drives : host.controller = backend.controller)
    (mapped : host.hardware = Memory.registers backend.controller base)
    (starts : memory.base = base)
    (reached : host.Reaches (fun old new => new = old) (.fresh memory lines) log bus) :
    bus.hardware = { memory with
      words := bus.trace.foldl (Memory.overwrite backend.controller) memory.words } := by
  obtain ⟨events, trace, hardware, _⟩ := reached.within drives
  obtain rfl : bus.trace = events := trace
  rw [hardware, mapped]
  exact Memory.replay_registers starts

theorem Host.Reaches.trace_within (drives : host.controller = backend.controller)
    (reached : host.Reaches (fun old new => new = old) (.fresh memory lines) log bus) :
    ∀ event ∈ bus.trace, event.Within backend (Past.Configured (pastOf log)) := by
  obtain ⟨events, trace, _, within⟩ := reached.within drives
  obtain rfl : bus.trace = events := trace
  exact within

end Framed

/-- **No register is touched but those that a call is about.**  On any hardware, a call
writes and reads what its backend may, and a settings slot is written only by a call that
configures a device, and only the slot of that device.

Over memory, with the registers laid out from a base address on, each register is the word
at its own distance from that address.  After any run that word is the last value written
to the register, if there is one; the words of the registers that only report something,
and of the slots of devices that were never configured, are as they were before the run,
and so are the words of no register. -/
theorem registers_framed (backend : Backend) :
    (∀ {σ κ : Type} (host : Host backend.Register σ κ), host.controller = backend.controller →
      ∀ bus call reply after, host.call bus call = some (reply, after) →
        ∃ events, after.trace = bus.trace ++ events ∧
          ∀ event ∈ events, event.Within backend (Past.Configured (call.deeds reply))) ∧
    ∀ {κ : Type} (host : Host backend.Register Memory κ) (memory : Memory),
      host.controller = backend.controller →
      host.hardware = Memory.registers backend.controller memory.base →
      backend.span ≤ memory.words.length → memory.base.toNat + 4 * backend.span ≤ UInt64.size →
      ∀ lines log bus, host.Reaches (fun old new => new = old) (.fresh memory lines) log bus →
        (∀ register, backend.controller.place register < backend.span ∧
          (memory.base + backend.controller.offset register).toNat =
            memory.base.toNat + 4 * backend.controller.place register) ∧
        (∀ register, bus.hardware.words[backend.controller.place register]? =
          (Trace.written register bus.trace).getLast?.or
            memory.words[backend.controller.place register]?) ∧
        (∀ register, ¬ backend.MayWrite (Past.Configured (pastOf log)) register →
          bus.hardware.words[backend.controller.place register]? =
            memory.words[backend.controller.place register]?) ∧
        ∀ index, (∀ register, backend.controller.place register ≠ index) →
          bus.hardware.words[index]? = memory.words[index]? := by
  constructor
  · intro σ κ host drives bus call reply after answered
    obtain ⟨events, trace, _, within⟩ := Host.call_within drives answered
    exact ⟨events, trace, within⟩
  · intro κ host memory drives mapped holds fits lines log bus reached
    rw [reached.words drives mapped rfl]
    refine ⟨fun register => ⟨backend.place_lt_span register, Backend.toNat_address fits register⟩,
      fun register => ?_, fun register spared => ?_, fun index unmapped => ?_⟩
    · exact Memory.getElem?_foldl_place backend.place_injective
        (Nat.lt_of_lt_of_le (backend.place_lt_span register) holds)
    · apply Memory.getElem?_foldl_of_spared
      intro other value member clash
      obtain rfl := backend.place_injective clash
      exact Backend.not_mem_of_within (reached.trace_within drives) spared value member
    · exact Memory.getElem?_foldl_of_spared fun register _ _ => unmapped register

/-- A host on a standard controller whose registers are words of memory. -/
def Host.mapped : Host Backend.standard.Register Memory Unit where
  controller := Backend.standard.controller
  hardware := Memory.registers Backend.standard.controller 0x40008000
  lines := .recorded

/-- Words in which the status register reports everything. -/
def Memory.reporting : Memory where
  base := 0x40008000
  words := [0x55, 0x55, 0x55, 0x55, 0x203, 0x55, 0x55, 0x55, 0x55, 0x55, 0x55, 0x55, 0x55, 0x55,
    0x55, 0x55]

/-- The bus of that host over those words. -/
def Bus.reporting : Bus Backend.standard.Register Memory Unit :=
  .fresh .reporting ()

/-- A device is configured in the slot after next, and a unit is sent.  The receive register,
the first slot and the word after the status register are as they were. -/
theorem registers_framed_mapped :
    ∃ log bus after reply events,
      Host.mapped.Reaches (fun old new => new = old) .reporting log bus ∧
      Host.mapped.call bus (.transmit .eight [7]) = some (reply, after) ∧
      after.trace = bus.trace ++ events ∧
      (∀ event ∈ events, event.Within .standard (Past.Configured [])) ∧
      after.hardware.words[3]? = some 0x1000007 ∧ after.hardware.words[2]? = some 0x55 ∧
      after.hardware.words[12]? = some 0x55 ∧ after.hardware.words[5]? = some 0x55 := by
  let turns : List (Turn Memory) :=
    [.call (.bringUp 8), .call (.configure ⟨6, 1, .eight⟩ (.ofBits 0) 1000000)]
  have configured : (Host.mapped.turns .reporting turns).map (fun log =>
      pastOf (answers turns log)) =
        some [.configure ⟨6, 1, .eight⟩ (.ofBits 0) 1000000, .bringUp] := rfl
  have sends : (Host.mapped.turns .reporting turns).map (fun log =>
      (Host.mapped.call (Bus.reporting.afterRun log) (.transmit .eight [7])).map fun answer =>
        (answer.1.failure?, Trace.written .transmit answer.2.trace)) =
      some (some (none, [0x1000007])) := rfl
  obtain ⟨log, ran, past⟩ := Option.map_eq_some_iff.1 configured
  rw [ran, Option.map_some] at sends
  obtain ⟨⟨reply, after⟩, answered, told⟩ := Option.map_eq_some_iff.1 (Option.some.inj sends)
  obtain ⟨succeeded, written⟩ := Prod.mk.inj told
  have reached : Host.mapped.Reaches (fun old new => new = old) .reporting (answers turns log ++ [])
      (Bus.reporting.afterRun log) := Host.reaches_of_turns .start (by simp [turns]) ran
  obtain ⟨calls, runs⟩ := registers_framed .standard
  obtain ⟨events, trace, within⟩ := calls Host.mapped rfl _ _ _ _ answered
  have noFault : (Call.transmit .eight [7]).deeds reply = [] := by
    simp [Call.deeds, succeeded, faults]
  rw [noFault] at within
  obtain ⟨_, last, kept, reserved⟩ :=
    runs Host.mapped .reporting rfl rfl (by decide) (by decide) _ _ _ (reached.call answered)
  have firstSlot : ¬ Backend.standard.MayWrite (Past.Configured (pastOf
      (⟨.transmit .eight [7], reply, after⟩ :: (answers turns log ++ [])))) (.settings 0) := by
    rw [pastOf_cons, noFault, List.append_nil, past]
    simp [Backend.MayWrite, Past.Configured]
  have sent := last .transmit
  rw [written] at sent
  refine ⟨_, _, after, reply, events, reached, answered, trace, within, sent, kept .receive id,
    kept (.settings 0) firstSlot, reserved 5 ?_⟩
  intro register
  cases register with
  | settings slot => revert slot; decide
  | _ => decide

end SerialBus
