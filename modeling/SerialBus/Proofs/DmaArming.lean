import SerialBus.Proofs.Backend
import SerialBus.Proofs.Runs

/-!
# What a DMA engine is told

A request for a DMA transfer is refused and does nothing, or it tells the engine five
things in a row: to be on, to switch a channel off, how the channel is paced, what it is
to move, and to switch the channel on.  Which settings and which descriptor a request
stands for can be said without the host (`Dma.Request.arming?`), and the host gives the
engine these commands and no others (`Host.call_dma`).

What a channel knows is what it was told since it was last switched off (`Dma.Channel`).
Commands of different requests never mix, so a channel that is switched on always knows
the settings and the descriptor of one request, and nothing older (`dma_arms_exactly`).
The descriptor names the buffer of its request by its address, counts the bytes that were
asked for and keeps the addresses that the engine goes to inside the buffer
(`Dma.Descriptor.Inside`).
-/

set_option autoImplicit false

namespace SerialBus

namespace Dma

/-! ## Descriptors -/

/-- How many bytes an end of a transfer has. -/
def Endpoint.size : Endpoint → Nat
  | .buffer _ size => size
  | .filler _ _ | .register _ => 1

/-- One of the bytes of an end of a transfer lies at an address. -/
def Endpoint.Covers (endpoint : Endpoint) (address : UInt64) : Prop :=
  endpoint.address.toNat ≤ address.toNat ∧
    address.toNat < endpoint.address.toNat + endpoint.size

/-- The address that a stride has come to after a number of bytes. -/
def Stride.advance : Stride → (start : UInt64) → (moved : Nat) → UInt64
  | .incrementing, start, moved => start + UInt64.ofNat moved
  | .fixed, start, _ => start

namespace Descriptor

variable (descriptor : Descriptor)

/-- The end of a transfer that lies in memory. -/
def memory : Endpoint :=
  match descriptor.direction with
  | .memoryToPeripheral => descriptor.source
  | .peripheralToMemory => descriptor.destination

/-- With every byte that it moves, the engine goes to addresses inside both ends. -/
def Inside : Prop :=
  ∀ moved < descriptor.count.toNat,
    descriptor.source.Covers
      (descriptor.sourceStride.advance descriptor.source.address moved) ∧
    descriptor.destination.Covers
      (descriptor.destinationStride.advance descriptor.destination.address moved)

end Descriptor

/-- A stride that stays where it is stays inside anything with a byte. -/
theorem Endpoint.covers_fixed (endpoint : Endpoint) (bytes : 0 < endpoint.size) (moved : Nat) :
    endpoint.Covers (Stride.fixed.advance endpoint.address moved) :=
  ⟨Nat.le_refl _, Nat.lt_add_of_pos_right bytes⟩

/-- A stride that goes through a buffer stays inside, because addresses do not start over
before its end. -/
theorem Buffer.covers_incrementing (buffer : Buffer) {moved : Nat}
    (early : moved < buffer.bytes.length) :
    buffer.endpoint.Covers (Stride.incrementing.advance buffer.endpoint.address moved) := by
  have fits : buffer.address.toNat + buffer.bytes.length ≤ 2 ^ 64 := buffer.fits
  have sum : (buffer.address + UInt64.ofNat moved).toNat = buffer.address.toNat + moved := by
    rw [UInt64.toNat_add, UInt64.toNat_ofNat']
    omega
  change _ ≤ (buffer.address + UInt64.ofNat moved).toNat ∧
    (buffer.address + UInt64.ofNat moved).toNat < buffer.address.toNat + buffer.bytes.length
  rw [sum]
  exact ⟨Nat.le_add_right _ _, Nat.add_lt_add_left early _⟩

/-- What a channel is given before it is switched on. -/
structure Arming where
  channel : UInt8
  settings : Settings
  descriptor : Descriptor

namespace Arming

variable (arming : Arming)

/-- The commands that come before the channel is switched on. -/
def preparation : List Command :=
  [.enable, .disableChannel arming.channel, .configureChannel arming.channel arming.settings,
    .load arming.channel arming.descriptor]

/-- The commands that arm a channel. -/
def commands : List Command :=
  arming.preparation ++ [.enableChannel arming.channel]

end Arming

/-! ## Requests -/

/-- Something that a caller asks of the DMA engine of a bus. -/
inductive Request where
  | prepare
  | transmit (channel : UInt8) (buffer : Option Buffer) (length : Nat)
  | receive (channel : UInt8) (buffer : Buffer) (length : Nat)

namespace Request

/-- The call that makes a request. -/
def call : Request → Call
  | .prepare => .prepareDma
  | .transmit channel buffer length => .transmitByDma channel buffer length
  | .receive channel buffer length => .receiveByDma channel buffer length

/-- The number of bytes asked for. -/
def length : Request → Nat
  | .prepare => 0
  | .transmit _ _ length | .receive _ _ length => length

/-- The buffer of a request, if it has one. -/
def buffer? : Request → Option Buffer
  | .prepare => none
  | .transmit _ buffer _ => buffer
  | .receive _ buffer _ => some buffer

/-- The failure of a request: it is too long for a descriptor, or else longer than its
buffer. -/
def failure? (request : Request) : Option Failure :=
  if 65535 < request.length then some (.transferTooLong request.length)
  else match request.buffer? with
    | none => none
    | some buffer =>
        if buffer.bytes.length < request.length
          then some (.bufferTooShort request.length buffer.bytes.length)
          else none

def outcome (request : Request) : Outcome :=
  match request.failure? with
  | none => .ok ()
  | some failure => .error failure

/-- What a request arms, on a standard controller at a base address: a transmission moves
bytes from the buffer, or the filler again and again from where it lies, to the transmit
register, which paces it; a reception moves bytes from the receive register, which paces
it, to the buffer. -/
def arming? (filler base : UInt64) : Request → Option Arming
  | .prepare => none
  | .transmit channel buffer length => some
      { channel
        settings := ⟨.destination 1, .largestBurst, true⟩
        descriptor :=
          { source := match buffer with
              | none => .filler filler 0xFF
              | some buffer => .buffer buffer.address buffer.bytes.length
            sourceStride := match buffer with
              | none => .fixed
              | some _ => .incrementing
            destination := .register (base + 0x0C)
            destinationStride := .fixed
            count := UInt16.ofNat length
            direction := .memoryToPeripheral } }
  | .receive channel buffer length => some
      { channel
        settings := ⟨.source 2, .asSoonAsPossible, true⟩
        descriptor :=
          { source := .register (base + 0x08)
            sourceStride := .fixed
            destination := .buffer buffer.address buffer.bytes.length
            destinationStride := .incrementing
            count := UInt16.ofNat length
            direction := .peripheralToMemory } }

/-- The reads of a request that is not refused: a reception reads the status register
once. -/
def reads (status : UInt32) : Request → List (Event Backend.standard.Register)
  | .receive _ _ _ => [.read .status status]
  | _ => []

/-- The commands of a request that is not refused. -/
def commands (filler base : UInt64) (request : Request) : List Command :=
  match request.arming? filler base with
  | none => [.disable, .fixedPriority, .enable]
  | some arming => arming.commands

/-- What a request leaves in the trace, if the status register reads as a value. -/
def events (filler base : UInt64) (status : UInt32) (request : Request) :
    List (Event Backend.standard.Register) :=
  match request.failure? with
  | none => request.reads status ++ (request.commands filler base).map .dma
  | some _ => []

variable {request : Request} {filler base : UInt64} {arming : Arming}

/-- The host refuses what the request says it does. -/
theorem refusal_eq (request : Request) :
    Dma.refusal request.buffer? request.length = request.failure? := by
  rw [Dma.refusal, failure?, Dma.maxLength]
  cases request.buffer? with
  | none => rfl
  | some buffer => rfl

theorem length_le_of_failure? (fine : request.failure? = none) : request.length ≤ 65535 := by
  unfold failure? at fine
  split at fine
  · cases fine
  next short => exact Nat.not_lt.1 short

theorem length_le_buffer (fine : request.failure? = none) {buffer : Buffer}
    (given : request.buffer? = some buffer) : request.length ≤ buffer.bytes.length := by
  unfold failure? at fine
  rw [given] at fine
  split at fine
  · cases fine
  · dsimp only at fine
    split at fine
    · cases fine
    next enough => exact Nat.not_lt.1 enough

/-- A descriptor counts the bytes that were asked for. -/
theorem count_eq (fine : request.failure? = none)
    (armed : request.arming? filler base = some arming) :
    arming.descriptor.count.toNat = request.length := by
  have fits : request.length < 2 ^ 16 := Nat.lt_succ_of_le (length_le_of_failure? fine)
  cases request with
  | prepare => cases armed
  | transmit channel buffer length =>
      cases armed
      exact Nat.mod_eq_of_lt fits
  | receive channel buffer length =>
      cases armed
      exact Nat.mod_eq_of_lt fits

/-- The end of a transfer that lies in memory is the buffer of the request. -/
theorem memory_eq (armed : request.arming? filler base = some arming) {buffer : Buffer}
    (given : request.buffer? = some buffer) : arming.descriptor.memory = buffer.endpoint := by
  cases request with
  | prepare => cases armed
  | transmit channel other length =>
      obtain rfl : other = some buffer := given
      cases armed
      rfl
  | receive channel other length =>
      obtain rfl := Option.some.inj given
      cases armed
      rfl

/-- A descriptor keeps the engine inside the buffer. -/
theorem inside (fine : request.failure? = none)
    (armed : request.arming? filler base = some arming) : arming.descriptor.Inside := by
  intro moved early
  rw [count_eq fine armed] at early
  cases request with
  | prepare => cases armed
  | transmit channel buffer length =>
      cases armed
      refine ⟨?_, Endpoint.covers_fixed (.register _) Nat.one_pos moved⟩
      cases buffer with
      | none => exact Endpoint.covers_fixed (.filler filler 0xFF) Nat.one_pos moved
      | some buffer =>
          exact buffer.covers_incrementing (Nat.lt_of_lt_of_le early (length_le_buffer fine rfl))
  | receive channel buffer length =>
      cases armed
      refine ⟨Endpoint.covers_fixed (.register _) Nat.one_pos moved, ?_⟩
      exact buffer.covers_incrementing (Nat.lt_of_lt_of_le early (length_le_buffer fine rfl))

end Request

/-! ## Channels -/

/-- What a channel was told since it was last switched off, and whether it is on. -/
structure Channel where
  settings : Option Settings
  descriptor : Option Descriptor
  on : Bool

namespace Channel

variable {ρ : Type}

/-- A channel with a number after a command to the engine. -/
def undergo (number : UInt8) (channel : Channel) : Command → Channel
  | .disableChannel other => if other = number then ⟨none, none, false⟩ else channel
  | .configureChannel other settings =>
      if other = number then { channel with settings := some settings } else channel
  | .load other descriptor =>
      if other = number then { channel with descriptor := some descriptor } else channel
  | .enableChannel other => if other = number then { channel with on := true } else channel
  | _ => channel

/-- A channel with a number after a trace. -/
def after (number : UInt8) (events : List (Event ρ)) (channel : Channel) : Channel :=
  events.foldl (fun channel event =>
    match event with
    | .dma command => channel.undergo number command
    | _ => channel) channel

/-- A channel that was just prepared knows what it was given, is off, and knows nothing
older. -/
theorem after_preparation (channel : Channel) (arming : Arming) (earlier : List (Event ρ)) :
    channel.after arming.channel (earlier ++ arming.preparation.map .dma) =
      ⟨some arming.settings, some arming.descriptor, false⟩ := by
  rw [after, List.foldl_append]
  simp [Arming.preparation, undergo]

end Channel

end Dma

/-! ## What is told -/

/-- A list that ends with an element differs from one that contains another only behind
the first occurrence of the latter. -/
theorem split_before_last {α : Type} {front before later : List α} {last mark : α}
    (absent : mark ∉ front) (split : front ++ [last] = before ++ mark :: later) :
    before = front ∧ mark = last := by
  rcases List.eq_nil_or_concat later with rfl | ⟨later, final, rfl⟩
  · obtain ⟨same, ends⟩ := List.append_inj' split rfl
    exact ⟨same.symm, (List.singleton_inj.1 ends).symm⟩
  · rw [List.concat_eq_append, ← List.cons_append, ← List.append_assoc] at split
    have same := (List.append_inj' split rfl).1
    exact absurd (same ▸ List.mem_append_right before List.mem_cons_self) absent

namespace Dma.Request

variable {request : Request} {filler base : UInt64} {status : UInt32} {channel : UInt8}
  {before later : List (Event Backend.standard.Register)}

/-- Reading switches no channel on. -/
theorem not_mem_reads (request : Request) (status : UInt32) (command : Command) :
    .dma command ∉ request.reads status := by
  cases request with
  | prepare => exact List.not_mem_nil
  | transmit => exact List.not_mem_nil
  | receive =>
      intro member
      cases List.mem_singleton.1 member

/-- Where a request switches a channel on, it has just prepared it. -/
theorem prepared_of_enabled
    (split : request.events filler base status = before ++ .dma (.enableChannel channel) :: later) :
    request.failure? = none ∧ ∃ arming ∈ request.arming? filler base,
      arming.channel = channel ∧ ∃ earlier, before = earlier ++ arming.preparation.map .dma := by
  unfold events at split
  split at split
  next fine =>
    refine ⟨fine, ?_⟩
    unfold commands at split
    cases armed : request.arming? filler base with
    | none =>
        have member := List.mem_append_right before
          (List.mem_cons_self (a := .dma (.enableChannel channel)) (l := later))
        rw [← split, armed] at member
        rcases List.mem_append.1 member with read | command
        · exact absurd read (request.not_mem_reads status _)
        · simp at command
    | some arming =>
        rw [armed] at split
        dsimp only at split
        rw [Arming.commands, List.map_append, ← List.append_assoc] at split
        have absent : .dma (.enableChannel channel) ∉
            request.reads status ++ arming.preparation.map .dma := by
          intro member
          rcases List.mem_append.1 member with read | command
          · exact request.not_mem_reads status _ read
          · simp [Arming.preparation] at command
        obtain ⟨rfl, same⟩ := split_before_last absent split
        cases same
        exact ⟨arming, rfl, rfl, _, rfl⟩
  next => simp at split

/-- Where a row of requests switches a channel on, one of them has just prepared it. -/
theorem prepared_of_enabled_row {requests : List Request} {statuses : List UInt32}
    (split : (List.zipWith (events filler base) statuses requests).flatten =
      before ++ .dma (.enableChannel channel) :: later) :
    ∃ request ∈ requests, request.failure? = none ∧ ∃ arming ∈ request.arming? filler base,
      arming.channel = channel ∧ ∃ earlier, before = earlier ++ arming.preparation.map .dma := by
  induction requests generalizing statuses before with
  | nil => simp at split
  | cons request rest ih =>
      cases statuses with
      | nil => simp at split
      | cons status statuses =>
          rw [List.zipWith_cons_cons, List.flatten_cons] at split
          rcases List.append_eq_append_iff.1 split with
            ⟨between, rfl, further⟩ | ⟨between, here, further⟩
          · obtain ⟨other, member, fine, arming, armed, same, earlier, rfl⟩ := ih further
            exact ⟨other, List.mem_cons_of_mem _ member, fine, arming, armed, same,
              request.events filler base status ++ earlier, by rw [List.append_assoc]⟩
          · cases between with
            | nil =>
                -- nothing of the rest comes before the command, so it was not prepared there
                have here : (List.zipWith (events filler base) statuses rest).flatten =
                    [] ++ .dma (.enableChannel channel) :: later := further.symm
                obtain ⟨_, _, _, arming, _, _, earlier, empty⟩ := ih here
                simp [Arming.preparation] at empty
            | cons first between =>
                obtain ⟨rfl, -⟩ := List.cons.inj further
                exact ⟨request, List.mem_cons_self, prepared_of_enabled here⟩

end Dma.Request

/-! ## Calls -/

namespace Host

variable {σ κ : Type} {host : Host Backend.standard.Register σ κ}

variable (drives : host.controller = Backend.standard.controller) {base : UInt64}
  (located : ∀ register state,
    host.hardware.address register state = base + host.controller.offset register)

include located in
/-- A channel is armed by the commands that tell it the address of a register. -/
theorem arm_eq (channel : UInt8) (settings : Dma.Settings)
    (register : Backend.standard.Register) (describe : UInt64 → Dma.Descriptor)
    (bus : Bus Backend.standard.Register σ κ) :
    let arming : Dma.Arming :=
      ⟨channel, settings, describe (base + host.controller.offset register)⟩
    host.arm channel settings register describe bus =
      host.after (arming.commands.map .dma) bus := by
  intro arming
  rw [arm_eq_commandAll, commandAll_eq]
  simp only [located]
  rfl

include drives located

theorem transmitByDma_eq (channel : UInt8) (buffer : Option Dma.Buffer) (length : Nat)
    (status : UInt32) (bus : Bus Backend.standard.Register σ κ) :
    let request := Dma.Request.transmit channel buffer length
    host.transmitByDma Standard.handshakes channel buffer length bus =
      (request.outcome, host.after (request.events host.fillerAddress base status) bus) := by
  intro request
  have refusal : Dma.refusal buffer length = request.failure? := request.refusal_eq
  have offset : host.controller.offset host.controller.transmit = 0x0C := by
    rw [drives]
    rfl
  unfold transmitByDma Dma.Request.outcome Dma.Request.events
  rw [refusal]
  cases request.failure? with
  | some failure => rfl
  | none =>
      dsimp only
      rw [arm_eq located, offset]
      cases buffer with
      | none => rfl
      | some buffer => rfl

theorem receiveByDma_eq (channel : UInt8) (buffer : Dma.Buffer) (length : Nat)
    (bus : Bus Backend.standard.Register σ κ) :
    let request := Dma.Request.receive channel buffer length
    host.receiveByDma Standard.handshakes channel buffer length bus =
      (request.outcome, host.after (request.events host.fillerAddress base
        (host.hardware.read host.controller.status bus.hardware).1) bus) := by
  intro request
  have refusal : Dma.refusal (some buffer) length = request.failure? := request.refusal_eq
  have offset : host.controller.offset host.controller.receive = 0x08 := by
    rw [drives]
    rfl
  unfold receiveByDma Dma.Request.outcome Dma.Request.events
  rw [refusal]
  cases request.failure? with
  | some failure => rfl
  | none =>
      dsimp only
      rw [arm_eq located, offset, clearOverrun, read_eq, after_after, drives]
      rfl

/-- A request is answered by its outcome and leaves its events and nothing else. -/
theorem call_dma (bus : Bus Backend.standard.Register σ κ) (request : Dma.Request) :
    host.call bus request.call =
      some (.outcome request.outcome,
        host.after (request.events host.fillerAddress base
          (host.hardware.read host.controller.status bus.hardware).1) bus) := by
  have paired : host.controller.handshakes = some Standard.handshakes := by
    rw [drives]
    rfl
  cases request with
  | prepare =>
      rw [Dma.Request.call, call, withDma, paired, prepareDma, commandAll_eq]
      rfl
  | transmit channel buffer length =>
      rw [Dma.Request.call, call, withDma, paired]
      dsimp only
      rw [transmitByDma_eq drives located]
  | receive channel buffer length =>
      rw [Dma.Request.call, call, withDma, paired]
      dsimp only
      rw [receiveByDma_eq drives located]

/-- Requests one after the other are answered by their outcomes and leave their events and
nothing else. -/
theorem turns_dma (bus : Bus Backend.standard.Register σ κ) (requests : List Dma.Request) :
    ∃ log statuses,
      host.turns bus (requests.map fun request => .call request.call) = some log ∧
      log.map Prod.fst = requests.map (fun request => some (.outcome request.outcome)) ∧
      statuses.length = requests.length ∧
      bus.afterRun log =
        host.after (List.zipWith (Dma.Request.events host.fillerAddress base)
          statuses requests).flatten bus := by
  induction requests generalizing bus with
  | nil => exact ⟨[], [], rfl, rfl, rfl, rfl⟩
  | cons request rest ih =>
      have called := call_dma drives located bus request
      generalize (host.hardware.read host.controller.status bus.hardware).1 = status at called
      obtain ⟨log, statuses, ran, replies, lengths, ended⟩ :=
        ih (host.after (request.events host.fillerAddress base status) bus)
      have turned : host.turn bus (.call request.call) =
          some (some (.outcome request.outcome),
            host.after (request.events host.fillerAddress base status) bus) := by
        rw [turn, called]
        rfl
      refine ⟨_, status :: statuses, Host.turns_cons turned ran, ?_, ?_, ?_⟩
      · rw [List.map_cons, List.map_cons, replies]
      · rw [List.length_cons, List.length_cons, lengths]
      · rw [Bus.afterRun_cons, ended, after_after]
        rfl

end Host

/-- **Arming a channel is exact, stays inside the buffer and never mixes requests.**  Ask a
bus with a standard controller at a base address for DMA, any number of times, on any
channels and with any buffers and lengths.  Each request is answered: a transfer of more
bytes than a descriptor counts is too long, or else its buffer may be too short for it, or
else it is started.  The requests leave their events in order and nothing else.  The
descriptor of one that is started counts the bytes asked for, is at the address of the
buffer it was asked for with, if there is one, and keeps every address that the engine goes
to inside the buffer.  Whenever a channel is switched on, one request has just told it its
settings and its descriptor, and it knows nothing that it was told before. -/
theorem dma_arms_exactly {σ κ : Type} {host : Host Backend.standard.Register σ κ}
    (drives : host.controller = Backend.standard.controller) {base : UInt64}
    (located : ∀ register state,
      host.hardware.address register state = base + host.controller.offset register)
    (bus : Bus Backend.standard.Register σ κ) (requests : List Dma.Request) :
    ∃ log statuses events,
      host.turns bus (requests.map fun request => .call request.call) = some log ∧
      log.map Prod.fst = requests.map (fun request => some (.outcome request.outcome)) ∧
      statuses.length = requests.length ∧
      events = (List.zipWith (Dma.Request.events host.fillerAddress base)
        statuses requests).flatten ∧
      bus.afterRun log = host.after events bus ∧
      (bus.afterRun log).trace = bus.trace ++ events ∧
      (∀ request ∈ requests, request.failure? = none →
        ∀ arming ∈ request.arming? host.fillerAddress base,
          arming.descriptor.count.toNat = request.length ∧
          (∀ buffer ∈ request.buffer?, arming.descriptor.memory = buffer.endpoint) ∧
          arming.descriptor.Inside) ∧
      ∀ before channel later, events = before ++ .dma (.enableChannel channel) :: later →
        ∃ request ∈ requests, request.failure? = none ∧
          ∃ arming ∈ request.arming? host.fillerAddress base,
            arming.channel = channel ∧
            (∃ earlier, before = earlier ++ arming.preparation.map .dma) ∧
            ∀ initial : Dma.Channel, initial.after channel before =
              ⟨some arming.settings, some arming.descriptor, false⟩ := by
  obtain ⟨log, statuses, ran, replies, lengths, ended⟩ :=
    Host.turns_dma drives located bus requests
  refine ⟨log, statuses, _, ran, replies, lengths, rfl, ended, ?_, ?_, ?_⟩
  · rw [ended, Host.after_trace]
  · intro request _ fine arming armed
    exact ⟨Dma.Request.count_eq fine armed, fun _ given => Dma.Request.memory_eq armed given,
      Dma.Request.inside fine armed⟩
  · intro before channel later split
    obtain ⟨request, member, fine, arming, armed, rfl, earlier, rfl⟩ :=
      Dma.Request.prepared_of_enabled_row split
    exact ⟨request, member, fine, arming, armed, rfl, ⟨earlier, rfl⟩,
      fun initial => initial.after_preparation arming earlier⟩

/-- On registers in memory a transmission without a buffer and one of two bytes are started,
and of two receptions one is too long and the other longer than its buffer.  What is armed
for the two bytes starts at their address and stays inside them. -/
theorem dma_arms_exactly_memory :
    let host : Host Backend.standard.Register Memory Unit :=
      { controller := Backend.standard.controller
        hardware := Memory.registers Backend.standard.controller 0x40088000
        lines := .recorded
        fillerAddress := 0x0042F1C0 }
    let bus : Bus Backend.standard.Register Memory Unit :=
      .fresh ⟨0x40088000, List.replicate 20 0⟩ ()
    let received : Dma.Buffer := ⟨0x20070000, [0, 0], by decide⟩
    let transmitted : Dma.Buffer := ⟨0x20070040, [1, 2], by decide⟩
    let requests : List Dma.Request :=
      [.prepare, .transmit 3 none 65535, .receive 3 received 65536, .receive 3 received 3,
        .transmit 4 (some transmitted) 2]
    (∀ register state, host.hardware.address register state =
      0x40088000 + host.controller.offset register) ∧
    ∃ log events,
      host.turns bus (requests.map fun request => .call request.call) = some log ∧
      log.map Prod.fst =
        [some (.outcome (.ok ())), some (.outcome (.ok ())),
          some (.outcome (.error (.transferTooLong 65536))),
          some (.outcome (.error (.bufferTooShort 3 2))), some (.outcome (.ok ()))] ∧
      (bus.afterRun log).trace = events ∧
      (∀ arming ∈ (Dma.Request.transmit 4 (some transmitted) 2).arming? 0x0042F1C0 0x40088000,
        arming.descriptor.memory.address = 0x20070040 ∧ arming.descriptor.Inside) ∧
      ∀ before channel later, events = before ++ .dma (.enableChannel channel) :: later →
        ∃ request ∈ requests, request.failure? = none ∧
          ∃ arming ∈ request.arming? 0x0042F1C0 0x40088000, arming.channel = channel := by
  intro host bus received transmitted requests
  have located : ∀ register state, host.hardware.address register state =
      0x40088000 + host.controller.offset register := fun _ _ => rfl
  obtain ⟨log, _, events, ran, replies, -, -, -, trace, described, armed⟩ :=
    dma_arms_exactly rfl located bus requests
  refine ⟨located, log, events, ran, replies, trace, ?_, ?_⟩
  · intro arming arms
    have member : .transmit 4 (some transmitted) 2 ∈ requests := by simp [requests]
    obtain ⟨_, memory, inside⟩ := described _ member rfl arming arms
    rw [memory transmitted rfl]
    exact ⟨rfl, inside⟩
  · intro before channel later split
    obtain ⟨request, member, fine, arming, arms, same, -⟩ := armed before channel later split
    exact ⟨request, member, fine, arming, arms, same⟩

end SerialBus
