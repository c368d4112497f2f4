import SerialBus.Proofs.Requests
import SerialBus.Proofs.Runs

/-!
# Units that come back

With its output wired to its input a controller receives what it sends.  Such a loop says
two things of the hardware.  The transmit register and the receive register are one: a unit
that is sent stands in the receive register at once, over whatever was left there, and
stays until it is taken (`Loopback`).  And the flags come in time: each wait of an exchange
sees its condition before the budget of the wait is spent (`Host.KeepsUp`).

An exchange over a loop takes the words that it sends, whatever its feed
(`Loopback.shift_echoes`).  So it does not matter how a list of words is cut into requests:
each of them succeeds and receives its own words, and the units that go out are those of
one request for the whole list, except that every request marks its last unit
(`loopback_round_trip`).
-/

set_option autoImplicit false

namespace SerialBus

variable {σ κ : Type}

/-! ## Loops -/

namespace Backend

/-- One more than the largest unit that a controller shifts. -/
def unitSpan : Backend → Nat
  | .standard => 65536
  | .usart => 256

/-- Two register values carry the same unit: they agree in the bits that are shifted. -/
def SameUnit (backend : Backend) (first second : UInt32) : Prop :=
  first.toNat % backend.unitSpan = second.toNat % backend.unitSpan

variable {backend : Backend} {w : Width}

/-- Values that carry the same unit carry the same word. -/
theorem SameUnit.lowWord_eq (shifts : backend.controller.shifts w) {first second : UInt32}
    (same : backend.SameUnit first second) : w.lowWord first = w.lowWord second := by
  cases w with
  | eight =>
      apply UInt8.toNat_inj.1
      rw [Width.lowWord, Width.lowWord, UInt32.toNat_toUInt8, UInt32.toNat_toUInt8]
      cases backend with
      | standard =>
          simp only [SameUnit, unitSpan] at same
          omega
      | usart => exact same
  | sixteen =>
      apply UInt16.toNat_inj.1
      rw [Width.lowWord, Width.lowWord, UInt32.toNat_toUInt16, UInt32.toNat_toUInt16]
      cases backend with
      | standard => exact same
      | usart => exact absurd shifts (by decide)

/-- The low bits of a value that carries a word, marked or not, are the word. -/
theorem lowWord_of_toNat (backend : Backend) {value : UInt32} {word : w.Word} {last : Prop}
    [Decidable last]
    (carried : value.toNat = (w.toUnit word).toNat + if last then backend.endMark else 0) :
    w.lowWord value = word := by
  have marked : (if last then backend.endMark else 0) % 65536 = 0 := by
    cases backend with
    | standard => split <;> rfl
    | usart => split <;> rfl
  generalize (if last then backend.endMark else 0) = mark at carried marked
  cases w with
  | eight =>
      have unit : (UInt8.toUInt16 word).toNat = UInt8.toNat word := UInt8.toNat_toUInt16 word
      have small := UInt8.toNat_lt word
      apply UInt8.toNat_inj.1
      rw [Width.lowWord, UInt32.toNat_toUInt8, carried, Width.toUnit, unit]
      omega
  | sixteen =>
      have small := UInt16.toNat_lt word
      apply UInt16.toNat_inj.1
      rw [Width.lowWord, UInt32.toNat_toUInt16, carried, Width.toUnit]
      omega

/-- The units of a request carry its words. -/
theorem map_lowWord_of_unitsOf {words : List w.Word} {sent : List UInt32}
    (units : sent.map UInt32.toNat = backend.unitsOf w words) : sent.map w.lowWord = words := by
  have lengths : sent.length = words.length := by
    simpa using congrArg List.length units
  apply List.ext_getElem
  · rw [List.length_map, lengths]
  · intro place inside insideWords
    have insideSent : place < sent.length := by rwa [List.length_map] at inside
    have carried := congrArg (·[place]?) units
    simp only [backend.getElem?_unitsOf (List.getElem?_eq_getElem insideWords),
      List.getElem?_map, List.getElem?_eq_getElem insideSent, Option.map_some,
      Option.some.injEq] at carried
    rw [List.getElem_map, backend.lowWord_of_toNat carried]

end Backend

/-- Hardware whose output is wired to its input.  While it is connected, a unit written to
the transmit register takes the place of what the receive register holds, and neither
polls nor looks at the clock change that. -/
structure Loopback (backend : Backend) (hardware : Hardware backend.Register σ) where
  connected : σ → Prop
  /-- The value in the receive register. -/
  held : σ → UInt32
  send : ∀ value state, connected state →
    connected (hardware.write backend.controller.transmit value state) ∧
      backend.SameUnit (held (hardware.write backend.controller.transmit value state)) value
  take : ∀ state, connected state →
    connected (hardware.read backend.controller.receive state).2 ∧
      backend.SameUnit (hardware.read backend.controller.receive state).1 (held state)
  poll : ∀ state, connected state →
    connected (hardware.read backend.controller.status state).2 ∧
      held (hardware.read backend.controller.status state).2 = held state
  clock : ∀ state, connected state →
    connected (hardware.now state).2 ∧ held (hardware.now state).2 = held state

/-- Waiting leaves what the receive register holds. -/
theorem Loopback.held_waiting {backend : Backend} {hardware : Hardware backend.Register σ}
    (loop : Loopback backend hardware) {events : List (Event backend.Register)}
    (waiting : ∀ event ∈ events, event.Waiting backend.controller) {state : σ}
    (connected : loop.connected state) :
    loop.connected (hardware.replay events state) ∧
      loop.held (hardware.replay events state) = loop.held state := by
  refine hardware.replay_invariant
    (fun later => loop.connected later ∧ loop.held later = loop.held state) ?_ ⟨connected, rfl⟩
  rintro event member later ⟨stillConnected, same⟩
  rcases waiting event member with clock | ⟨value, rfl⟩
  · cases event with
    | clock now =>
        have kept := loop.clock later stillConnected
        exact ⟨kept.1, kept.2.trans same⟩
    | _ => exact clock.elim
  · have kept := loop.poll later stillConnected
    exact ⟨kept.1, kept.2.trans same⟩

/-- What is taken after a unit was sent and waited for is that unit. -/
theorem Loopback.sameUnit {backend : Backend} {hardware : Hardware backend.Register σ}
    (loop : Loopback backend hardware) (value : UInt32)
    {events : List (Event backend.Register)}
    (waiting : ∀ event ∈ events, event.Waiting backend.controller) {state : σ}
    (connected : loop.connected state) :
    let later := hardware.replay events
      (hardware.write backend.controller.transmit value state)
    loop.connected (hardware.read backend.controller.receive later).2 ∧
      backend.SameUnit (hardware.read backend.controller.receive later).1 value := by
  intro later
  have sent := loop.send value state connected
  have waited := loop.held_waiting waiting sent.1
  have taken := loop.take later waited.1
  refine ⟨taken.1, taken.2.trans ?_⟩
  rw [waited.2]
  exact sent.2

namespace Host

variable {ρ : Type} {host : Host ρ σ κ}

/-- Each of the next units finds room and is answered before the wait for it gives up,
whatever is sent. -/
def KeepsUp (host : Host ρ σ κ) : (units : Nat) → Bus ρ σ κ → Prop
  | 0, _ => True
  | units + 1, bus =>
      ∃ ready, host.wait .txReady bus = some (.ok (), ready) ∧
        ∀ value, ∃ answered,
          host.wait .rxReady (host.write host.controller.transmit value ready) =
            some (.ok (), answered) ∧
          KeepsUp host units (host.take answered).2

theorem await_of_wait {condition : Condition} {bus after : Bus ρ σ κ}
    (waited : host.wait condition bus = some (.ok (), after)) :
    host.await condition bus = some (.ok (), after) := by
  rw [await, waited]
  rfl

/-- A unit whose two waits see their conditions is followed by the rest of the exchange. -/
theorem shift_succ_of_waits {w : Width} {β : Type} {feed : Feed w β} {left index : Nat}
    {buffers : β} {bus ready answered : Bus ρ σ κ}
    (room : host.wait .txReady bus = some (.ok (), ready))
    (answer : host.wait .rxReady (host.send (w.toUnit (feed.next index buffers)) (left = 0) ready) =
      some (.ok (), answered)) :
    host.shift feed (left + 1) index buffers bus =
      host.shift feed left (index + 1)
        (feed.store index (w.ofUnit (host.take answered).1) buffers) (host.take answered).2 := by
  rw [shift, await_of_wait room]
  dsimp only
  rw [await_of_wait answer]

end Host

/-! ## Exchanges over a loop -/

section Echo

variable {backend : Backend} {host : Host backend.Register σ κ} {w : Width}

/-- What one unit leaves in the trace of a bus with a loop, and that it comes back. -/
theorem Loopback.unit_comes_back (loop : Loopback backend host.hardware)
    (drives : host.controller = backend.controller) {value : UInt32}
    {bus ready answered : Bus backend.Register σ κ} (connected : loop.connected bus.hardware)
    (room : host.wait .txReady bus = some (.ok (), ready))
    (answer : host.wait .rxReady (host.write host.controller.transmit value ready) =
      some (.ok (), answered)) :
    ∃ before between received,
      Waited backend.controller .txReady (.ok ()) before ∧
      Waited backend.controller .rxReady (.ok ()) between ∧
      host.take answered = (backend.controller.decode received,
        host.after (before ++ .write backend.controller.transmit value ::
          (between ++ [.read backend.controller.receive received])) bus) ∧
      loop.connected (host.take answered).2.hardware ∧ backend.SameUnit received value := by
  obtain ⟨before, roomWaited, rfl⟩ := Host.wait_waited room
  obtain ⟨between, answerWaited, rfl⟩ := Host.wait_waited answer
  rw [drives] at roomWaited answerWaited
  have begun := loop.held_waiting roomWaited.waiting connected
  have passed (received : UInt32) :
      host.after [.read host.controller.receive received] (host.after between
          (host.write host.controller.transmit value (host.after before bus))) =
        host.after (before ++ .write backend.controller.transmit value ::
          (between ++ [.read backend.controller.receive received])) bus := by
    rw [Host.write_eq, Host.after_after, Host.after_after, Host.after_after, drives]
    simp only [List.singleton_append]
  have echoed := loop.sameUnit value answerWaited.waiting begun.1
  rw [← drives] at echoed
  refine ⟨before, between, _, roomWaited, answerWaited, ?_, echoed.1, echoed.2⟩
  rw [← passed, ← drives]
  rfl

/-- Over a loop that keeps up an exchange succeeds, and the words it takes are those that
it sends. -/
theorem Loopback.shift_echoes (loop : Loopback backend host.hardware)
    (drives : host.controller = backend.controller) (shifts : backend.controller.shifts w)
    {β : Type} (feed : Feed w β) (left more index : Nat) (buffers : β)
    {bus : Bus backend.Register σ κ} (connected : loop.connected bus.hardware)
    (keepsUp : host.KeepsUp (left + more) bus) :
    ∃ final events,
      host.shift feed left index buffers bus = some (.ok (), final, host.after events bus) ∧
      loop.connected (host.after events bus).hardware ∧
      host.KeepsUp more (host.after events bus) ∧
      Shifted backend.controller feed left index buffers (.ok ()) final events ∧
      (Trace.taken backend.controller events).map w.lowWord =
        (Trace.sent backend.controller events).map w.lowWord := by
  induction left generalizing index buffers bus with
  | zero =>
      rw [Nat.zero_add] at keepsUp
      exact ⟨buffers, [], rfl, connected, keepsUp, .done, rfl⟩
  | succ left ih =>
      rw [Nat.succ_add] at keepsUp
      obtain ⟨ready, room, answers⟩ := keepsUp
      obtain ⟨answered, answer, keepsUp⟩ := answers
        (host.controller.encode (w.toUnit (feed.next index buffers)) (left = 0))
      obtain ⟨before, between, received, roomWaited, answerWaited, taken, stillConnected, same⟩ :=
        loop.unit_comes_back drives connected room answer
      rw [taken] at stillConnected keepsUp
      obtain ⟨final, rest, exchanged, endConnected, endKeepsUp, shifted, comesBack⟩ :=
        ih (index + 1) (feed.store index (w.ofUnit (backend.controller.decode received)) buffers)
          stillConnected keepsUp
      have joined (unit : UInt32) :
          before ++ .write backend.controller.transmit unit ::
              (between ++ [.read backend.controller.receive received]) ++ rest =
            before ++ .write backend.controller.transmit unit ::
              (between ++ .read backend.controller.receive received :: rest) := by
        simp only [List.append_assoc, List.cons_append, List.nil_append]
      rw [Host.after_after, joined] at exchanged endConnected endKeepsUp
      refine ⟨final, _, ?_, endConnected, endKeepsUp, ?_, ?_⟩
      · rw [Host.shift_succ_of_waits room answer, taken]
        exact exchanged
      · rw [drives]
        exact .unit roomWaited answerWaited shifted
      · have apart := backend.status_ne_receive
        rw [Trace.taken_unit roomWaited answerWaited apart, Trace.sent_unit roomWaited answerWaited,
          List.map_cons, List.map_cons, comesBack, same.lowWord_eq shifts]

end Echo

/-! ## Requests -/

/-- A request to exchange a number of words, sent from a buffer or, without one, fillers,
with a buffer for the answers. -/
structure Request (w : Width) where
  outgoing : Option (List w.Word)
  incoming : List w.Word
  length : Nat

namespace Request

variable {w : Width} (request : Request w)

/-- Both buffers have room for the request. -/
def Fits : Prop :=
  (∀ words ∈ request.outgoing, request.length ≤ words.length) ∧
    request.length ≤ request.incoming.length

instance : Decidable request.Fits :=
  inferInstanceAs (Decidable (_ ∧ _))

/-- The words that a request sends. -/
def words : List w.Word :=
  match request.outgoing with
  | none => List.replicate request.length w.filler
  | some words => words.take request.length

/-- The call that makes a request. -/
def call : Call :=
  .transceive w request.outgoing (some request.incoming) request.length

/-- The reply to a request that received what it sent: the words stand in front of what is
left of the buffer. -/
def echoed : Reply :=
  .exchanged w (.ok ()) (some (request.words ++ request.incoming.drop request.length))

variable {request}

theorem length_words (fits : request.Fits) : request.words.length = request.length := by
  unfold words
  cases outgoing : request.outgoing with
  | none => exact List.length_replicate
  | some words => exact List.length_take_of_le (fits.1 words outgoing)

theorem getElem?_words (fits : request.Fits) {place : Nat} (inside : place < request.length) :
    request.words[place]? = some (w.outgoingWord request.outgoing place) := by
  unfold words
  cases outgoing : request.outgoing with
  | none =>
      rw [List.getElem?_replicate, if_pos inside]
      rfl
  | some words =>
      have enough := Nat.lt_of_lt_of_le inside (fits.1 words outgoing)
      rw [List.getElem?_take_of_lt inside, Width.getElem?_outgoing enough]

end Request

section Requests

variable {backend : Backend} {host : Host backend.Register σ κ} {w : Width}
  {bus : Bus backend.Register σ κ}

/-- Over a loop that keeps up a request receives the words that it sends. -/
theorem Loopback.call_echoes (loop : Loopback backend host.hardware)
    (drives : host.controller = backend.controller) (shifts : backend.controller.shifts w)
    (selected : bus.stage = .selected) (connected : loop.connected bus.hardware)
    {request : Request w} (fits : request.Fits) {more : Nat}
    (keepsUp : host.KeepsUp (request.words.length + more) bus) :
    ∃ events,
      host.call bus request.call = some (request.echoed, host.after events bus) ∧
      loop.connected (host.after events bus).hardware ∧
      host.KeepsUp more (host.after events bus) ∧
      (Trace.sent backend.controller events).map UInt32.toNat =
        backend.unitsOf w request.words := by
  have length := Request.length_words fits
  have asked : ∀ place < request.words.length,
      request.words[place]? = some (w.outgoingWord request.outgoing place) := by
    intro place inside
    exact Request.getElem?_words fits (length ▸ inside)
  have room : ∀ words ∈ some request.incoming, request.words.length ≤ words.length := by
    rintro _ ⟨⟩
    exact length ▸ fits.2
  obtain ⟨final, events, exchanged, stillConnected, stillKeepsUp, shifted, comesBack⟩ :=
    loop.shift_echoes drives shifts (.separate w request.outgoing) request.words.length more 0
      (some request.incoming) connected keepsUp
  have units := shifted.sent_eq_take shifts asked
  have buffer := shifted.final_eq backend.status_ne_receive room
  obtain ⟨allSent, allTaken⟩ := (shifted.unitCounts backend.status_ne_receive).of_ok
  rw [allSent, List.take_of_length_le (Nat.le_of_eq (backend.length_unitsOf ..))] at units
  simp only [Backend.ofUnit_decode shifts, comesBack, Backend.map_lowWord_of_unitsOf units,
    allTaken, length, Option.map_some] at buffer
  refine ⟨events, ?_, stillConnected, stillKeepsUp, units⟩
  have allowed : host.refusal bus.exchangeBreach = none := by
    rw [Bus.exchangeBreach, selected]
    exact Host.refusal_none
  have enough : ∀ words ∈ some request.incoming, request.length ≤ words.length := by
    rintro _ ⟨⟩
    exact fits.2
  rw [length] at exchanged
  rw [Request.call, Host.call, Host.shifting, if_pos (drives ▸ shifts),
    host.transceive_eq_exchange bus fits.1 enough, Host.exchange, allowed]
  dsimp only
  rw [exchanged, buffer]
  rfl

/-- Over a loop that keeps up a run of requests succeeds, and each receives its words. -/
theorem Loopback.turns_echo (loop : Loopback backend host.hardware)
    (drives : host.controller = backend.controller) (shifts : backend.controller.shifts w)
    (selected : bus.stage = .selected) (connected : loop.connected bus.hardware)
    {requests : List (Request w)} (fit : ∀ request ∈ requests, request.Fits)
    (keepsUp : host.KeepsUp (requests.flatMap Request.words).length bus) :
    ∃ log events,
      host.turns bus (requests.map fun request => .call request.call) = some log ∧
      log.map Prod.fst = requests.map (fun request => some request.echoed) ∧
      bus.afterRun log = host.after events bus ∧
      (Trace.sent backend.controller events).map UInt32.toNat =
        requests.flatMap fun request => backend.unitsOf w request.words := by
  induction requests generalizing bus with
  | nil => exact ⟨[], [], rfl, rfl, rfl, rfl⟩
  | cons request rest ih =>
      rw [List.flatMap_cons, List.length_append] at keepsUp
      obtain ⟨here, called, stillConnected, stillKeepsUp, units⟩ :=
        loop.call_echoes drives shifts selected connected
          (fit request List.mem_cons_self) keepsUp
      have restFit := fun other member => fit other (List.mem_cons_of_mem _ member)
      have stillSelected : (host.after here bus).stage = .selected := selected
      obtain ⟨log, later, ran, replies, ended, laterUnits⟩ :=
        ih stillSelected stillConnected restFit stillKeepsUp
      have turned : host.turn bus (.call request.call) =
          some (some request.echoed, host.after here bus) := by
        rw [Host.turn, called]
        rfl
      refine ⟨_, here ++ later, Host.turns_cons turned ran, ?_, ?_, ?_⟩
      · rw [List.map_cons, List.map_cons, replies]
      · rw [Bus.afterRun_cons, ended, Host.after_after]
      · rw [Trace.sent_append, List.map_append, units, laterUnits, List.flatMap_cons]

end Requests

/-- Without its mark a unit is the number of its word. -/
theorem Backend.map_mod_unitsOf (backend : Backend) (w : Width) (words : List w.Word) :
    (backend.unitsOf w words).map (· % 65536) = words.map fun word => (w.toUnit word).toNat := by
  apply List.ext_getElem?
  intro place
  rw [List.getElem?_map, List.getElem?_map]
  cases found : words[place]? with
  | none =>
      have past : (backend.unitsOf w words).length ≤ place := by
        rw [backend.length_unitsOf]
        exact List.getElem?_eq_none_iff.1 found
      rw [List.getElem?_eq_none past]
      rfl
  | some word =>
      have small := (w.toUnit word).toNat_lt
      rw [backend.getElem?_unitsOf found, Option.map_some, Option.map_some, Option.some.injEq]
      cases backend with
      | standard =>
          simp only [Backend.endMark]
          split <;> omega
      | usart =>
          simp only [Backend.endMark]
          split <;> omega

/-- **A loop returns what is sent, however it is cut into requests.**  Take a bus whose
output is wired to its input, with whatever is left in its receive register, and a device
selected on it.  Requests whose units all find room and are answered in time succeed, and
each receives the words that it sends: those of its buffer, or fillers without one.  The
units that go out are those of a single request for all the words, which receives them all
as well, but for the end mark, which is on the last unit of each request that has one. -/
theorem loopback_round_trip {backend : Backend} {host : Host backend.Register σ κ}
    (drives : host.controller = backend.controller) {w : Width}
    (shifts : host.controller.shifts w) (loop : Loopback backend host.hardware)
    {bus : Bus backend.Register σ κ} (selected : bus.stage = .selected)
    (connected : loop.connected bus.hardware) {requests : List (Request w)}
    (fit : ∀ request ∈ requests, request.Fits) {words : List w.Word}
    (cut : requests.flatMap Request.words = words) (keepsUp : host.KeepsUp words.length bus)
    {room : List w.Word} (enough : words.length ≤ room.length) :
    ∃ log whole events wholeEvents,
      host.turns bus (requests.map fun request => .call request.call) = some log ∧
      log.map Prod.fst = requests.map (fun request => some request.echoed) ∧
      (bus.afterRun log).trace = bus.trace ++ events ∧
      host.call bus (.transceive w (some words) (some room) words.length) =
        some (.exchanged w (.ok ()) (some (words ++ room.drop words.length)), whole) ∧
      whole.trace = bus.trace ++ wholeEvents ∧
      (Trace.sent host.controller events).map UInt32.toNat =
        requests.flatMap (fun request => backend.unitsOf w request.words) ∧
      (Trace.sent host.controller wholeEvents).map UInt32.toNat = backend.unitsOf w words ∧
      (Trace.sent host.controller events).map (fun unit => unit.toNat % 65536) =
        (Trace.sent host.controller wholeEvents).map fun unit => unit.toNat % 65536 := by
  subst cut
  rw [drives] at shifts ⊢
  obtain ⟨log, events, ran, replies, ended, units⟩ :=
    loop.turns_echo drives shifts selected connected fit keepsUp
  let uncut : Request w :=
    ⟨some (requests.flatMap Request.words), room, (requests.flatMap Request.words).length⟩
  have uncutFits : uncut.Fits := by
    refine ⟨?_, enough⟩
    rintro _ ⟨⟩
    exact Nat.le_refl _
  have uncutWords : uncut.words = requests.flatMap Request.words := List.take_length
  have wholeKeepsUp : host.KeepsUp (uncut.words.length + 0) bus := by
    rw [uncutWords]
    exact keepsUp
  obtain ⟨wholeEvents, called, -, -, wholeUnits⟩ :=
    loop.call_echoes drives shifts selected connected uncutFits wholeKeepsUp
  rw [Request.echoed, uncutWords] at called
  rw [uncutWords] at wholeUnits
  refine ⟨log, _, events, wholeEvents, ran, replies, ?_, called, ?_, units, wholeUnits, ?_⟩
  · rw [ended, Host.after_trace]
  · rw [Host.after_trace]
  · have unmarked := congrArg (List.map (· % 65536)) units
    have wholeUnmarked := congrArg (List.map (· % 65536)) wholeUnits
    rw [List.map_map, List.map_flatMap] at unmarked
    rw [List.map_map, backend.map_mod_unitsOf, List.map_flatMap] at wholeUnmarked
    simp only [backend.map_mod_unitsOf] at unmarked
    exact unmarked.trans wholeUnmarked.symm

/-! ## A loop of wire -/

/-- A standard controller whose output is wired to its input: what the receive register
holds, and whether it is still to be taken. -/
def Hardware.looped : Hardware Backend.standard.Register (UInt32 × Bool) where
  enable := id
  read := fun register (held, fresh) =>
    match register with
    | .status => (if fresh then 0x203 else 0x202, (held, fresh))
    | .receive => (held, (held, false))
    | _ => (0, (held, fresh))
  write := fun register value state =>
    match register with
    | .transmit => (value &&& 0xFFFF, true)
    | _ => state
  address := fun _ _ => 0
  now := fun state => (0, state)
  command := fun _ => id
  elapse := fun _ => id

/-- A host that polls a loop of wire once for every wait. -/
def Host.looped : Host Backend.standard.Register (UInt32 × Bool) Unit where
  controller := Backend.standard.controller
  hardware := .looped
  lines := .recorded
  waits := .pollLimit 1

/-- A loop of wire is a loop, and is always connected. -/
def Loopback.looped : Loopback .standard Hardware.looped where
  connected := fun _ => True
  held := Prod.fst
  send := by
    intro value state _
    refine ⟨trivial, ?_⟩
    have low : (value &&& 0xFFFF).toNat = value.toNat % 65536 := by
      rw [UInt32.toNat_and]
      exact Nat.and_two_pow_sub_one_eq_mod value.toNat 16
    show (value &&& 0xFFFF).toNat % 65536 = value.toNat % 65536
    rw [low, Nat.mod_mod]
  take := fun _ _ => ⟨trivial, rfl⟩
  poll := fun _ _ => ⟨trivial, rfl⟩
  clock := fun _ _ => ⟨trivial, rfl⟩

/-- A loop of wire keeps up with any number of units. -/
theorem Host.looped_keepsUp (units : Nat)
    (bus : Bus Backend.standard.Register (UInt32 × Bool) Unit) :
    Host.looped.KeepsUp units bus := by
  induction units generalizing bus with
  | zero => trivial
  | succ units ih =>
      obtain ⟨⟨held, fresh⟩, lines, up, stage, configured, history⟩ := bus
      cases fresh with
      | false => exact ⟨_, rfl, fun value => ⟨_, rfl, ih _⟩⟩
      | true => exact ⟨_, rfl, fun value => ⟨_, rfl, ih _⟩⟩

/-- Two bytes, nothing and one filler, over a loop with a stale answer in it. -/
theorem loopback_round_trip_looped :
    let bus : Bus Backend.standard.Register (UInt32 × Bool) Unit :=
      { hardware := (77, true), lines := (), stage := .selected }
    let requests : List (Request .eight) :=
      [⟨some [1, 2], [0, 0, 7], 2⟩, ⟨none, [], 0⟩, ⟨none, [0], 1⟩]
    Host.looped.KeepsUp 3 bus ∧
    (∀ request ∈ requests, request.Fits) ∧
    requests.flatMap Request.words = [1, 2, 255] ∧
    ∃ log events,
      Host.looped.turns bus (requests.map fun request => .call request.call) = some log ∧
      log.map Prod.fst =
        [some (.exchanged .eight (.ok ()) (some [1, 2, 7])),
          some (.exchanged .eight (.ok ()) (some [])),
          some (.exchanged .eight (.ok ()) (some [255]))] ∧
      (bus.afterRun log).trace = events ∧
      (Trace.sent Host.looped.controller events).map UInt32.toNat =
        [1, 16777218, 16777471] := by
  intro bus requests
  have fit : ∀ request ∈ requests, request.Fits := by decide
  have cut : requests.flatMap Request.words = [1, 2, 255] := rfl
  have keepsUp := Host.looped_keepsUp 3 bus
  have drives : Host.looped.controller = Backend.standard.controller := rfl
  have shifts : Host.looped.controller.shifts .eight = true := rfl
  have selected : bus.stage = .selected := rfl
  have enough : [1, 2, 255].length ≤ ([0, 0, 0] : List Width.eight.Word).length := Nat.le_refl 3
  obtain ⟨log, -, events, -, ran, replies, trace, -, -, units, -⟩ :=
    loopback_round_trip drives shifts Loopback.looped selected trivial fit cut keepsUp enough
  exact ⟨keepsUp, fit, cut, log, events, ran, replies, trace, units⟩

end SerialBus
