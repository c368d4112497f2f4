import SerialBus.Proofs.Backend
import SerialBus.Proofs.Handshake

/-!
# What a transfer sends and takes

The units of a trace are the values written to the transmit register and the
values read from the receive register, each in order (`Trace.sent`,
`Trace.taken`).  Status reads and readings of the clock carry none, so the units of
an exchange can be read off its grammar.

A transfer of a length ends in one of three ways (`UnitCounts`): it sends and takes
that many units, or it times out for want of room with as many units sent as taken,
or it times out for want of an answer with one more sent.  The main statement
(`transceive_outcome`) adds which units went out and what became of the buffer for
the answers: the received words stand at its front, one for every unit taken, and
the words behind them are those that were there before.
-/

set_option autoImplicit false

namespace SerialBus

variable {ρ σ κ : Type}

/-! ## Units of a trace -/

namespace Trace

variable [DecidableEq ρ] (controller : Controller ρ)

/-- The values written to the transmit register, in order. -/
def sent (events : List (Event ρ)) : List UInt32 :=
  events.filterMap fun
    | .write register value => if register = controller.transmit then some value else none
    | _ => none

/-- The values read from the receive register, in order. -/
def taken (events : List (Event ρ)) : List UInt32 :=
  events.filterMap fun
    | .read register value => if register = controller.receive then some value else none
    | _ => none

variable {controller}

@[simp] theorem sent_append (first second : List (Event ρ)) :
    sent controller (first ++ second) = sent controller first ++ sent controller second :=
  List.filterMap_append

@[simp] theorem taken_append (first second : List (Event ρ)) :
    taken controller (first ++ second) = taken controller first ++ taken controller second :=
  List.filterMap_append

@[simp] theorem sent_write_cons (value : UInt32) (events : List (Event ρ)) :
    sent controller (.write controller.transmit value :: events) =
      value :: sent controller events := by
  simp [sent]

@[simp] theorem taken_write_cons (register : ρ) (value : UInt32) (events : List (Event ρ)) :
    taken controller (.write register value :: events) = taken controller events := by
  simp [taken]

@[simp] theorem sent_read_cons (register : ρ) (value : UInt32) (events : List (Event ρ)) :
    sent controller (.read register value :: events) = sent controller events := by
  simp [sent]

@[simp] theorem taken_read_cons (value : UInt32) (events : List (Event ρ)) :
    taken controller (.read controller.receive value :: events) =
      value :: taken controller events := by
  simp [taken]

theorem sent_of_waiting {events : List (Event ρ)}
    (waiting : ∀ event ∈ events, event.Waiting controller) : sent controller events = [] := by
  apply List.filterMap_eq_nil_iff.2
  intro event member
  rcases waiting event member with clock | ⟨value, rfl⟩
  · cases event with
    | clock now => rfl
    | _ => exact clock.elim
  · rfl

theorem taken_of_waiting (apart : controller.status ≠ controller.receive)
    {events : List (Event ρ)} (waiting : ∀ event ∈ events, event.Waiting controller) :
    taken controller events = [] := by
  apply List.filterMap_eq_nil_iff.2
  intro event member
  rcases waiting event member with clock | ⟨value, rfl⟩
  · cases event with
    | clock now => rfl
    | _ => exact clock.elim
  · exact if_neg apart

/-! A handshake carries the unit that it writes and the one that it reads. -/

section Handshake

variable {before between : List (Event ρ)} {outcome : Outcome} {unit answer : UInt32}
  (room : Waited controller .txReady (.ok ()) before)
  (waited : Waited controller .rxReady outcome between)
include room waited

theorem sent_noAnswer :
    sent controller (before ++ .write controller.transmit unit :: between) = [unit] := by
  rw [sent_append, sent_write_cons, sent_of_waiting room.waiting, sent_of_waiting waited.waiting]
  rfl

theorem sent_unit (rest : List (Event ρ)) :
    sent controller (before ++ .write controller.transmit unit ::
      (between ++ .read controller.receive answer :: rest)) = unit :: sent controller rest := by
  rw [sent_append, sent_write_cons, sent_append, sent_read_cons, sent_of_waiting room.waiting,
    sent_of_waiting waited.waiting]
  rfl

theorem taken_noAnswer (apart : controller.status ≠ controller.receive) :
    taken controller (before ++ .write controller.transmit unit :: between) = [] := by
  rw [taken_append, taken_write_cons, taken_of_waiting apart room.waiting,
    taken_of_waiting apart waited.waiting]
  rfl

theorem taken_unit (apart : controller.status ≠ controller.receive) (rest : List (Event ρ)) :
    taken controller (before ++ .write controller.transmit unit ::
      (between ++ .read controller.receive answer :: rest)) =
        answer :: taken controller rest := by
  rw [taken_append, taken_write_cons, taken_append, taken_read_cons,
    taken_of_waiting apart room.waiting, taken_of_waiting apart waited.waiting]
  rfl

end Handshake

end Trace

/-! ## Counting the units -/

/-- How many units a transfer of a length has sent and taken, by its outcome. -/
inductive UnitCounts (length : Nat) : Outcome → (sent taken : Nat) → Prop where
  /-- Everything went out and every answer came in. -/
  | complete : UnitCounts length (.ok ()) length length
  /-- There was no room for the unit at an index. -/
  | noRoom (index : Nat) (inside : index < length) :
      UnitCounts length (.error (.timeout .txReady)) index index
  /-- The unit at an index went out and no answer came. -/
  | noAnswer (index : Nat) (inside : index < length) :
      UnitCounts length (.error (.timeout .rxReady)) (index + 1) index

theorem UnitCounts.sent_le {length sent taken : Nat} {outcome : Outcome}
    (counts : UnitCounts length outcome sent taken) : sent ≤ length := by
  cases counts with
  | complete => exact Nat.le_refl _
  | noRoom _ inside => exact Nat.le_of_lt inside
  | noAnswer _ inside => exact inside

/-- A transfer that succeeds has sent and taken every unit. -/
theorem UnitCounts.of_ok {length sent taken : Nat}
    (counts : UnitCounts length (.ok ()) sent taken) : sent = length ∧ taken = length := by
  cases counts with
  | complete => exact ⟨rfl, rfl⟩

theorem UnitCounts.succ {length sent taken : Nat} {outcome : Outcome}
    (counts : UnitCounts length outcome sent taken) :
    UnitCounts (length + 1) outcome (sent + 1) (taken + 1) := by
  cases counts with
  | complete => exact .complete
  | noRoom _ inside => exact .noRoom _ (Nat.succ_lt_succ inside)
  | noAnswer _ inside => exact .noAnswer (taken + 1) (Nat.succ_lt_succ inside)

section Units

variable [DecidableEq ρ] {controller : Controller ρ} {w : Width} {left index : Nat}
  {outcome : Outcome} {events : List (Event ρ)}

theorem Shifted.unitCounts {β : Type} {feed : Feed w β} {buffers final : β}
    (apart : controller.status ≠ controller.receive)
    (shifted : Shifted controller feed left index buffers outcome final events) :
    UnitCounts left outcome (Trace.sent controller events).length
      (Trace.taken controller events).length := by
  induction shifted with
  | done => exact .complete
  | noRoom room =>
      rw [Trace.sent_of_waiting room.waiting, Trace.taken_of_waiting apart room.waiting]
      exact .noRoom 0 (Nat.succ_pos _)
  | noAnswer room answer =>
      rw [Trace.sent_noAnswer room answer, Trace.taken_noAnswer room answer apart]
      exact .noAnswer 0 (Nat.succ_pos _)
  | unit room answer _ ih =>
      rw [Trace.sent_unit room answer, Trace.taken_unit room answer apart]
      exact ih.succ

/-! ## The words of a transfer with separate buffers -/

/-- The word that goes out at an index of a request, with or without a buffer. -/
def Width.outgoingWord (w : Width) (outgoing : Option (List w.Word)) (index : Nat) : w.Word :=
  match outgoing with
  | none => w.filler
  | some words => words.getD index w.filler

/-- The words of a buffer are those that go out of it. -/
theorem Width.getElem?_outgoing {w : Width} {words : List w.Word} {place : Nat}
    (inside : place < words.length) :
    words[place]? = some (w.outgoingWord (some words) place) := by
  rw [outgoingWord, List.getD_eq_getElem?_getD, List.getElem?_eq_getElem inside]
  rfl

variable {outgoing : Option (List w.Word)} {incoming final : Option (List w.Word)}

/-- The first unit of a request is the last one when none is left after it. -/
theorem decide_first_last (left : Nat) : decide (0 + 1 = left + 1) = decide (left = 0) :=
  decide_eq_decide.2 ⟨fun same => by omega, fun same => by omega⟩

/-- The units sent are the words from the first index on, the last of them marked. -/
theorem Shifted.sent_separate
    (shifted : Shifted controller (.separate w outgoing) left index incoming outcome final
      events) {place : Nat} (inside : place < (Trace.sent controller events).length) :
    (Trace.sent controller events)[place]? =
      some (controller.encode (w.toUnit (w.outgoingWord outgoing (index + place)))
        (place + 1 = left)) := by
  induction shifted generalizing place with
  | done => simp [Trace.sent] at inside
  | noRoom room => simp [Trace.sent_of_waiting room.waiting] at inside
  | noAnswer room answer =>
      rw [Trace.sent_noAnswer room answer] at inside ⊢
      obtain rfl : place = 0 := Nat.lt_one_iff.1 inside
      rw [decide_first_last]
      rfl
  | @unit left index _ _ _ _ _ _ _ room answer _ ih =>
      rw [Trace.sent_unit room answer] at inside ⊢
      cases place with
      | zero =>
          rw [decide_first_last]
          rfl
      | succ place =>
          have shiftedIndex : index + (place + 1) = index + 1 + place := by omega
          have lastOne : (place + 1 + 1 = left + 1) = (place + 1 = left) := by simp
          rw [List.getElem?_cons_succ, ih (Nat.lt_of_succ_lt_succ inside), shiftedIndex]
          simp only [lastOne]

/-- The received words stand in front of what is left of the buffer. -/
theorem Shifted.final_separate (apart : controller.status ≠ controller.receive)
    (shifted : Shifted controller (.separate w outgoing) left index incoming outcome final
      events) (done rest : List w.Word) (start : incoming = some (done ++ rest))
    (atIndex : done.length = index) (room : left ≤ rest.length) :
    final = some (done ++ ((Trace.taken controller events).map
      (fun value => w.ofUnit (controller.decode value)) ++
        rest.drop (Trace.taken controller events).length)) := by
  induction shifted generalizing done rest with
  | done => simpa [Trace.taken] using start
  | noRoom waited => simpa [Trace.taken_of_waiting apart waited.waiting] using start
  | noAnswer waited answer => simpa [Trace.taken_noAnswer waited answer apart] using start
  | @unit left index _ _ _ _ _ value _ waited answer _ ih =>
      obtain ⟨word, rest, rfl⟩ :=
        List.exists_cons_of_length_pos (Nat.lt_of_lt_of_le (Nat.succ_pos left) room)
      have stored := ih (done ++ [w.ofUnit (controller.decode value)]) rest
        (by simp [start, Feed.separate, ← atIndex]) (by simp [atIndex])
        (Nat.le_of_succ_le_succ room)
      rw [stored, Trace.taken_unit waited answer apart]
      simp

omit [DecidableEq ρ] in
/-- Without a buffer for the answers there is none afterwards. -/
theorem Shifted.final_none
    (shifted : Shifted controller (.separate w outgoing) left index incoming outcome final
      events) (start : incoming = none) : final = none :=
  shifted.kept (· = none) (fun _ _ _ absent => by simp [absent, Feed.separate]) start

/-- The words that a transfer has taken stand at the front of the buffer for them. -/
theorem Shifted.final_eq (apart : controller.status ≠ controller.receive)
    (shifted : Shifted controller (.separate w outgoing) left 0 incoming outcome final events)
    (room : ∀ words ∈ incoming, left ≤ words.length) :
    final = incoming.map fun words =>
      (Trace.taken controller events).map (fun value => w.ofUnit (controller.decode value)) ++
        words.drop (Trace.taken controller events).length := by
  cases incoming with
  | none => exact shifted.final_none rfl
  | some words => exact shifted.final_separate apart [] words rfl rfl (room words rfl)

end Units

/-! ## The units of a request -/

/-- The units with which words go out as one request, as numbers: each word as it is, and
the last of them with the end mark. -/
def Backend.unitsOf (backend : Backend) (w : Width) (words : List w.Word) : List Nat :=
  words.mapIdx fun place word =>
    (w.toUnit word).toNat + if place + 1 = words.length then backend.endMark else 0

@[simp] theorem Backend.length_unitsOf (backend : Backend) (w : Width) (words : List w.Word) :
    (backend.unitsOf w words).length = words.length :=
  List.length_mapIdx

theorem Backend.getElem?_unitsOf (backend : Backend) {w : Width} {words : List w.Word}
    {place : Nat} {word : w.Word} (found : words[place]? = some word) :
    (backend.unitsOf w words)[place]? =
      some ((w.toUnit word).toNat + if place + 1 = words.length then backend.endMark else 0) := by
  rw [unitsOf, List.getElem?_mapIdx, found]
  rfl

/-- However an exchange ends, the units sent are the first ones of the request. -/
theorem Shifted.sent_eq_take {backend : Backend} {w : Width}
    (shifts : backend.controller.shifts w) {outgoing incoming final : Option (List w.Word)}
    {words : List w.Word} {outcome : Outcome} {events : List (Event backend.Register)}
    (asked : ∀ place < words.length, words[place]? = some (w.outgoingWord outgoing place))
    (shifted : Shifted backend.controller (.separate w outgoing) words.length 0 incoming outcome
      final events) :
    (Trace.sent backend.controller events).map UInt32.toNat =
      (backend.unitsOf w words).take (Trace.sent backend.controller events).length := by
  have counts := (shifted.unitCounts backend.status_ne_receive).sent_le
  apply List.ext_getElem?
  intro place
  by_cases inside : place < (Trace.sent backend.controller events).length
  · have found := asked place (Nat.lt_of_lt_of_le inside counts)
    have carried := Backend.encode_toNat shifts (w.outgoingWord outgoing place)
      (place + 1 = words.length)
    rw [List.getElem?_map, shifted.sent_separate inside, Nat.zero_add, List.getElem?_take,
      if_pos inside, backend.getElem?_unitsOf found, Option.map_some, carried]
    simp only [decide_eq_true_eq]
  · have past := Nat.not_lt.1 inside
    have cut : ((backend.unitsOf w words).take
        (Trace.sent backend.controller events).length).length ≤ place :=
      Nat.le_trans (List.length_take_le ..) past
    rw [List.getElem?_eq_none (by rwa [List.length_map]), List.getElem?_eq_none cut]

/-! ## The outcome of a transfer -/

/-- A transfer with long enough buffers that is not out of order follows the grammar
of exchanges. -/
theorem Host.transceive_shifted {host : Host ρ σ κ} {w : Width}
    {outgoing incoming final : Option (List w.Word)} {length : Nat} {bus after : Bus ρ σ κ}
    {outcome : Outcome} (enoughOut : ∀ words ∈ outgoing, length ≤ words.length)
    (enoughIn : ∀ words ∈ incoming, length ≤ words.length)
    (result : host.transceive w outgoing incoming length bus = some (outcome, final, after))
    (inOrder : ∀ breach, outcome ≠ .error (.outOfOrder breach)) :
    ∃ events, Shifted host.controller (.separate w outgoing) length 0 incoming outcome final
        events ∧ after = (host.after events bus).setStage (bus.stage.afterExchange outcome) := by
  simp only [transceive, shortage_eq_none enoughOut, shortage_eq_none enoughIn] at result
  rcases exchange_shifted result with ⟨failure, refused, failed, _, _⟩ | ⟨_, shifted⟩
  · obtain ⟨breach, _, rfl⟩ := outOfOrder_of_refusal refused
    exact absurd failed (inOrder breach)
  · exact shifted

/-- A transfer that was answered with its outcome has been carried out, and its
words are as wide as the controller shifts. -/
theorem Host.transceive_of_call {host : Host ρ σ κ} {w : Width}
    {outgoing incoming final : Option (List w.Word)} {length : Nat} {bus after : Bus ρ σ κ}
    {outcome : Outcome}
    (result : host.call bus (.transceive w outgoing incoming length) =
      some (.exchanged w outcome final, after)) :
    host.controller.shifts w ∧
      host.transceive w outgoing incoming length bus = some (outcome, final, after) := by
  simp only [call, shifting] at result
  split at result
  next shifts =>
    obtain ⟨⟨answer, buffer, mid⟩, transceived, same⟩ := Option.map_eq_some_iff.1 result
    simp only [Prod.mk.injEq, Reply.exchanged.injEq, true_and, heq_eq_eq] at same
    obtain ⟨⟨rfl, rfl⟩, rfl⟩ := same
    exact ⟨shifts, transceived⟩
  next => simp at result

/-- **The outcome of a transfer.**  On every hardware and with every policy of
waiting, a transfer that comes back and is not out of order sends and takes as many
units as its outcome allows; every unit sent carries its word, and the end mark
exactly if it is the last; the buffer for the answers begins with the words taken
and is otherwise unchanged; and only a timeout of a selected device moves the
stage, to a fault. -/
theorem transceive_outcome {backend : Backend} {host : Host backend.Register σ κ}
    (drives : host.controller = backend.controller) {w : Width}
    {outgoing incoming final : Option (List w.Word)} {length : Nat}
    {bus after : Bus backend.Register σ κ} {outcome : Outcome}
    (enoughOut : ∀ words ∈ outgoing, length ≤ words.length)
    (enoughIn : ∀ words ∈ incoming, length ≤ words.length)
    (result : host.call bus (.transceive w outgoing incoming length) =
      some (.exchanged w outcome final, after))
    (inOrder : ∀ breach, outcome ≠ .error (.outOfOrder breach)) :
    ∃ events, after.trace = bus.trace ++ events ∧
      let sent := Trace.sent host.controller events
      let taken := Trace.taken host.controller events
      UnitCounts length outcome sent.length taken.length ∧
      (∀ place < sent.length, sent[place]?.map UInt32.toNat =
        some ((w.toUnit (w.outgoingWord outgoing place)).toNat +
          if place + 1 = length then backend.endMark else 0)) ∧
      final = incoming.map (fun words => taken.map w.lowWord ++ words.drop taken.length) ∧
      after.stage = bus.stage.afterExchange outcome ∧
      after.up = bus.up ∧ after.configured = bus.configured ∧ after.lines = bus.lines := by
  obtain ⟨shifts, exchanged⟩ := Host.transceive_of_call result
  obtain ⟨events, shifted, rfl⟩ := Host.transceive_shifted enoughOut enoughIn exchanged inOrder
  rw [drives] at shifts shifted ⊢
  have apart := backend.status_ne_receive
  refine ⟨events, by simp, shifted.unitCounts apart, ?_, ?_, rfl, rfl, rfl, rfl⟩
  · intro place inside
    rw [shifted.sent_separate inside, Option.map_some, Nat.zero_add]
    have carried := Backend.encode_toNat shifts (w.outgoingWord outgoing place)
      (place + 1 = length)
    simp only [carried, decide_eq_true_eq]
  · rw [shifted.final_eq apart enoughIn]
    simp only [Backend.ofUnit_decode shifts]

/-- Two bytes are exchanged with a buffer of three on hardware whose registers all
read as a value with three in its low byte. -/
theorem transceive_outcome_constant :
    ∃ after events,
      (Host.constant 0x203).call { hardware := (), lines := (), stage := .selected }
          (.transceive .eight (some [1, 2]) (some [0, 0, 7]) 2) =
        some (.exchanged .eight (.ok ()) (some [3, 3, 7]), after) ∧
      after.trace = events ∧ after.stage = .selected ∧
      UnitCounts 2 (.ok ()) (Trace.sent (Host.constant 0x203).controller events).length
        (Trace.taken (Host.constant 0x203).controller events).length := by
  have replied : ((Host.constant 0x203).call { hardware := (), lines := (), stage := .selected }
      (.transceive .eight (some [1, 2]) (some [0, 0, 7]) 2)).map Prod.fst =
        some (.exchanged .eight (.ok ()) (some [3, 3, 7])) := rfl
  obtain ⟨⟨_, after⟩, answered, rfl⟩ := Option.map_eq_some_iff.1 replied
  have drives : (Host.constant 0x203).controller = Backend.controller .standard := rfl
  obtain ⟨events, trace, counts, _, _, stage, _⟩ :=
    transceive_outcome drives (by decide) (by decide) answered nofun
  exact ⟨after, events, answered, trace, stage, counts⟩

end SerialBus
