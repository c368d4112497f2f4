import SerialBus.Proofs.Transfer

/-!
# Every request is a transfer with separate buffers

The requests of a bus differ only in their feed.  Two feeds are alike under a relation
between their buffers when related buffers give the same word to send and stay related
after an answer is stored (`Feed.Alike`).  The loop over the units cannot tell such
feeds apart: it sends the same units, waits as often, fails at the same unit, and leaves
the same bus behind (`Host.exchange_alike`).

A request with buffers of different lengths is a transfer whose words to send are
filled up and whose buffer for the answers is made longer; what the longer buffer has
in addition is all that is dropped.  A request that replaces the words of one buffer is
a transfer that sends a copy of it, because an answer only ever takes the place of a
word that has gone out already: the words from the index reached on are still those of
the copy.

So every request is answered as a transfer with separate buffers is
(`request_eq_transceive`), on every hardware and whether the request is refused,
succeeds or times out.
-/

set_option autoImplicit false

namespace SerialBus

variable {ρ σ κ : Type}

/-! ## Feeds that are alike -/

/-- Two feeds that send the same words and keep their buffers related at the index
reached. -/
structure Feed.Alike {w : Width} {β γ : Type} (first : Feed w β) (second : Feed w γ)
    (related : (index : Nat) → β → γ → Prop) : Prop where
  next : ∀ {index buffers others}, related index buffers others →
    first.next index buffers = second.next index others
  store : ∀ {index buffers others} (word : w.Word), related index buffers others →
    related (index + 1) (first.store index word buffers) (second.store index word others)

section Alike

variable {w : Width} {β γ δ : Type} {first : Feed w β} {second : Feed w γ}
  {related : Nat → β → γ → Prop} (shown : β → δ) (shownOther : γ → δ) {buffers : β} {others : γ}

/-- The loop over the units cannot tell feeds apart that are alike. -/
theorem Host.shift_alike (host : Host ρ σ κ) (alike : first.Alike second related)
    (same : ∀ {index buffers others}, related index buffers others →
      shown buffers = shownOther others)
    {left index : Nat} (start : related index buffers others) (bus : Bus ρ σ κ) :
    (host.shift first left index buffers bus).map
        (fun (outcome, buffers, bus) => (outcome, shown buffers, bus)) =
      (host.shift second left index others bus).map
        fun (outcome, others, bus) => (outcome, shownOther others, bus) := by
  induction left generalizing index buffers others bus with
  | zero => simp only [shift, Option.map_some, same start]
  | succ left ih =>
      rw [shift, shift, alike.next start]
      cases room : host.await .txReady bus with
      | none => rfl
      | some waited =>
          obtain ⟨outcome, bus⟩ := waited
          cases outcome with
          | error failure => simp only [Option.map_some, same start]
          | ok =>
              dsimp only
              cases answer : host.await .rxReady
                  (host.send (w.toUnit (second.next index others)) (left = 0) bus) with
              | none => rfl
              | some waited =>
                  obtain ⟨outcome, bus⟩ := waited
                  cases outcome with
                  | error failure => simp only [Option.map_some, same start]
                  | ok => exact ih (alike.store _ start) _

/-- An exchange cannot tell feeds apart that are alike. -/
theorem Host.exchange_alike (host : Host ρ σ κ) (alike : first.Alike second related)
    (same : ∀ {index buffers others}, related index buffers others →
      shown buffers = shownOther others)
    {length : Nat} (start : related 0 buffers others) (bus : Bus ρ σ κ) :
    (host.exchange first length buffers bus).map
        (fun (outcome, buffers, bus) => (outcome, shown buffers, bus)) =
      (host.exchange second length others bus).map
        fun (outcome, others, bus) => (outcome, shownOther others, bus) := by
  rw [exchange, exchange]
  cases host.refusal bus.exchangeBreach with
  | some failure => simp only [Option.map_some, same start]
  | none => exact host.shift_alike shown shownOther alike same start bus

end Alike

/-! ## The two feeds with an order of their own -/

namespace Feed

variable {w : Width}

/-- Words filled up with fillers give a filler past their end, as the words do. -/
theorem getD_rightpad_filler (words : List w.Word) (length index : Nat) :
    (words.rightpad length w.filler).getD index w.filler = words.getD index w.filler := by
  rcases Nat.lt_or_ge index words.length with inside | past
  · simp [List.rightpad, List.getElem?_append_left inside]
  · simp only [List.rightpad, List.getD_eq_getElem?_getD, List.getElem?_append_right past,
      List.getElem?_replicate, List.getElem?_eq_none past]
    split <;> rfl

/-- A buffer is the front of a longer one, and both take the same answers. -/
theorem padded_alike (outgoing : List w.Word) (length room : Nat) :
    (padded w outgoing).Alike (separate w (some (outgoing.rightpad length w.filler)))
      fun _ incoming larger => ∃ words, larger = some words ∧ incoming = words.take room where
  next := fun _ => (getD_rightpad_filler outgoing length _).symm
  store := by
    rintro index _ _ word ⟨words, rfl, rfl⟩
    exact ⟨words.set index word, rfl, List.take_set.symm⟩

/-- The words that have not gone out yet are those of the copy. -/
theorem inPlace_alike (copy : List w.Word) :
    (inPlace w).Alike (separate w (some copy))
      fun index words incoming => incoming = some words ∧ words.drop index = copy.drop index where
  next := by
    rintro index words _ ⟨_, untouched⟩
    have here := congrArg (·[0]?) untouched
    simp only [List.getElem?_drop, Nat.add_zero] at here
    simp only [inPlace, separate, List.getD_eq_getElem?_getD, here]
  store := by
    rintro index words _ word ⟨rfl, untouched⟩
    refine ⟨rfl, ?_⟩
    have later := congrArg (List.drop 1) untouched
    simp only [List.drop_drop] at later
    exact (List.drop_set_of_lt (Nat.lt_succ_self index)).trans later

end Feed

/-! ## Requests -/

namespace Host

variable (host : Host ρ σ κ) (w : Width) (bus : Bus ρ σ κ)

/-- A buffer for the answers is there afterwards. -/
theorem transceive_buffer {host : Host ρ σ κ} {w : Width} {outgoing final : Option (List w.Word)}
    {words : List w.Word} {length : Nat} {bus after : Bus ρ σ κ} {outcome : Outcome}
    (result : host.transceive w outgoing (some words) length bus = some (outcome, final, after)) :
    ∃ answers, final = some answers := by
  simp only [transceive] at result
  split at result
  next =>
    simp only [Option.some.injEq, Prod.mk.injEq] at result
    exact ⟨words, result.2.1.symm⟩
  next =>
    split at result
    next =>
      simp only [Option.some.injEq, Prod.mk.injEq] at result
      exact ⟨words, result.2.1.symm⟩
    next =>
      rcases exchange_shifted result with ⟨_, _, _, same, _⟩ | ⟨_, _, shifted, _⟩
      · exact ⟨words, same⟩
      · refine shifted.kept (fun buffer => ∃ answers, buffer = some answers) ?_ ⟨words, rfl⟩
        rintro index word _ ⟨answers, rfl⟩
        exact ⟨answers.set index word, rfl⟩

/-- Filling a buffer is a transfer without words to send. -/
theorem receive_eq (incoming : List w.Word) :
    (host.receive w incoming bus).map
        (fun (outcome, incoming, bus) => (outcome, some incoming, bus)) =
      host.transceive w none (some incoming) incoming.length bus := by
  rw [receive, Option.map_map]
  refine (Option.map_congr ?_).trans (Option.map_id' ..)
  rintro ⟨outcome, final, after⟩ result
  obtain ⟨answers, rfl⟩ := transceive_buffer result
  rfl

variable {w}

/-- A transfer whose buffers are long enough is an exchange. -/
theorem transceive_eq_exchange {outgoing incoming : Option (List w.Word)} {length : Nat}
    (enoughOut : ∀ words ∈ outgoing, length ≤ words.length)
    (enoughIn : ∀ words ∈ incoming, length ≤ words.length) :
    host.transceive w outgoing incoming length bus =
      host.exchange (.separate w outgoing) length incoming bus := by
  simp only [transceive, shortage_eq_none enoughOut, shortage_eq_none enoughIn]

/-- A transfer of buffers of different lengths is one of buffers filled up to the longer
of them. -/
theorem transfer_eq (incoming outgoing : List w.Word) {larger : List w.Word}
    (long : larger.length = max incoming.length outgoing.length) (front : incoming <+: larger) :
    (host.transfer w incoming outgoing bus).map
        (fun (outcome, incoming, bus) => (outcome, some incoming, bus)) =
      (host.transceive w (some (outgoing.rightpad larger.length w.filler)) (some larger)
          larger.length bus).map
        fun (outcome, larger, bus) => (outcome, larger.map (List.take incoming.length), bus) := by
  have filled : larger.length ≤ (outgoing.rightpad larger.length w.filler).length :=
    Nat.le_trans (Nat.le_max_left ..) (Nat.le_of_eq List.length_rightpad.symm)
  rw [transceive_eq_exchange host bus (by simpa using filled) (by simp), transfer, ← long]
  refine host.exchange_alike some (Option.map (List.take incoming.length))
    (Feed.padded_alike outgoing larger.length incoming.length) ?_ ?_ bus
  · rintro _ _ _ ⟨words, rfl, rfl⟩
    rfl
  · exact ⟨larger, rfl, List.prefix_iff_eq_take.1 front⟩

/-- Replacing the words of a buffer is a transfer that sends a copy of it. -/
theorem transferInPlace_eq (words : List w.Word) :
    (host.transferInPlace w words bus).map
        (fun (outcome, words, bus) => (outcome, some words, bus)) =
      host.transceive w (some words) (some words) words.length bus := by
  rw [transceive_eq_exchange host bus (by simp) (by simp), transferInPlace]
  refine (host.exchange_alike some id (Feed.inPlace_alike words) ?_ ?_ bus).trans
    (Option.map_id' ..)
  · rintro _ _ _ ⟨rfl, _⟩
    rfl
  · exact ⟨rfl, rfl⟩

end Host

/-! ## Calls -/

namespace Reply

/-- A reply without the buffer for the answers. -/
def bare : Reply → Reply
  | .exchanged _ ended _ => .outcome ended
  | reply => reply

/-- A reply with no more than the front of the buffer for the answers. -/
def front (room : Nat) : Reply → Reply
  | .exchanged w ended incoming => .exchanged w ended (incoming.map (List.take room))
  | reply => reply

end Reply

namespace Host

variable (host : Host ρ σ κ) (w : Width) (bus : Bus ρ σ κ)

theorem shifting_map (answer : Option (Reply × Bus ρ σ κ)) (change : Reply → Reply)
    (same : change .unavailable = .unavailable) :
    (host.shifting w bus answer).map (Prod.map change id) =
      host.shifting w bus (answer.map (Prod.map change id)) := by
  simp only [shifting]
  split
  · rfl
  · simp [same]

theorem call_receive (incoming : List w.Word) :
    host.call bus (.receive w incoming) =
      host.call bus (.transceive w none (some incoming) incoming.length) := by
  simp only [call, ← host.receive_eq w bus incoming, Option.map_map]
  rfl

theorem call_transmit (outgoing : List w.Word) :
    host.call bus (.transmit w outgoing) =
      (host.call bus (.transceive w (some outgoing) none outgoing.length)).map
        (Prod.map Reply.bare id) := by
  simp only [call, shifting_map host w bus _ Reply.bare rfl, transmit, Option.map_map]
  rfl

variable {w}

theorem call_transfer (incoming outgoing : List w.Word) {larger : List w.Word}
    (long : larger.length = max incoming.length outgoing.length) (front : incoming <+: larger) :
    host.call bus (.transfer w incoming outgoing) =
      (host.call bus (.transceive w (some (outgoing.rightpad larger.length w.filler))
        (some larger) larger.length)).map (Prod.map (Reply.front incoming.length) id) := by
  have transferred := congrArg
    (Option.map fun (outcome, incoming, bus) => (Reply.exchanged w outcome incoming, bus))
    (host.transfer_eq bus incoming outgoing long front)
  rw [Option.map_map, Option.map_map] at transferred
  simp only [call, shifting_map host w bus _ (Reply.front incoming.length) rfl]
  rw [Option.map_map]
  exact congrArg (host.shifting w bus) transferred

theorem call_transferInPlace (words : List w.Word) :
    host.call bus (.transferInPlace w words) =
      host.call bus (.transceive w (some words) (some words) words.length) := by
  simp only [call, ← host.transferInPlace_eq bus words, Option.map_map]
  rfl

/-- However replacing the words of a buffer ends, the words taken stand at the front of
it and the others are still there. -/
theorem transferInPlace_final [DecidableEq ρ] {host : Host ρ σ κ}
    (apart : host.controller.status ≠ host.controller.receive) {words : List w.Word}
    {final : Option (List w.Word)} {bus after : Bus ρ σ κ} {outcome : Outcome}
    (result : host.call bus (.transferInPlace w words) =
      some (.exchanged w outcome final, after)) :
    host.controller.shifts w ∧ ∃ events, after.trace = bus.trace ++ events ∧
      let taken := Trace.taken host.controller events
      final = some (taken.map (fun value => w.ofUnit (host.controller.decode value)) ++
        words.drop taken.length) ∧
      ((∃ breach, outcome = .error (.outOfOrder breach)) ∧ events = [] ∨
        UnitCounts words.length outcome (Trace.sent host.controller events).length
          taken.length) := by
  rw [call_transferInPlace] at result
  obtain ⟨shifts, exchanged⟩ := transceive_of_call result
  refine ⟨shifts, ?_⟩
  rw [transceive_eq_exchange host bus (by simp) (by simp)] at exchanged
  rcases exchange_shifted exchanged with
    ⟨failure, refused, rfl, rfl, rfl⟩ | ⟨_, events, shifted, rfl⟩
  · obtain ⟨breach, _, rfl⟩ := outOfOrder_of_refusal refused
    exact ⟨[], by simp, by simp [Trace.taken], .inl ⟨⟨breach, rfl⟩, rfl⟩⟩
  · exact ⟨events, by simp, shifted.final_eq apart (by simp), .inr (shifted.unitCounts apart)⟩

end Host

/-- **Every request is a transfer with separate buffers.**  On every hardware, with every
policy of waiting and from every bus, filling a buffer, sending one, exchanging two of
different lengths and replacing the words of one are answered as the transfer with
separate buffers that does the same, and leave the same bus behind, its trace and its
hardware included.  When the replacing ends early, the words from the unit that failed
on are still there. -/
theorem request_eq_transceive {backend : Backend} {host : Host backend.Register σ κ}
    (drives : host.controller = backend.controller) (w : Width) (bus : Bus backend.Register σ κ) :
    (∀ incoming : List w.Word,
      host.call bus (.receive w incoming) =
        host.call bus (.transceive w none (some incoming) incoming.length)) ∧
    (∀ outgoing : List w.Word,
      host.call bus (.transmit w outgoing) =
        (host.call bus (.transceive w (some outgoing) none outgoing.length)).map
          (Prod.map Reply.bare id)) ∧
    (∀ incoming outgoing larger : List w.Word,
      larger.length = max incoming.length outgoing.length → incoming <+: larger →
      host.call bus (.transfer w incoming outgoing) =
        (host.call bus (.transceive w (some (outgoing.rightpad larger.length w.filler))
          (some larger) larger.length)).map (Prod.map (Reply.front incoming.length) id)) ∧
    (∀ words : List w.Word,
      host.call bus (.transferInPlace w words) =
        host.call bus (.transceive w (some words) (some words) words.length)) ∧
    ∀ (words : List w.Word) (outcome : Outcome) (final : Option (List w.Word))
      (after : Bus backend.Register σ κ),
      host.call bus (.transferInPlace w words) = some (.exchanged w outcome final, after) →
      ∃ events, after.trace = bus.trace ++ events ∧
        let taken := Trace.taken host.controller events
        final = some (taken.map w.lowWord ++ words.drop taken.length) ∧
        ((∃ breach, outcome = .error (.outOfOrder breach)) ∧ events = [] ∨
          UnitCounts words.length outcome (Trace.sent host.controller events).length
            taken.length) := by
  refine ⟨host.call_receive w bus, host.call_transmit w bus, fun incoming outgoing larger =>
    host.call_transfer bus incoming outgoing, host.call_transferInPlace bus, ?_⟩
  intro words outcome final after result
  have apart : host.controller.status ≠ host.controller.receive :=
    drives ▸ backend.status_ne_receive
  obtain ⟨shifts, events, trace, kept, ended⟩ := Host.transferInPlace_final apart result
  refine ⟨events, trace, ?_, ended⟩
  rw [drives] at shifts kept ⊢
  simpa only [Backend.ofUnit_decode shifts] using kept

/-- Two bytes are sent for one that is kept, and two bytes are replaced, on hardware whose
registers all read as a value with three in its low byte. -/
theorem request_eq_transceive_constant :
    ∃ after,
      (Host.constant 0x203).call { hardware := (), lines := (), stage := .selected }
          (.transfer .eight [9] [1, 2]) =
        some (.exchanged .eight (.ok ()) (some [3]), after) ∧
      ((Host.constant 0x203).call { hardware := (), lines := (), stage := .selected }
          (.transceive .eight (some [1, 2]) (some [9, 5]) 2)).map
            (Prod.map (Reply.front 1) id) =
        some (.exchanged .eight (.ok ()) (some [3]), after) ∧
      ∃ replaced events,
        (Host.constant 0x203).call { hardware := (), lines := (), stage := .selected }
            (.transferInPlace .eight [1, 2]) =
          some (.exchanged .eight (.ok ()) (some [3, 3]), replaced) ∧
        replaced.trace = events ∧
        UnitCounts 2 (.ok ()) (Trace.sent (Host.constant 0x203).controller events).length
          (Trace.taken (Host.constant 0x203).controller events).length := by
  have drives : (Host.constant 0x203).controller = Backend.controller .standard := rfl
  obtain ⟨_, _, transferred, _, replacing⟩ := request_eq_transceive drives .eight
    { hardware := (), lines := (), stage := .selected }
  have surplus : ((Host.constant 0x203).call { hardware := (), lines := (), stage := .selected }
      (.transfer .eight [9] [1, 2])).map Prod.fst =
        some (.exchanged .eight (.ok ()) (some [3])) := rfl
  obtain ⟨⟨_, after⟩, answered, rfl⟩ := Option.map_eq_some_iff.1 surplus
  have longer := transferred [9] [1, 2] [9, 5] rfl (by decide)
  have replied : ((Host.constant 0x203).call { hardware := (), lines := (), stage := .selected }
      (.transferInPlace .eight [1, 2])).map Prod.fst =
        some (.exchanged .eight (.ok ()) (some [3, 3])) := rfl
  obtain ⟨⟨_, replaced⟩, inPlace, rfl⟩ := Option.map_eq_some_iff.1 replied
  obtain ⟨events, trace, _, ended⟩ := replacing _ _ _ _ inPlace
  refine ⟨after, answered, longer.symm.trans answered, replaced, events, inPlace, trace, ?_⟩
  rcases ended with ⟨⟨_, refused⟩, _⟩ | counts
  · cases refused
  · exact counts

end SerialBus
