import SerialBus.Proofs.Disciplines
import SerialBus.Proofs.Requests

/-!
# What a transaction puts on the bus

An adapter that keeps what its documentation promises (`Adapter.Documented`) carries a
transaction out in a frame: the pin goes low, operations follow one another until one of
them fails, everything sent leaves the controller, and the pin goes high.  What the
operations leave in the trace is a grammar once more (`Operation.Carried`): an operation
that sends words is an exchange of those words (`Operation.Operated`), and a delay is a
wait for everything sent to leave, followed by the delay itself.

On a host that refuses nothing, and while no device is selected on the bus itself, nothing
else happens.  So the units of a transaction can be read off its operations
(`Operation.Carried.sends`): those of every operation that was completed, each with the end
mark on its last unit, and then the first units of the operation that failed.

The promises leave an adapter no choice: what comes back from it comes back from
`Host.transact`, which keeps them too (`Adapter.Documented.transact_eq`,
`Host.transact_documented`).
-/

set_option autoImplicit false

namespace SerialBus

variable {ρ σ κ : Type} {w : Width}

/-! ## Operations -/

namespace Operation

/-- The words that an operation sends: its own, and fillers where it has none. -/
def words : Operation w → List w.Word
  | .receive incoming => List.replicate incoming.length w.filler
  | .transmit outgoing => outgoing
  | .transfer incoming outgoing =>
      outgoing.rightpad (max incoming.length outgoing.length) w.filler
  | .transferInPlace words => words
  | .delay _ => []

@[simp] theorem length_words_receive (incoming : List w.Word) :
    (receive incoming).words.length = incoming.length :=
  List.length_replicate

@[simp] theorem length_words_transfer (incoming outgoing : List w.Word) :
    (transfer incoming outgoing).words.length = max incoming.length outgoing.length := by
  rw [words, List.length_rightpad, Nat.max_eq_left (Nat.le_max_right ..)]

/-- How an operation can fail after a number of its units went out: there was no room for
the next one, or no answer to the last one, or a delay was not let pass because something
had not left the controller. -/
inductive FailsAfter : Operation w → Failure → (count : Nat) → Prop where
  | noRoom {operation : Operation w} {count : Nat} (inside : count < operation.words.length) :
      FailsAfter operation (.timeout .txReady) count
  | noAnswer {operation : Operation w} {count : Nat} (inside : count < operation.words.length) :
      FailsAfter operation (.timeout .rxReady) (count + 1)
  | undrained {nanoseconds : UInt32} : FailsAfter (.delay nanoseconds) (.timeout .txEmpty) 0

/-- What an operation leaves in the trace, by its outcome. -/
inductive Operated (controller : Controller ρ) :
    Operation w → Outcome → List (Event ρ) → Prop where
  | exchanged {operation : Operation w} {outgoing incoming final : Option (List w.Word)}
      {outcome : Outcome} {events : List (Event ρ)}
      (transfers : ∀ nanoseconds, operation ≠ .delay nanoseconds)
      (asked : ∀ place < operation.words.length,
        operation.words[place]? = some (w.outgoingWord outgoing place))
      (shifted : Shifted controller (.separate w outgoing) operation.words.length 0 incoming
        outcome final events) :
      Operated controller operation outcome events
  | delayed {nanoseconds : UInt32} {events : List (Event ρ)}
      (waited : Waited controller .txEmpty (.ok ()) events) :
      Operated controller (.delay nanoseconds) (.ok ()) (events ++ [.delay nanoseconds])
  | undrained {nanoseconds : UInt32} {events : List (Event ρ)}
      (waited : Waited controller .txEmpty (.error (.timeout .txEmpty)) events) :
      Operated controller (.delay nanoseconds) (.error (.timeout .txEmpty)) events

/-- What operations leave in the trace up to the first that fails, by the outcome. -/
inductive Carried (controller : Controller ρ) :
    List (Operation w) → Outcome → List (Event ρ) → Prop where
  | done : Carried controller [] (.ok ()) []
  | failed {operation : Operation w} {unreached : List (Operation w)} {failure : Failure}
      {events : List (Event ρ)} (operated : Operated controller operation (.error failure) events) :
      Carried controller (operation :: unreached) (.error failure) events
  | next {operation : Operation w} {rest : List (Operation w)} {outcome : Outcome}
      {events later : List (Event ρ)} (operated : Operated controller operation (.ok ()) events)
      (carried : Carried controller rest outcome later) :
      Carried controller (operation :: rest) outcome (events ++ later)

/-- No operation drives the pin of the adapter. -/
theorem Operated.ne_adapter {controller : Controller ρ} {operation : Operation w}
    {outcome : Outcome} {events : List (Event ρ)}
    (operated : Operated controller operation outcome events) :
    ∀ event ∈ events, ∀ level, event ≠ .adapter level := by
  cases operated with
  | exchanged _ _ shifted =>
      exact shifted.each (fun _ waiting => waiting.ne_adapter) (fun _ _ => nofun)
        (fun _ _ => nofun)
  | delayed waited =>
      intro event member
      rcases List.mem_append.1 member with poll | delay
      · exact (waited.waiting event poll).ne_adapter
      · rw [List.mem_singleton.1 delay]
        exact nofun
  | undrained waited => exact fun event member => (waited.waiting event member).ne_adapter

theorem Carried.ne_adapter {controller : Controller ρ} {operations : List (Operation w)}
    {outcome : Outcome} {events : List (Event ρ)}
    (carried : Carried controller operations outcome events) :
    ∀ event ∈ events, ∀ level, event ≠ .adapter level := by
  induction carried with
  | done => simp
  | failed operated => exact operated.ne_adapter
  | next operated _ ih =>
      intro event member
      rcases List.mem_append.1 member with here | later
      · exact operated.ne_adapter event here
      · exact ih event later

end Operation

/-! ## Units of the operations -/

/-- The units that operations send, by their outcome: all units of those that were
completed, and of the one that failed those before the failure. -/
inductive Backend.Sends (backend : Backend) :
    List (Operation w) → Outcome → List Nat → Prop where
  | all (operations : List (Operation w)) :
      Sends backend operations (.ok ())
        (operations.flatMap fun operation => backend.unitsOf w operation.words)
  | upTo (completed : List (Operation w)) {failing : Operation w}
      (unreached : List (Operation w)) {failure : Failure} {count : Nat}
      (fails : failing.FailsAfter failure count) :
      Sends backend (completed ++ failing :: unreached) (.error failure)
        ((completed.flatMap fun operation => backend.unitsOf w operation.words) ++
          (backend.unitsOf w failing.words).take count)

/-- An operation that was completed comes before the others. -/
theorem Backend.Sends.cons {backend : Backend} {operations : List (Operation w)}
    {outcome : Outcome} {units : List Nat} (operation : Operation w)
    (sends : backend.Sends operations outcome units) :
    backend.Sends (operation :: operations) outcome
      (backend.unitsOf w operation.words ++ units) := by
  cases sends with
  | all => exact .all (operation :: operations)
  | upTo completed unreached fails =>
      rw [← List.append_assoc]
      exact .upTo (operation :: completed) unreached fails

namespace Operation

section Units

variable {backend : Backend} {events : List (Event backend.Register)}

/-- An operation that was completed has sent all its units. -/
theorem Operated.sent_of_ok (shifts : backend.controller.shifts w) {operation : Operation w}
    (operated : Operated backend.controller operation (.ok ()) events) :
    (Trace.sent backend.controller events).map UInt32.toNat =
      backend.unitsOf w operation.words := by
  cases operated with
  | exchanged _ asked shifted =>
      have all := (shifted.unitCounts backend.status_ne_receive).of_ok.1
      rw [shifted.sent_eq_take shifts asked, all]
      exact List.take_of_length_le (Nat.le_of_eq (backend.length_unitsOf ..))
  | delayed waited =>
      rw [Trace.sent_append, Trace.sent_of_waiting waited.waiting]
      rfl

/-- An operation that failed has sent its units up to the failure. -/
theorem Operated.sent_of_error (shifts : backend.controller.shifts w)
    {operation : Operation w} {failure : Failure}
    (operated : Operated backend.controller operation (.error failure) events) :
    ∃ count, operation.FailsAfter failure count ∧
      (Trace.sent backend.controller events).map UInt32.toNat =
        (backend.unitsOf w operation.words).take count := by
  cases operated with
  | exchanged _ asked shifted =>
      refine ⟨_, ?_, shifted.sent_eq_take shifts asked⟩
      have counts := shifted.unitCounts backend.status_ne_receive
      generalize (Trace.sent backend.controller events).length = sent at counts
      cases counts with
      | noRoom _ inside => exact .noRoom inside
      | noAnswer _ inside => exact .noAnswer inside
  | undrained waited =>
      refine ⟨0, .undrained, ?_⟩
      rw [Trace.sent_of_waiting waited.waiting]
      rfl

/-- The units of a transaction are those of its operations. -/
theorem Carried.sends (shifts : backend.controller.shifts w) {operations : List (Operation w)}
    {outcome : Outcome} (carried : Carried backend.controller operations outcome events) :
    backend.Sends operations outcome
      ((Trace.sent backend.controller events).map UInt32.toNat) := by
  induction carried with
  | done => exact .all []
  | failed operated =>
      obtain ⟨count, fails, units⟩ := operated.sent_of_error shifts
      rw [units]
      exact .upTo [] _ fails
  | next operated _ ih =>
      rw [Trace.sent_append, List.map_append, operated.sent_of_ok shifts]
      exact ih.cons _

end Units

end Operation

/-! ## Transactions -/

namespace Host

variable {host : Host ρ σ κ} {bus after : Bus ρ σ κ} {outcome : Outcome}

theorem refusal_of_permissive (permissive : host.discipline = .permissive)
    (breach : Option Breach) : host.refusal breach = none := by
  rw [refusal, permissive]

/-- On a host that refuses nothing, and without a device selected, an exchange leaves its
events and nothing else, however it ends. -/
theorem transceive_unselected (permissive : host.discipline = .permissive)
    (unselected : bus.stage ≠ .selected) {outgoing incoming final : Option (List w.Word)}
    {length : Nat} (enoughOut : ∀ words ∈ outgoing, length ≤ words.length)
    (enoughIn : ∀ words ∈ incoming, length ≤ words.length)
    (result : host.transceive w outgoing incoming length bus = some (outcome, final, after)) :
    ∃ events, Shifted host.controller (.separate w outgoing) length 0 incoming outcome final
        events ∧ after = host.after events bus := by
  rw [transceive_eq_exchange host bus enoughOut enoughIn] at result
  rcases exchange_shifted result with ⟨failure, refused, _⟩ | ⟨_, events, shifted, rfl⟩
  · rw [refusal_of_permissive permissive] at refused
    cases refused
  · refine ⟨events, shifted, ?_⟩
    have stays : bus.stage.afterExchange outcome = bus.stage := by
      cases outcome with
      | ok => rfl
      | error failure => exact if_neg unselected
    rw [stays]
    rfl

end Host

/-! ## Operations of an adapter -/

namespace Operation

variable {host : Host ρ σ κ} {bus after : Bus ρ σ κ} {outcome : Outcome}

/-- Every operation but a delay is a transfer that sends the words of the operation. -/
theorem Performed.transceive {operation done : Operation w}
    (performed : operation.Performed host bus outcome done after)
    (transfers : ∀ nanoseconds, operation ≠ .delay nanoseconds) :
    ∃ outgoing incoming final,
      (∀ place < operation.words.length,
        operation.words[place]? = some (w.outgoingWord outgoing place)) ∧
      (∀ words ∈ outgoing, operation.words.length ≤ words.length) ∧
      (∀ words ∈ incoming, operation.words.length ≤ words.length) ∧
      host.transceive w outgoing incoming operation.words.length bus =
        some (outcome, final, after) := by
  cases performed with
  | @receive incoming _ _ _ answered =>
      obtain ⟨⟨_, final, _⟩, transceived, same⟩ := Option.map_eq_some_iff.1 answered
      cases same
      rw [length_words_receive]
      refine ⟨none, some incoming, final, ?_, by simp, by simp, transceived⟩
      intro place inside
      exact List.getElem?_replicate_of_lt inside
  | @transmit outgoing _ _ answered =>
      obtain ⟨⟨_, final, _⟩, transceived, same⟩ := Option.map_eq_some_iff.1 answered
      cases same
      exact ⟨some outgoing, none, final, fun _ => Width.getElem?_outgoing,
        fun _ same => Nat.le_of_eq (congrArg List.length (Option.some.inj same)), by simp,
        transceived⟩
  | @transfer incoming outgoing _ _ _ answered =>
      -- the buffer for the answers, made as long as what is sent
      let larger := incoming.rightpad (max incoming.length outgoing.length) w.filler
      have long : larger.length = max incoming.length outgoing.length := by
        rw [List.length_rightpad, Nat.max_eq_left (Nat.le_max_left ..)]
      have whole := host.transfer_eq bus incoming outgoing long (List.prefix_append ..)
      rw [answered, Option.map_some, long] at whole
      obtain ⟨⟨_, final, _⟩, transceived, same⟩ := Option.map_eq_some_iff.1 whole.symm
      simp only [Prod.mk.injEq] at same
      obtain ⟨rfl, -, rfl⟩ := same
      refine ⟨some (Operation.transfer incoming outgoing).words, some larger, final,
        fun _ => Width.getElem?_outgoing, by simp, ?_, ?_⟩
      · rintro _ ⟨⟩
        exact Nat.le_of_eq ((length_words_transfer ..).trans long.symm)
      · rw [length_words_transfer]
        exact transceived
  | @transferInPlace words received _ _ answered =>
      have whole := host.transferInPlace_eq bus words
      rw [answered, Option.map_some] at whole
      have enough : ∀ other ∈ some words, (Operation.transferInPlace words).words.length ≤
          other.length := by
        rintro _ ⟨⟩
        exact Nat.le_refl _
      exact ⟨some words, some words, some received, fun _ => Width.getElem?_outgoing, enough,
        enough, whole.symm⟩
  | delay | undrained => exact absurd rfl (transfers _)

/-- An operation leaves its events and nothing else, however it ends. -/
theorem Performed.operated (permissive : host.discipline = .permissive)
    (unselected : bus.stage ≠ .selected) {operation done : Operation w}
    (performed : operation.Performed host bus outcome done after) :
    ∃ events, operation.Operated host.controller outcome events ∧
      after = host.after events bus := by
  have exchanged (transfers : ∀ nanoseconds, operation ≠ .delay nanoseconds) :
      ∃ events, operation.Operated host.controller outcome events ∧
        after = host.after events bus := by
    obtain ⟨outgoing, incoming, final, asked, enoughOut, enoughIn, transceived⟩ :=
      performed.transceive transfers
    obtain ⟨events, shifted, left⟩ :=
      Host.transceive_unselected permissive unselected enoughOut enoughIn transceived
    exact ⟨events, .exchanged transfers asked shifted, left⟩
  cases performed with
  | delay drained =>
      obtain ⟨events, waited, rfl⟩ := Host.wait_waited drained
      exact ⟨_, .delayed waited, by rw [Host.elapse_eq, Host.after_after]⟩
  | undrained failed =>
      obtain ⟨events, waited, rfl⟩ := Host.wait_waited failed
      rcases waited.outcome_cases with ok | timeout
      · cases ok
      · cases timeout
        exact ⟨events, .undrained waited, rfl⟩
  | _ => exact exchanged nofun

/-- Operations leave their events and nothing else, up to the first that fails. -/
theorem PerformedInOrder.carried (permissive : host.discipline = .permissive)
    {operations done : List (Operation w)}
    (performed : PerformedInOrder host bus operations outcome done after)
    (unselected : bus.stage ≠ .selected) :
    ∃ events, Carried host.controller operations outcome events ∧
      after = host.after events bus := by
  induction performed with
  | nil => exact ⟨[], .done, rfl⟩
  | failed performed =>
      obtain ⟨events, operated, left⟩ := performed.operated permissive unselected
      exact ⟨events, .failed operated, left⟩
  | next performed _ ih =>
      obtain ⟨events, operated, rfl⟩ := performed.operated permissive unselected
      -- what is left of an operation does not select a device
      obtain ⟨later, carried, rfl⟩ := ih unselected
      exact ⟨_, .next operated carried, host.after_after ..⟩

end Operation

/-! ## Adapters -/

section Adapters

variable {host : Host ρ σ κ} {bus after : Bus ρ σ κ} {outcome : Outcome}
  {operations done : List (Operation w)}

/-- A transaction leaves its frame and nothing else: what its operations leave, and the wait
that follows them. -/
theorem Adapter.Course.Kept.frame {course : Adapter.Course ρ σ κ}
    (kept : course.Kept host operations bus outcome done after)
    (permissive : host.discipline = .permissive) (unselected : bus.stage ≠ .selected) :
    ∃ events waited, Operation.Carried host.controller operations course.carried events ∧
      Waited host.controller .txEmpty course.drained waited ∧
      host.flush (host.after (.adapter .low :: events) bus) =
        some (course.drained, host.after (.adapter .low :: (events ++ waited)) bus) ∧
      after = host.after (.adapter .low :: (events ++ waited ++ [.adapter .high])) bus := by
  obtain ⟨lowers, performs, flushes, raises, -, -⟩ := kept
  have lowered : course.lowered = host.after [.adapter .low] bus :=
    lowers.trans (host.note_adapter_eq ..)
  have loweredUnselected : course.lowered.stage ≠ .selected := by
    rw [lowered]
    exact unselected
  obtain ⟨events, grammar, performed⟩ := performs.carried permissive loweredUnselected
  rw [lowered, Host.after_after, List.singleton_append] at performed
  rw [performed] at flushes
  obtain ⟨waited, last, flushed⟩ := Host.wait_waited flushes
  rw [Host.after_after, List.cons_append] at flushed
  rw [flushed] at flushes raises
  rw [Host.note_adapter_eq, Host.after_after, List.cons_append] at raises
  exact ⟨events, waited, grammar, last, flushes, raises⟩

/-- The transactions of a host keep what an adapter promises. -/
theorem Host.transact_documented (host : Host ρ σ κ) :
    Adapter.Documented host (host.transact (w := w)) := by
  intro operations bus outcome done after result
  obtain ⟨carried, drained, mid, events, carriedOut, flushed, -, rfl, reported⟩ :=
    Host.transact_cases result
  refine ⟨⟨bus.note (.adapter .low), carried, mid, drained, host.after events mid⟩, ?_⟩
  exact {
    lowers := rfl
    performs := Host.performedInOrder_iff.2 carriedOut
    flushes := flushed
    raises := by rw [Host.note_adapter_eq, Host.after_after]
    reportsFailure := by
      rintro failure rfl
      rcases reported with ⟨same, -⟩ | ⟨-, completed⟩
      · exact same
      · cases completed
    reportsFlush := by
      rintro rfl
      rcases reported with ⟨-, failed⟩ | ⟨same, -⟩
      · exact absurd rfl failed
      · exact same }

/-- The promises leave an adapter no choice: what comes back from it comes back from the
host. -/
theorem Adapter.Documented.transact_eq {adapter : Adapter ρ σ κ w}
    (documented : Adapter.Documented host adapter)
    (result : adapter operations bus = some (outcome, done, after)) :
    host.transact operations bus = some (outcome, done, after) := by
  obtain ⟨⟨lowered, carried, performed, drained, flushed⟩, kept⟩ := documented _ _ _ _ _ result
  obtain rfl := kept.lowers
  obtain rfl := kept.raises
  rw [Host.transact, Host.performedInOrder_iff.1 kept.performs]
  dsimp only
  rw [kept.flushes]
  cases carried with
  | error failure =>
      rw [kept.reportsFailure failure rfl]
      rfl
  | ok =>
      rw [kept.reportsFlush rfl]
      rfl

end Adapters

/-- **A transaction sends its operations inside its frame.**  Take a host that refuses
nothing and a bus on which no device is selected; the adapter selects its own.  Take any
adapter that keeps what its documentation promises.  On every hardware, a transaction that
comes back drove the pin low, sent the units of its operations
up to the first that failed, waited for everything sent to leave the controller, and drove
the pin high; meanwhile the pin did not move, and the last wait sent nothing.  That wait
ended with a status read that reports the transmitter empty, or with its budget spent.  The
failure of an operation is reported, and without one that of the wait.  The stage of the
bus, its device and its lines are what they were. -/
theorem transact_sends_in_frame {backend : Backend} {host : Host backend.Register σ κ}
    (drives : host.controller = backend.controller) (shifts : host.controller.shifts w)
    (permissive : host.discipline = .permissive) {adapter : Adapter backend.Register σ κ w}
    (documented : Adapter.Documented host adapter) {bus after : Bus backend.Register σ κ}
    (unselected : bus.stage ≠ .selected) {operations done : List (Operation w)}
    {outcome : Outcome} (result : adapter operations bus = some (outcome, done, after)) :
    ∃ carried drained events waited,
      after.trace =
        bus.trace ++ .adapter .low :: (events ++ waited ++ [.adapter .high]) ∧
      (∀ event ∈ events ++ waited, ∀ level, event ≠ .adapter level) ∧
      backend.Sends operations carried
        ((Trace.sent host.controller events).map UInt32.toNat) ∧
      Trace.sent host.controller waited = [] ∧
      host.flush (host.after (.adapter .low :: events) bus) =
        some (drained, host.after (.adapter .low :: (events ++ waited)) bus) ∧
      ((drained = .ok () ∧ ∃ earlier status,
          waited = earlier ++ [.read host.controller.status status] ∧
          host.controller.reports .txEmpty status = true) ∨
        drained = .error (.timeout .txEmpty)) ∧
      (∀ failure, carried = .error failure → outcome = .error failure) ∧
      (carried = .ok () → outcome = drained) ∧
      after.stage = bus.stage ∧ after.up = bus.up ∧ after.configured = bus.configured ∧
      after.lines = bus.lines := by
  obtain ⟨course, kept⟩ := documented _ _ _ _ _ result
  obtain ⟨events, waited, grammar, last, flushed, rfl⟩ := kept.frame permissive unselected
  rw [drives] at shifts grammar last ⊢
  refine ⟨course.carried, course.drained, events, waited, Host.after_trace .., ?_,
    grammar.sends shifts, Trace.sent_of_waiting last.waiting, flushed, ?_, kept.reportsFailure,
    kept.reportsFlush, rfl, rfl, rfl, rfl⟩
  · intro event member
    rcases List.mem_append.1 member with operated | poll
    · exact grammar.ne_adapter event operated
    · exact (last.waiting event poll).ne_adapter
  · rcases last.outcome_cases with ok | timeout
    · rw [ok] at last
      obtain ⟨earlier, status, split, reports, -⟩ := last.last_of_ok
      exact .inl ⟨ok, earlier, status, split, reports⟩
    · exact .inr timeout

/-- Between other operations two bytes are sent while no answer comes, on a bus that a
fault was left on. -/
theorem transact_sends_in_frame_unheard :
    let bus : Bus Backend.standard.Register Unit Unit :=
      { hardware := (), lines := (), stage := .faulted }
    let operations : List (Operation .eight) := [.delay 5, .transmit [1, 2], .receive [0]]
    let adapter : Adapter Backend.standard.Register Unit Unit .eight :=
      Host.unheard.permissive.transact
    Adapter.Documented Host.unheard.permissive adapter ∧ ∃ after events waited,
      adapter operations bus = some (.error (.timeout .rxReady), operations, after) ∧
      after.trace = .adapter .low :: (events ++ waited ++ [.adapter .high]) ∧
      Backend.standard.Sends operations (.error (.timeout .rxReady))
        ((Trace.sent Host.unheard.permissive.controller events).map UInt32.toNat) ∧
      after.stage = .faulted := by
  intro bus operations adapter
  have documented : Adapter.Documented Host.unheard.permissive adapter :=
    Host.unheard.permissive.transact_documented
  have replied : (adapter operations bus).map
      (fun (outcome, done, _) => (outcome, done)) =
        some (.error (.timeout .rxReady), operations) := rfl
  obtain ⟨⟨outcome, done, after⟩, answered, same⟩ := Option.map_eq_some_iff.1 replied
  obtain ⟨rfl, rfl⟩ : outcome = .error (.timeout .rxReady) ∧ done = operations :=
    Prod.mk.inj same
  have drives : Host.unheard.permissive.controller = Backend.standard.controller := rfl
  have shifts : Host.unheard.permissive.controller.shifts .eight = true := rfl
  have permissive : Host.unheard.permissive.discipline = .permissive := rfl
  have unselected : bus.stage ≠ .selected := nofun
  obtain ⟨carried, drained, events, waited, trace, -, sends, -, -, ended, failed, completed,
    stage, -⟩ := transact_sends_in_frame drives shifts permissive documented unselected answered
  refine ⟨documented, after, events, waited, answered, trace, ?_, stage⟩
  cases carried with
  | ok =>
      -- the wait at the end cannot fail for want of an answer
      rcases ended with ⟨rfl, -⟩ | rfl
      · cases completed rfl
      · cases completed rfl
  | error failure =>
      cases failed failure rfl
      exact sends

end SerialBus
