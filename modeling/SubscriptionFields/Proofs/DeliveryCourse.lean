import SubscriptionFields.Proofs.DeliveryRun

/-!
# The course of a delivery

A delivery goes through the steps of its stream up to the first that stops it: the end of the
stream, a failure, or an element that the sink refuses. `Sink.Cut` cuts the steps there, and every
list of steps has such a cut (`exists_cut`).

The cut tells the whole course. Each step in front of it is polled for and its element, if it has
one, is published; then the stop is met, and the stream is dropped. In between the delivery is
pending once for each step that has nothing yet and as often as the sink asks for. Nothing else is
observed, and the delivery stops at just that poll (`comes_of_cut`, by induction on the steps in
front of the cut, with one lemma for each kind of step).
-/

set_option autoImplicit false

namespace SubscriptionFields

/-! ## Steps and stops -/

namespace StreamStep

variable {α : Type}

def item? : StreamStep α → Option α
  | .item value => some value
  | _ => none

/-- The elements among some steps. -/
def items (steps : List (StreamStep α)) : List α :=
  steps.filterMap item?

/-- The items of a first step come in front of the others. -/
theorem items_cons (step : StreamStep α) (steps : List (StreamStep α)) :
    items (step :: steps) = step.item?.toList ++ items steps := by
  cases step <;> rfl

/-- What is observed of a step that does not stop the delivery. -/
def passed (op : String) : StreamStep SourceValue → List Observation
  | .item value => [.streamPolled op, .published value]
  | _ => [.streamPolled op]

end StreamStep

open StreamStep

/-- What stops a delivery. -/
inductive Stop where
  | ended
  | broken (error : FieldError)
  | refused (value : SourceValue)

namespace Stop

/-- What is observed as the stop is met and after it. -/
def closing (op : String) : Stop → List Observation
  | .ended => [.streamPolled op, .streamDropped op]
  | .broken error => [.streamPolled op, .reported error, .streamDropped op]
  | .refused value => [.streamPolled op, .refused value, .streamDropped op]

/-- All that is observed of a delivery that passes some steps and then stops. -/
def course (stop : Stop) (op : String) (before : List (StreamStep SourceValue)) :
    List Observation :=
  before.flatMap (passed op) ++ stop.closing op

/-- The outcome of a delivery that stops after so many values were taken. -/
def outcome (delivered : Nat) : Stop → DriveOutcome
  | .ended => .completed delivered
  | .broken _ => .failed delivered
  | .refused _ => .sinkClosed delivered

end Stop

namespace Sink

/-- Whether a step stops a delivery whose sink has taken some values, and how. -/
def stop? (sink : Sink) (taken : List SourceValue) : StreamStep SourceValue → Option Stop
  | .pending => none
  | .item value => (sink.publish taken value).refusal.map fun _ => .refused value
  | .failure error => some (.broken error)
  | .finish => some .ended

/-- The steps of a stream are cut at the first that stops the delivery. If none does, the stream is
at its end behind the last of them. -/
structure Cut (sink : Sink) (taken : List SourceValue)
    (steps before rest : List (StreamStep SourceValue)) (stop : Stop) : Prop where
  split : (steps = before ∧ rest = [] ∧ stop = .ended) ∨
    ∃ step, steps = before ++ step :: rest ∧ sink.stop? (taken ++ items before) step = some stop
  first : ∀ earlier step later, before = earlier ++ step :: later →
    sink.stop? (taken ++ items earlier) step = none

section

variable {sink : Sink} {taken : List SourceValue} {step : StreamStep SourceValue}
  {steps before rest : List (StreamStep SourceValue)} {stop : Stop}

/-- At a step that stops the delivery, nothing is in front of the cut. -/
theorem cut_of_stop (stops : sink.stop? taken step = some stop) :
    sink.Cut taken (step :: rest) [] rest stop where
  split := by
    refine .inr ⟨step, rfl, ?_⟩
    simpa [items] using stops
  first earlier other later cut := by simp at cut

/-- A step at which the delivery goes on comes in front of the cut of the rest. -/
theorem Cut.cons (goesOn : sink.stop? taken step = none)
    (cut : sink.Cut (taken ++ step.item?.toList) steps before rest stop) :
    sink.Cut taken (step :: steps) (step :: before) rest stop where
  split := by
    rcases cut.split with ⟨rfl, ends⟩ | ⟨last, rfl, stops⟩
    · exact .inl ⟨rfl, ends⟩
    · refine .inr ⟨last, rfl, ?_⟩
      rw [items_cons, ← List.append_assoc]
      exact stops
  first earlier other later split := by
    cases earlier with
    | nil =>
      obtain ⟨rfl, -⟩ := List.cons.inj split
      simpa [items] using goesOn
    | cons own earlier =>
      obtain ⟨rfl, behind⟩ := List.cons.inj split
      rw [items_cons, ← List.append_assoc]
      exact cut.first earlier other later behind

/-- Behind the first step of a cut, the rest is cut at the same stop. -/
theorem Cut.of_cons (cut : sink.Cut taken steps (step :: before) rest stop) :
    ∃ others, steps = step :: others ∧ sink.stop? taken step = none ∧
      sink.Cut (taken ++ step.item?.toList) others before rest stop := by
  have goesOn : sink.stop? taken step = none := by
    simpa [items] using cut.first [] step before rfl
  have first : ∀ earlier other later, before = earlier ++ other :: later →
      sink.stop? (taken ++ step.item?.toList ++ items earlier) other = none := by
    intro earlier other later split
    have next := cut.first (step :: earlier) other later (congrArg (step :: ·) split)
    rw [items_cons, ← List.append_assoc] at next
    exact next
  rcases cut.split with ⟨rfl, ends⟩ | ⟨last, rfl, stops⟩
  · exact ⟨before, rfl, goesOn, .inl ⟨rfl, ends⟩, first⟩
  · rw [items_cons, ← List.append_assoc] at stops
    exact ⟨before ++ last :: rest, rfl, goesOn, .inr ⟨last, rfl, stops⟩, first⟩

end

/-- All steps can be cut at their first stop. -/
theorem exists_cut (sink : Sink) (taken : List SourceValue)
    (steps : List (StreamStep SourceValue)) :
    ∃ before rest stop, sink.Cut taken steps before rest stop := by
  induction steps generalizing taken with
  | nil => exact ⟨[], [], .ended, .inl ⟨rfl, rfl, rfl⟩, fun _ _ _ cut => by simp at cut⟩
  | cons step steps ih =>
    cases stops : sink.stop? taken step with
    | some stop => exact ⟨[], steps, stop, cut_of_stop stops⟩
    | none =>
      obtain ⟨before, rest, stop, cut⟩ := ih (taken ++ step.item?.toList)
      exact ⟨step :: before, rest, stop, cut.cons stops⟩

/-! ## Waiting -/

/-- For how many polls a step that does not stop the delivery keeps it waiting. -/
def stepWaits (sink : Sink) (taken : List SourceValue) : StreamStep SourceValue → Nat
  | .pending => 1
  | .item value => (sink.publish taken value).suspensions
  | _ => 0

def stopWaits (sink : Sink) (taken : List SourceValue) : Stop → Nat
  | .ended => 0
  | .broken error => sink.onError taken error
  | .refused value => (sink.publish taken value).suspensions

/-- For how many polls a delivery is kept waiting up to its stop. -/
def waits (sink : Sink) (stop : Stop) :
    List SourceValue → List (StreamStep SourceValue) → Nat
  | taken, [] => sink.stopWaits taken stop
  | taken, step :: before =>
    sink.stepWaits taken step + sink.waits stop (taken ++ step.item?.toList) before

end Sink

/-! ## Coming to an end -/

namespace Delivery

/-- A delivery is pending for that many polls and stops with the next one, and that is all that is
observed of it. -/
structure Comes (delivery : Delivery) (waits : Nat) (observed : List Observation)
    (outcome : DriveOutcome) : Prop where
  answers : AnswersAfter poll delivery waits outcome
  observed_eq : ∀ count, waits < count → (pollUpTo poll count delivery).observations = observed

section

variable {delivery next : Delivery} {waits : Nat} {observed : List Observation}
  {outcome : DriveOutcome}

/-- A step that stops leaves nothing to wait for. -/
theorem comes_of_stop (turn : delivery.step.value = .stop outcome) :
    delivery.Comes 0 delivery.step.observations outcome := by
  have polled := poll_of_stop turn
  have found : delivery.poll.value = .ready outcome := by rw [polled]
  refine ⟨answersAfter_of_ready found, ?_⟩
  intro count beyond
  obtain ⟨count, rfl⟩ := Nat.exists_eq_add_one.2 beyond
  rw [pollUpTo_of_ready found, polled]
  rfl

/-- A step that waits takes one poll more. -/
theorem comes_of_wait (turn : delivery.step.value = .wait next)
    (rest : next.Comes waits observed outcome) :
    delivery.Comes (waits + 1) (delivery.step.observations ++ observed) outcome := by
  have polled := poll_of_wait turn
  have found : delivery.poll.value = .pending next := by rw [polled]
  refine ⟨answersAfter_of_pending found rest.answers, ?_⟩
  intro count beyond
  cases count with
  | zero => cases beyond
  | succ count =>
    rw [observations_pollUpTo_of_pending found, rest.observed_eq count (by omega), polled]
    rfl

/-- Polling goes on within the same poll as long as steps advance. -/
theorem pollUpTo_of_advance (turn : delivery.step.value = .advance next) (count : Nat) :
    pollUpTo poll (count + 1) delivery =
      { value := (pollUpTo poll (count + 1) next).value
        notes := delivery.step.notes ++ (pollUpTo poll (count + 1) next).notes } := by
  have polled := poll_of_advance turn
  cases found : next.poll.value with
  | pending later =>
    have same : delivery.poll.value = .pending later := by rw [polled, found]
    rw [pollUpTo_of_pending same, pollUpTo_of_pending found, polled]
    simp
  | ready outcome =>
    have same : delivery.poll.value = .ready outcome := by rw [polled, found]
    rw [pollUpTo_of_ready same, pollUpTo_of_ready found, polled]

/-- A step that goes on belongs to the same poll as what follows. -/
theorem comes_of_advance (turn : delivery.step.value = .advance next)
    (rest : next.Comes waits observed outcome) :
    delivery.Comes waits (delivery.step.observations ++ observed) outcome := by
  refine ⟨⟨?_, ?_⟩, ?_⟩
  · intro count within
    cases count with
    | zero => exact ⟨delivery, rfl⟩
    | succ count =>
      rw [pollUpTo_of_advance turn]
      exact rest.answers.pending (count + 1) within
  · intro count beyond
    obtain ⟨count, rfl⟩ := Nat.exists_eq_add_one.2 (Nat.zero_lt_of_lt beyond)
    rw [pollUpTo_of_advance turn]
    exact rest.answers.ready (count + 1) beyond
  · intro count beyond
    obtain ⟨count, rfl⟩ := Nat.exists_eq_add_one.2 (Nat.zero_lt_of_lt beyond)
    rw [pollUpTo_of_advance turn, ← rest.observed_eq (count + 1) beyond]
    exact List.filterMap_append

/-- A delivery that waits a number of times in silence before it goes on. -/
theorem comes_of_held {held : Nat → Delivery}
    (turn : ∀ left, (held (left + 1)).step.value = .wait (held left))
    (silent : ∀ left, (held (left + 1)).step.observations = [])
    (rest : (held 0).Comes waits observed outcome) (left : Nat) :
    (held left).Comes (left + waits) observed outcome := by
  induction left with
  | zero => simpa using rest
  | succ left ih =>
    have more := comes_of_wait (turn left) ih
    rw [silent, List.nil_append] at more
    have count : left + 1 + waits = left + waits + 1 := by omega
    rw [count]
    exact more

end

/-! ## One kind of step after the other -/

/-- Where a delivery turns that listened and has met a step of its stream. -/
def turnAt (delivery : Delivery) : StreamStep SourceValue → Turn
  | .pending => .wait delivery
  | .item value => .advance
      { delivery with phase := .offering value (delivery.sink.publish delivery.taken value) }
  | .failure error => .advance
      { delivery with phase := .reporting error (delivery.sink.onError delivery.taken error) }
  | .finish => .stop (.completed delivery.delivered)

section

variable {delivery : Delivery} {rest : List (StreamStep SourceValue)} {waits : Nat}
  {observed : List Observation} {outcome : DriveOutcome}

/-- A delivery that listens polls its stream, and turns as the first step says. -/
theorem step_of_listening (phase : delivery.phase = .listening) {step : StreamStep SourceValue}
    (left : delivery.stream.steps = step :: rest) (goesOn : step ≠ .finish) :
    ∃ after : SubscriptionStream, after.steps = rest ∧ after.op = delivery.stream.op ∧
      delivery.step.observations = [.streamPolled delivery.stream.op] ∧
      delivery.step.value = turnAt { delivery with stream := after } step := by
  have path := step_outcome_of_listening phase
  generalize delivery.step.value = turn at path ⊢
  generalize delivery.step.observations = seen at path ⊢
  cases path with
  | idle others after _ own behind same =>
    cases left.symm.trans own
    exact ⟨after, behind, same, rfl, rfl⟩
  | offered value others after _ own behind same =>
    cases left.symm.trans own
    exact ⟨after, behind, same, rfl, rfl⟩
  | broken error others after _ own behind same =>
    cases left.symm.trans own
    exact ⟨after, behind, same, rfl, rfl⟩
  | ended _ ends =>
    rcases ends with none | ⟨others, own⟩
    · cases left.symm.trans none
    · cases left.symm.trans own
      exact absurd rfl goesOn
  -- on the other paths the delivery does not listen
  | held _ _ _ other | taken _ other | refused _ _ other | listened _ _ other | told _ other =>
    cases phase.symm.trans other

/-- At the end of its stream a delivery comes to its end at once. -/
theorem comes_of_end (phase : delivery.phase = .listening)
    (ends : delivery.stream.steps = [] ∨ ∃ rest, delivery.stream.steps = .finish :: rest) :
    delivery.Comes 0 (Stop.ended.closing delivery.stream.op)
      (Stop.ended.outcome delivery.taken.length) := by
  have path := step_outcome_of_listening phase
  generalize turn : delivery.step.value = found at path
  generalize seen : delivery.step.observations = observed at path
  cases path with
  | ended =>
    have comes := comes_of_stop turn
    rw [seen] at comes
    exact comes
  | idle _ _ _ own | offered _ _ _ _ own | broken _ _ _ _ own =>
    rcases ends with none | ⟨others, last⟩
    · cases none.symm.trans own
    · cases last.symm.trans own
  | held _ _ _ other | taken _ other | refused _ _ other | listened _ _ other | told _ other =>
    cases phase.symm.trans other

/-- A stream that has nothing yet keeps its delivery waiting for one poll. -/
theorem comes_of_pending (phase : delivery.phase = .listening)
    (left : delivery.stream.steps = .pending :: rest)
    (goesOn : ∀ after : SubscriptionStream, after.steps = rest → after.op = delivery.stream.op →
      Comes { delivery with stream := after } waits observed outcome) :
    delivery.Comes (waits + 1) (.streamPolled delivery.stream.op :: observed) outcome := by
  obtain ⟨after, others, same, seen, turn⟩ := step_of_listening phase left nofun
  have comes := comes_of_wait turn (goesOn after others same)
  rw [seen] at comes
  exact comes

/-- A stream that breaks is reported, and its delivery comes to the broken stop. -/
theorem comes_of_failure {error : FieldError} (phase : delivery.phase = .listening)
    (left : delivery.stream.steps = .failure error :: rest) :
    delivery.Comes (delivery.sink.stopWaits delivery.taken (.broken error))
      ((Stop.broken error).closing delivery.stream.op)
      ((Stop.broken error).outcome delivery.taken.length) := by
  obtain ⟨after, -, same, seen, turn⟩ := step_of_listening phase left nofun
  let held (left : Nat) : Delivery :=
    { delivery with stream := after, phase := .reporting error left }
  have told : (held 0).Comes 0 [.reported error, .streamDropped delivery.stream.op]
      (.failed delivery.taken.length) := by
    have last : (held 0).step.value = .stop (.failed delivery.taken.length) := rfl
    have dropped : (held 0).step.observations =
        [.reported error, .streamDropped delivery.stream.op] := by
      simp [held, step, finish, same]
    have comes := comes_of_stop last
    rw [dropped] at comes
    exact comes
  have waiting : ∀ left, (held (left + 1)).step.value = .wait (held left) := fun _ => rfl
  have reported := comes_of_held waiting (fun _ => rfl) told
    (delivery.sink.onError delivery.taken error)
  have comes := comes_of_advance turn reported
  rw [seen] at comes
  exact comes

/-- An element is offered with the reply that the sink has for it. -/
theorem offers_of_item {value : SourceValue} {refusal : Option String}
    (phase : delivery.phase = .listening) (left : delivery.stream.steps = .item value :: rest)
    (replies : (delivery.sink.publish delivery.taken value).refusal = refusal) :
    ∃ after : SubscriptionStream, after.steps = rest ∧ after.op = delivery.stream.op ∧
      delivery.step.observations = [.streamPolled delivery.stream.op] ∧
      delivery.step.value = .advance { delivery with
        stream := after
        phase := .offering value
          { suspensions := (delivery.sink.publish delivery.taken value).suspensions
            refusal } } := by
  subst replies
  exact step_of_listening phase left nofun

/-- A value that the sink refuses ends the delivery. -/
theorem comes_of_refused {value : SourceValue} {error : String}
    (phase : delivery.phase = .listening) (left : delivery.stream.steps = .item value :: rest)
    (refused : (delivery.sink.publish delivery.taken value).refusal = some error) :
    delivery.Comes (delivery.sink.stopWaits delivery.taken (.refused value))
      ((Stop.refused value).closing delivery.stream.op)
      ((Stop.refused value).outcome delivery.taken.length) := by
  obtain ⟨after, -, same, seen, turn⟩ := offers_of_item phase left refused
  let held (left : Nat) : Delivery :=
    { delivery with
      stream := after
      phase := .offering value { suspensions := left, refusal := some error } }
  have closed : (held 0).Comes 0 [.refused value, .streamDropped delivery.stream.op]
      (.sinkClosed delivery.taken.length) := by
    have last : (held 0).step.value = .stop (.sinkClosed delivery.taken.length) := rfl
    have dropped : (held 0).step.observations =
        [.refused value, .streamDropped delivery.stream.op] := by
      simp [held, step, finish, same]
    have comes := comes_of_stop last
    rw [dropped] at comes
    exact comes
  have waiting : ∀ left, (held (left + 1)).step.value = .wait (held left) := fun _ => rfl
  have offered := comes_of_held waiting (fun _ => rfl) closed
    (delivery.sink.publish delivery.taken value).suspensions
  have comes := comes_of_advance turn offered
  rw [seen] at comes
  exact comes

/-- A value that the sink takes is published, and the delivery goes on behind it. -/
theorem comes_of_accepted {value : SourceValue} (phase : delivery.phase = .listening)
    (left : delivery.stream.steps = .item value :: rest)
    (accepted : (delivery.sink.publish delivery.taken value).refusal = none)
    (goesOn : ∀ after : SubscriptionStream, after.steps = rest → after.op = delivery.stream.op →
      Comes { delivery with stream := after, taken := delivery.taken ++ [value] } waits observed
        outcome) :
    delivery.Comes ((delivery.sink.publish delivery.taken value).suspensions + waits)
      (.streamPolled delivery.stream.op :: .published value :: observed) outcome := by
  obtain ⟨after, others, same, seen, turn⟩ := offers_of_item phase left accepted
  let held (left : Nat) : Delivery :=
    { delivery with
      stream := after
      phase := .offering value { suspensions := left, refusal := none } }
  have takes : (held 0).step.value =
      .advance { held 0 with taken := delivery.taken ++ [value], phase := .listening } := rfl
  have next := goesOn after others same
  rw [phase] at next
  have published := comes_of_advance takes next
  have waiting : ∀ left, (held (left + 1)).step.value = .wait (held left) := fun _ => rfl
  have offered := comes_of_held waiting (fun _ => rfl) published
    (delivery.sink.publish delivery.taken value).suspensions
  have comes := comes_of_advance turn offered
  rw [seen] at comes
  exact comes

end

/-- A step that stops the delivery brings it to its end. -/
theorem comes_of_met {delivery : Delivery} {step : StreamStep SourceValue}
    {rest : List (StreamStep SourceValue)} {stop : Stop} (phase : delivery.phase = .listening)
    (left : delivery.stream.steps = step :: rest)
    (stops : delivery.sink.stop? delivery.taken step = some stop) :
    delivery.Comes (delivery.sink.stopWaits delivery.taken stop)
      (stop.closing delivery.stream.op) (stop.outcome delivery.taken.length) := by
  cases step with
  | pending => cases stops
  | item value =>
    obtain ⟨error, refused, rfl⟩ := Option.map_eq_some_iff.1 stops
    exact comes_of_refused phase left refused
  | failure error =>
    cases stops
    exact comes_of_failure phase left
  | finish =>
    cases stops
    exact comes_of_end phase (.inr ⟨rest, left⟩)

/-- A delivery that listens takes the course that its cut tells. -/
theorem comes_of_cut {delivery : Delivery} {steps before rest : List (StreamStep SourceValue)}
    {stop : Stop} (phase : delivery.phase = .listening) (left : delivery.stream.steps = steps)
    (cut : delivery.sink.Cut delivery.taken steps before rest stop) :
    delivery.Comes (delivery.sink.waits stop delivery.taken before)
      (stop.course delivery.stream.op before)
      (stop.outcome (delivery.taken ++ items before).length) := by
  induction before generalizing delivery steps with
  | nil =>
    have taken : delivery.taken ++ items [] = delivery.taken := List.append_nil _
    rw [taken]
    rcases cut.split with ⟨rfl, -, rfl⟩ | ⟨step, rfl, stops⟩
    · exact comes_of_end phase (.inl left)
    · rw [taken] at stops
      exact comes_of_met phase left stops
  | cons step before ih =>
    -- the rest is cut by what is taken then, which is what the delivery has taken by then
    obtain ⟨others, rfl, goesOn, later⟩ := cut.of_cons
    rw [items_cons, ← List.append_assoc]
    cases step with
    | pending =>
      replace later : delivery.sink.Cut delivery.taken others before rest stop := by
        simpa [item?] using later
      have next : ∀ after : SubscriptionStream, after.steps = others →
          after.op = delivery.stream.op → Comes { delivery with stream := after }
            (delivery.sink.waits stop delivery.taken before)
            (stop.course delivery.stream.op before)
            (stop.outcome (delivery.taken ++ items before).length) := by
        intro after behind same
        have listens : Delivery.phase { delivery with stream := after } = .listening := phase
        rw [← same]
        exact ih listens behind later
      have comes := comes_of_pending phase left next
      simpa [Sink.waits, Sink.stepWaits, item?, Stop.course, passed, Nat.add_comm] using comes
    | item value =>
      have accepted : (delivery.sink.publish delivery.taken value).refusal = none :=
        Option.map_eq_none_iff.1 goesOn
      have next : ∀ after : SubscriptionStream, after.steps = others →
          after.op = delivery.stream.op →
          Comes { delivery with stream := after, taken := delivery.taken ++ [value] }
            (delivery.sink.waits stop (delivery.taken ++ [value]) before)
            (stop.course delivery.stream.op before)
            (stop.outcome (delivery.taken ++ [value] ++ items before).length) := by
        intro after behind same
        have listens : Delivery.phase
            { delivery with stream := after, taken := delivery.taken ++ [value] } = .listening :=
          phase
        rw [← same]
        exact ih listens behind later
      exact comes_of_accepted phase left accepted next
    | failure error => cases goesOn
    | finish => cases goesOn

end Delivery

end SubscriptionFields
