import SubscriptionFields.Proofs.Polling
import SubscriptionFields.Proofs.StreamSteps
import SubscriptionFields.Service.Delivery

/-!
# What one step of a delivery can do

A step of a delivery takes one of nine paths. `step_outcome` lists them once, with what the delivery
was waiting for, where the step leads, and what is observed; no later proof looks into the step
again. A poll takes steps until one of them waits or stops: `poll_induction` is the induction along
it. Every step that does not stop brings the delivery down in a lexicographic order, in which the
steps that the stream has left come first and the polls that the sink still asks for come second.
Hence every delivery stops after some number of polls (`exists_pollUpTo_ready`).
-/

set_option autoImplicit false

namespace SubscriptionFields

/-- Whatever the field and the request, the value of an event is its payload. -/
@[simp] theorem OperationDescriptor.resolveValue_forEvent (field : OperationDescriptor)
    (ctx : RequestContext) (payload : SourceValue) :
    field.resolveValue (ctx.forEvent payload) = payload := rfl

namespace Delivery

/-! ## One step -/

/-- How a step of a delivery goes: where it leads and what is observed. -/
inductive StepOutcome (delivery : Delivery) : Turn → List Observation → Prop
  /-- The stream has nothing yet. -/
  | idle (rest : List (StreamStep SourceValue)) (after : SubscriptionStream)
      (phase : delivery.phase = .listening) (left : delivery.stream.steps = .pending :: rest)
      (others : after.steps = rest) (same : after.op = delivery.stream.op) :
      StepOutcome delivery (.wait { delivery with stream := after })
        [.streamPolled delivery.stream.op]
  /-- The stream has an element, and it is offered to the sink. -/
  | offered (value : SourceValue) (rest : List (StreamStep SourceValue))
      (after : SubscriptionStream) (phase : delivery.phase = .listening)
      (left : delivery.stream.steps = .item value :: rest) (others : after.steps = rest)
      (same : after.op = delivery.stream.op) :
      StepOutcome delivery
        (.advance { delivery with
          stream := after
          phase := .offering value (delivery.sink.publish delivery.taken value) })
        [.streamPolled delivery.stream.op]
  /-- The stream fails, and the sink is about to be told. -/
  | broken (error : FieldError) (rest : List (StreamStep SourceValue))
      (after : SubscriptionStream) (phase : delivery.phase = .listening)
      (left : delivery.stream.steps = .failure error :: rest) (others : after.steps = rest)
      (same : after.op = delivery.stream.op) :
      StepOutcome delivery
        (.advance { delivery with
          stream := after
          phase := .reporting error (delivery.sink.onError delivery.taken error) })
        [.streamPolled delivery.stream.op]
  /-- The stream is at its end. -/
  | ended (phase : delivery.phase = .listening)
      (left : delivery.stream.steps = [] ∨ ∃ rest, delivery.stream.steps = .finish :: rest) :
      StepOutcome delivery (.stop (.completed delivery.delivered))
        [.streamPolled delivery.stream.op, .streamDropped delivery.stream.op]
  /-- The sink keeps the delivery waiting with a value. -/
  | held (value : SourceValue) (waits : Nat) (refusal : Option String)
      (phase : delivery.phase = .offering value { suspensions := waits + 1, refusal }) :
      StepOutcome delivery
        (.wait { delivery with phase := .offering value { suspensions := waits, refusal } }) []
  /-- The sink takes a value. -/
  | taken (value : SourceValue)
      (phase : delivery.phase = .offering value { suspensions := 0, refusal := none }) :
      StepOutcome delivery
        (.advance { delivery with taken := delivery.taken ++ [value], phase := .listening })
        [.published value]
  /-- The sink refuses a value. -/
  | refused (value : SourceValue) (error : String)
      (phase : delivery.phase = .offering value { suspensions := 0, refusal := some error }) :
      StepOutcome delivery (.stop (.sinkClosed delivery.delivered))
        [.refused value, .streamDropped delivery.stream.op]
  /-- The sink keeps the delivery waiting with a failure. -/
  | listened (error : FieldError) (waits : Nat)
      (phase : delivery.phase = .reporting error (waits + 1)) :
      StepOutcome delivery (.wait { delivery with phase := .reporting error waits }) []
  /-- The sink has taken note of a failure. -/
  | told (error : FieldError) (phase : delivery.phase = .reporting error 0) :
      StepOutcome delivery (.stop (.failed delivery.delivered))
        [.reported error, .streamDropped delivery.stream.op]

/-- Logging the progress of a delivery is not observed. -/
@[simp] theorem observations_logProgress (delivery : Delivery) (level : Level) (message : String)
    (fields : List LogField) : (delivery.logProgress level message fields).observations = [] := rfl

/-- A step of a delivery that listens goes by what the stream has left. -/
theorem step_outcome_of_listening {delivery : Delivery} (phase : delivery.phase = .listening) :
    StepOutcome delivery delivery.step.value delivery.step.observations := by
  cases left : delivery.stream.steps with
  | nil =>
    have found := delivery.stream.value_poll.trans (SubscriptionStream.next_of_nil left)
    have path := StepOutcome.ended phase (.inl left)
    simpa [step, phase, found, finish, delivered] using path
  | cons step rest =>
    obtain ⟨after, next, others, same⟩ := SubscriptionStream.next_of_cons left
    have found := delivery.stream.value_poll.trans next
    cases step with
    | pending =>
      have path := StepOutcome.idle rest after phase left others same
      simpa [Delivery.step, phase, found, StreamStep.answer] using path
    | item value =>
      have path := StepOutcome.offered value rest after phase left others same
      simpa [Delivery.step, phase, found, StreamStep.answer] using path
    | failure error =>
      have path := StepOutcome.broken error rest after phase left others same
      simpa [Delivery.step, phase, found, StreamStep.answer] using path
    | finish =>
      have path := StepOutcome.ended phase (.inr ⟨rest, left⟩)
      simpa [Delivery.step, phase, found, StreamStep.answer, finish, delivered, same] using path

/-- Every step of a delivery takes one of the nine paths. -/
theorem step_outcome (delivery : Delivery) :
    StepOutcome delivery delivery.step.value delivery.step.observations := by
  cases phase : delivery.phase with
  | listening => exact step_outcome_of_listening phase
  | offering value reply =>
    obtain ⟨suspensions, refusal⟩ := reply
    cases suspensions with
    | succ waits => simpa [step, phase] using StepOutcome.held value waits refusal phase
    | zero =>
      cases refusal with
      | none => simpa [step, phase] using StepOutcome.taken value phase
      | some error => simpa [step, phase, finish] using StepOutcome.refused value error phase
  | reporting error suspensions =>
    cases suspensions with
    | succ waits => simpa [step, phase] using StepOutcome.listened error waits phase
    | zero => simpa [step, phase, finish] using StepOutcome.told error phase

/-! ## One poll -/

/-- For how many more polls the sink keeps the delivery waiting. -/
def waits (delivery : Delivery) : Nat :=
  match delivery.phase with
  | .listening => 0
  | .offering _ reply => reply.suspensions
  | .reporting _ suspensions => suspensions

section

variable {delivery next : Delivery} {outcome : DriveOutcome}

/-- A step that goes on belongs to the same poll as what follows. -/
theorem poll_of_advance (turn : delivery.step.value = .advance next) :
    delivery.poll =
      { value := next.poll.value, notes := delivery.step.notes ++ next.poll.notes } := by
  rw [poll]
  split <;> simp_all

/-- A step that waits ends the poll. -/
theorem poll_of_wait (turn : delivery.step.value = .wait next) :
    delivery.poll = { value := .pending next, notes := delivery.step.notes } := by
  rw [poll]
  split <;> simp_all

/-- A step that stops ends the delivery. -/
theorem poll_of_stop (turn : delivery.step.value = .stop outcome) :
    delivery.poll = { value := .ready outcome, notes := delivery.step.notes } := by
  rw [poll]
  split <;> simp_all

end

/-- What is true of a poll that ends with its first step, and of a poll that goes on if it is true
of what goes on, is true of every poll. -/
theorem poll_induction
    {motive : Delivery → Progress Delivery DriveOutcome → List Observation → Prop}
    (advance : ∀ delivery next found observed, delivery.step.value = .advance next →
      motive next found observed → motive delivery found (delivery.step.observations ++ observed))
    (wait : ∀ delivery next, delivery.step.value = .wait next →
      motive delivery (.pending next) delivery.step.observations)
    (stop : ∀ delivery outcome, delivery.step.value = .stop outcome →
      motive delivery (.ready outcome) delivery.step.observations)
    (delivery : Delivery) : motive delivery delivery.poll.value delivery.poll.observations := by
  cases turn : delivery.step.value with
  | advance next =>
    have rest := poll_induction advance wait stop next
    rw [poll_of_advance turn]
    simp only [Noted.observations, List.filterMap_append]
    exact advance delivery next _ _ turn rest
  | wait next =>
    rw [poll_of_wait turn]
    exact wait delivery next turn
  | stop outcome =>
    rw [poll_of_stop turn]
    exact stop delivery outcome turn
termination_by delivery.measure
decreasing_by exact measure_step turn

/-! ## The end of a delivery -/

/-- One delivery comes before another if its stream has fewer steps left or, with as many left,
its sink asks for fewer polls. -/
def Before (first second : Delivery) : Prop :=
  first.measure < second.measure ∨ first.measure = second.measure ∧ first.waits < second.waits

/-- What uses up a step of the stream comes before everything that was before. -/
theorem Before.trans_advance {first second third : Delivery} (before : Before first second)
    (less : second.measure < third.measure) : Before first third := by
  unfold Before at *
  omega

/-- A step that waits uses up a step of the stream or a poll that the sink asked for. -/
theorem before_of_wait {delivery next : Delivery} (turn : delivery.step.value = .wait next) :
    Before next delivery := by
  have path := delivery.step_outcome
  rw [turn] at path
  generalize delivery.step.observations = observed at path
  cases path with
  | idle rest after phase left others same =>
    -- the only wait that uses up a step of the stream; the others use up a poll of the sink
    refine .inl ?_
    simp only [measure, phase, SubscriptionStream.remaining_eq_length, others, left,
      List.length_cons]
    omega
  | held value waits refusal phase => exact .inr (by simp [measure, Delivery.waits, phase])
  | listened error waits phase => exact .inr (by simp [measure, Delivery.waits, phase])

/-- Whatever a poll leaves comes before what was polled. -/
theorem before_of_pending {delivery next : Delivery}
    (found : delivery.poll.value = .pending next) : Before next delivery := by
  refine poll_induction
    (motive := fun delivery found _ => ∀ next, found = .pending next → Before next delivery)
    ?_ ?_ ?_ delivery next found
  · intro delivery second found _ turn later next waiting
    exact (later next waiting).trans_advance (measure_step turn)
  · rintro delivery _ turn next ⟨⟩
    exact before_of_wait turn
  · rintro delivery outcome _ next ⟨⟩

/-- Every delivery stops after some number of polls. -/
theorem exists_pollUpTo_ready (delivery : Delivery) :
    ∃ count outcome, (pollUpTo poll count delivery).value = .ready outcome := by
  cases found : delivery.poll.value with
  | ready outcome => exact ⟨1, outcome, by rw [pollUpTo_of_ready found]⟩
  | pending next =>
    obtain ⟨count, outcome, done⟩ := exists_pollUpTo_ready next
    refine ⟨count + 1, outcome, ?_⟩
    rw [pollUpTo_of_pending found]
    exact done
termination_by (delivery.measure, delivery.waits)
decreasing_by
  rcases before_of_pending found with less | ⟨same, less⟩
  · exact Prod.Lex.left _ _ less
  · rw [same]
    exact Prod.Lex.right _ less

end Delivery

end SubscriptionFields
