import SubscriptionFields.Streaming.Subscription

/-!
# What a stream yields

The steps of a stream say what its polls will find. Up to the first failure or the first end, its
elements are what the stream yields. The steps of a canonical stream are those of the stream inside,
with the elements passed on as objects, so it yields the passed on elements, in the same order, and
ends where the stream inside does (`yielded_map`, `failure?_map`).
-/

set_option autoImplicit false

namespace SubscriptionFields

variable {α β : Type}

/-! ## Steps -/

namespace StreamStep

def answer : StreamStep α → StreamAnswer α
  | .pending => .pending
  | .item value => .item value
  | .failure error => .failure error
  | .finish => .ended

def map (convert : α → β) : StreamStep α → StreamStep β
  | .pending => .pending
  | .item value => .item (convert value)
  | .failure error => .failure error
  | .finish => .finish

/-- A converted step has the converted answer. -/
theorem answer_map (convert : α → β) (step : StreamStep α) :
    (step.map convert).answer = step.answer.map convert := by
  cases step <;> rfl

/-- The elements up to the first failure or end. -/
def yielded : List (StreamStep α) → List α
  | [] => []
  | .pending :: steps => yielded steps
  | .item value :: steps => value :: yielded steps
  | .failure _ :: _ => []
  | .finish :: _ => []

/-- The failure behind these elements, if there is one in front of the end. -/
def failure? : List (StreamStep α) → Option FieldError
  | [] => none
  | .pending :: steps => failure? steps
  | .item _ :: steps => failure? steps
  | .failure error :: _ => some error
  | .finish :: _ => none

/-- Converted steps yield the converted values. -/
theorem yielded_map (convert : α → β) (steps : List (StreamStep α)) :
    yielded (steps.map (map convert)) = (yielded steps).map convert := by
  induction steps with
  | nil => rfl
  | cons step steps ih =>
    cases step with
    | pending => exact ih
    | item value => exact congrArg (convert value :: ·) ih
    | failure error => rfl
    | finish => rfl

/-- Converting steps does not change the error at which they break. -/
theorem failure?_map (convert : α → β) (steps : List (StreamStep α)) :
    failure? (steps.map (map convert)) = failure? steps := by
  induction steps with
  | nil => rfl
  | cons step steps ih =>
    cases step with
    | pending => exact ih
    | item value => exact ih
    | failure error => rfl
    | finish => rfl

end StreamStep

/-! ## Polls -/

namespace EventStream

/-- A stream without steps has ended, and stays as it is. -/
theorem next_of_nil {stream : EventStream α} (done : stream.steps = []) :
    stream.next = (.ended, stream) := by
  simp [next, done]

/-- A stream with steps answers its first step and goes on with the rest. -/
theorem next_of_cons {stream : EventStream α} {step : StreamStep α} {rest : List (StreamStep α)}
    (left : stream.steps = step :: rest) :
    stream.next = (step.answer, { stream with steps := rest }) := by
  cases step <;> simp [next, left, StreamStep.answer]

end EventStream

namespace SubscriptionStream

def steps : SubscriptionStream → List (StreamStep SourceValue)
  | .direct inner => inner.steps
  | .upcast element inner => inner.steps.map (.map element.upcast)

/-- What remains of a stream is as long as its steps are many. -/
theorem remaining_eq_length (stream : SubscriptionStream) :
    stream.remaining = stream.steps.length := by
  cases stream with
  | direct inner => rfl
  | upcast element inner => exact (List.length_map _).symm

/-- After its last step a stream finds the end and stays as it is. -/
theorem next_of_nil {stream : SubscriptionStream} (done : stream.steps = []) :
    stream.next = (.ended, stream) := by
  cases stream with
  | direct inner => simp [next, EventStream.next_of_nil done]
  | upcast element inner =>
    rw [steps, List.map_eq_nil_iff] at done
    simp [next, EventStream.next_of_nil done, StreamAnswer.map]

/-- A poll meets the first step, and the others are left to the same operation's stream. -/
theorem next_of_cons {stream : SubscriptionStream} {step : StreamStep SourceValue}
    {rest : List (StreamStep SourceValue)} (left : stream.steps = step :: rest) :
    ∃ after, stream.next = (step.answer, after) ∧ after.steps = rest ∧ after.op = stream.op := by
  cases stream with
  | direct inner =>
    refine ⟨.direct { inner with steps := rest }, ?_, rfl, rfl⟩
    simp [next, EventStream.next_of_cons left]
  | upcast element inner =>
    obtain ⟨own, others, inside, rfl, rfl⟩ := List.map_eq_cons_iff.1 left
    refine ⟨.upcast element { inner with steps := others }, ?_, rfl, rfl⟩
    simp [next, EventStream.next_of_cons inside, StreamStep.answer_map]

/-- A poll of a stream is observed once. -/
@[simp] theorem observations_poll (stream : SubscriptionStream) :
    stream.poll.observations = [.streamPolled stream.op] := by
  cases stream <;> rfl

/-- A stream is observed to be dropped once. -/
@[simp] theorem observations_drop (stream : SubscriptionStream) :
    stream.drop.observations = [.streamDropped stream.op] := by
  cases stream <;> rfl

end SubscriptionStream

end SubscriptionFields
