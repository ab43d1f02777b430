import SubscriptionFields.Proofs.DeliverySteps

/-!
# Deliveries that cannot be told apart

A delivery meets its stream one step at a time. The value that it asks the field for is the payload
of the event, whatever the field and the request, and of the field it logs the name. So the kind of
the stream, the request, and all of the field but its name make no difference. `recast` replaces
them; a step and a poll of the recast delivery are those of the delivery (`step_recast`,
`poll_recast`). Two deliveries that are recast to the same one cannot be told apart
(`indistinct_of_recast`).
-/

set_option autoImplicit false

namespace SubscriptionFields

/-! ## Streams -/

namespace SubscriptionStream

/-- The stream of objects with the same steps, of the same operation. -/
def plain (stream : SubscriptionStream) : SubscriptionStream :=
  .direct { op := stream.op, steps := stream.steps }

/-- As plain objects a stream takes the same step, and leaves what the stream leaves as plain
objects.
-/
theorem next_plain (stream : SubscriptionStream) :
    stream.plain.next = (stream.next.1, stream.next.2.plain) := by
  cases left : stream.steps with
  | nil =>
    have done : stream.plain.steps = [] := left
    rw [next_of_nil left, next_of_nil done]
  | cons step rest =>
    obtain ⟨after, found, others, same⟩ := next_of_cons left
    have inside : EventStream.steps { op := stream.op, steps := stream.steps } = step :: rest :=
      left
    rw [found]
    simp only [plain, next, EventStream.next_of_cons inside, others, same]

/-- A poll of a stream is noted under the stream's operation, and as nothing else. -/
theorem notes_poll (stream : SubscriptionStream) :
    stream.poll.notes = [.observed (.streamPolled stream.op)] := by
  cases stream <;> rfl

/-- As plain objects a stream answers a poll as it does itself. -/
theorem poll_plain (stream : SubscriptionStream) :
    stream.plain.poll = stream.poll.map (Prod.map id plain) := by
  apply Noted.ext
  · rw [Noted.value_map, value_poll, value_poll, next_plain]
    rfl
  · rw [Noted.notes_map, notes_poll, notes_poll]
    rfl

end SubscriptionStream

/-! ## Deliveries -/

/-- The answer that was found, if there is one. -/
def Progress.answer? {σ α : Type} : Progress σ α → Option α
  | .pending _ => none
  | .ready answer => some answer

namespace Delivery

/-- Where a step leads, with the delivery converted. -/
def Turn.map (convert : Delivery → Delivery) : Turn → Turn
  | .advance delivery => .advance (convert delivery)
  | .wait delivery => .wait (convert delivery)
  | .stop outcome => .stop outcome

section

variable (field : OperationDescriptor) (ctx : RequestContext)

/-- The delivery of the same steps to the same sink, for another request and for another field of
the same name. -/
def recast (delivery : Delivery) : Delivery :=
  { delivery with
    field := { field with name := delivery.field.name }
    ctx
    stream := delivery.stream.plain }

/-- A delivery takes the same step for another field and another context as for its own. -/
theorem step_recast (delivery : Delivery) :
    (delivery.recast field ctx).step = delivery.step.map (Turn.map (recast field ctx)) := by
  obtain ⟨own, request, stream, sink, taken, phase⟩ := delivery
  cases phase with
  | listening =>
    simp only [step, recast, SubscriptionStream.poll_plain]
    -- what is found decides the step, and only the end of the stream looks at the stream again
    obtain ⟨⟨answer, after⟩, notes⟩ := stream.poll
    cases answer with
    | pending => rfl
    | item payload => rfl
    | failure error => rfl
    | ended => cases after <;> rfl
  | offering value reply =>
    obtain ⟨suspensions, refusal⟩ := reply
    cases suspensions with
    | succ waits => rfl
    | zero =>
      cases refusal with
      | none => rfl
      | some error => cases stream <;> rfl
  | reporting error suspensions =>
    cases suspensions with
    | succ waits => rfl
    | zero => cases stream <;> rfl

/-- A delivery answers a poll the same for another field and another context as for its own. -/
theorem poll_recast (delivery : Delivery) :
    (delivery.recast field ctx).poll =
      delivery.poll.map (Progress.map (recast field ctx) id) := by
  have first := step_recast field ctx delivery
  cases turn : delivery.step.value with
  | advance next =>
    have rest := poll_recast next
    have moved : (delivery.recast field ctx).step.value = .advance (next.recast field ctx) := by
      rw [first, Noted.value_map, turn]
      rfl
    rw [poll_of_advance turn, poll_of_advance moved, rest, first]
    rfl
  | wait next =>
    have waiting : (delivery.recast field ctx).step.value = .wait (next.recast field ctx) := by
      rw [first, Noted.value_map, turn]
      rfl
    rw [poll_of_wait turn, poll_of_wait waiting, first]
    rfl
  | stop outcome =>
    have stopped : (delivery.recast field ctx).step.value = .stop outcome := by
      rw [first, Noted.value_map, turn]
      rfl
    rw [poll_of_stop turn, poll_of_stop stopped, first]
    rfl
termination_by delivery.measure
decreasing_by exact measure_step turn

end

/-- Two deliveries cannot be told apart: after any number of polls they have noted the same, and
both are under way or both have stopped with the same outcome. -/
structure Indistinct (first second : Delivery) : Prop where
  notes_eq : ∀ count, (pollUpTo poll count first).notes = (pollUpTo poll count second).notes
  answer?_eq : ∀ count, (pollUpTo poll count first).value.answer? =
    (pollUpTo poll count second).value.answer?

/-- Deliveries that become the same under one field and one context cannot be told apart. -/
theorem indistinct_of_recast (field : OperationDescriptor) (ctx : RequestContext)
    {first second : Delivery} (same : first.recast field ctx = second.recast field ctx) :
    first.Indistinct second := by
  have alike : ∀ count, (pollUpTo poll count first).map (Progress.map (recast field ctx) id) =
      (pollUpTo poll count second).map (Progress.map (recast field ctx) id) := by
    intro count
    rw [← pollUpTo_map (poll_recast field ctx), ← pollUpTo_map (poll_recast field ctx), same]
  have answer?_map : ∀ found : Progress Delivery DriveOutcome,
      (found.map (recast field ctx) id).answer? = found.answer? := by
    intro found
    cases found <;> rfl
  constructor
  · intro count
    rw [← Noted.notes_map (Progress.map (recast field ctx) id), alike, Noted.notes_map]
  · intro count
    have value := congrArg (fun noted => noted.value.answer?) (alike count)
    simp only [Noted.value_map, answer?_map] at value
    exact value

end Delivery

end SubscriptionFields
