import SubscriptionFields.Proofs.Binding
import SubscriptionFields.Proofs.DeliverySteps

/-!
# What a sink receives

A receipt says what a sink sees of a delivery and how the delivery ends. The receipt of a whole
stream is computed from what the stream yields and from the sink's replies alone (`Sink.receipt`),
that of a delivery under way from what is left (`Delivery.receipt`). One step hands over the first
part of the receipt and leaves the rest (`receipt_step`), and so does any number of polls
(`receipt_pollUpTo`). What a finished delivery has handed over is therefore the receipt that it
started with (`handsOver_receipt`). As to published values, these are the ones that the stream
yields, up to the first that the sink refuses (`published_of_ready`).
-/

set_option autoImplicit false

namespace SubscriptionFields

/-! ## Receipts -/

/-- Whether a sink sees something happen. -/
def Observation.atSink : Observation → Bool
  | .published _ => true
  | .refused _ => true
  | .reported _ => true
  | _ => false

def Observation.published? : Observation → Option SourceValue
  | .published value => some value
  | _ => none

/-- What a sink sees, and how the delivery ends. -/
structure Receipt where
  seen : List Observation
  outcome : DriveOutcome

namespace Receipt

/-- A receipt with something seen before. -/
def after (seen : List Observation) (receipt : Receipt) : Receipt :=
  { receipt with seen := seen ++ receipt.seen }

/-- The receipt of a value that is offered: the sink takes it and goes on, or refuses it. -/
def offered (taken : List SourceValue) (value : SourceValue) (refusal : Option String)
    (rest : Receipt) : Receipt :=
  match refusal with
  | none => rest.after [.published value]
  | some _ => { seen := [.refused value], outcome := .sinkClosed taken.length }

/-- The receipt of what ends a stream: its failure, if there is one. -/
def ended (taken : List SourceValue) (failure : Option FieldError) : Receipt :=
  match failure with
  | none => { seen := [], outcome := .completed taken.length }
  | some error => { seen := [.reported error], outcome := .failed taken.length }

/-- Nothing seen before changes no receipt. -/
theorem after_nil (receipt : Receipt) : receipt.after [] = receipt := rfl

/-- What is seen in two parts before a receipt is seen before it as one. -/
theorem after_after (first second : List Observation) (receipt : Receipt) :
    (receipt.after second).after first = receipt.after (first ++ second) := by
  simp [after]

end Receipt

/-- What a sink that has taken some values receives of more values and what ends them. -/
def Sink.receipt (sink : Sink) (failure : Option FieldError) (taken : List SourceValue) :
    List SourceValue → Receipt
  | [] => .ended taken failure
  | value :: values =>
    .offered taken value (sink.publish taken value).refusal
      (sink.receipt failure (taken ++ [value]) values)

/-- The values that a sink takes, up to the first that it refuses. -/
def Sink.accepted (sink : Sink) (taken : List SourceValue) : List SourceValue → List SourceValue
  | [] => []
  | value :: values =>
    match (sink.publish taken value).refusal with
    | none => value :: sink.accepted (taken ++ [value]) values
    | some _ => []

/-- What a receipt says to be published is what the sink accepts. -/
theorem Sink.published_receipt (sink : Sink) (failure : Option FieldError)
    (taken values : List SourceValue) :
    (sink.receipt failure taken values).seen.filterMap Observation.published? =
      sink.accepted taken values := by
  induction values generalizing taken with
  | nil => cases failure <;> rfl
  | cons value values ih =>
    rw [receipt, accepted]
    cases (sink.publish taken value).refusal with
    | none => exact congrArg (value :: ·) (ih (taken ++ [value]))
    | some error => rfl

/-! ## Deliveries -/

namespace Delivery

open StreamStep

/-- What the sink receives of what the stream has left, once it has taken some values. -/
def streamReceipt (delivery : Delivery) (taken : List SourceValue) : Receipt :=
  delivery.sink.receipt (failure? delivery.stream.steps) taken (yielded delivery.stream.steps)

/-- What the sink of a delivery under way will still receive. -/
def receipt (delivery : Delivery) : Receipt :=
  match delivery.phase with
  | .listening => delivery.streamReceipt delivery.taken
  | .offering value reply =>
    .offered delivery.taken value reply.refusal (delivery.streamReceipt (delivery.taken ++ [value]))
  | .reporting error _ => .ended delivery.taken (some error)

/-- What is received in all where something was seen and then the step led somewhere. -/
def Turn.receipt (seen : List Observation) : Turn → Receipt
  | .advance delivery => delivery.receipt.after seen
  | .wait delivery => delivery.receipt.after seen
  | .stop outcome => { seen, outcome }

/-- What is received in all where something was seen and then the delivery was found so. -/
def foundReceipt (seen : List Observation) : Progress Delivery DriveOutcome → Receipt
  | .pending delivery => delivery.receipt.after seen
  | .ready outcome => { seen, outcome }

/-- What was seen first stands first in what is received in all. -/
theorem foundReceipt_append (first second : List Observation)
    (found : Progress Delivery DriveOutcome) :
    foundReceipt (first ++ second) found = (foundReceipt second found).after first := by
  cases found with
  | pending delivery => exact (Receipt.after_after first second delivery.receipt).symm
  | ready outcome => rfl

/-- A step hands over the first part of what the sink receives. -/
theorem receipt_of_outcome {delivery : Delivery} {turn : Turn} {observed : List Observation}
    (path : StepOutcome delivery turn observed) :
    turn.receipt (observed.filter Observation.atSink) = delivery.receipt := by
  cases path with
  | idle rest after phase left others same =>
    simp [Turn.receipt, receipt, streamReceipt, phase, left, others, yielded, failure?,
      Observation.atSink, Receipt.after_nil]
  | offered value rest after phase left others same =>
    simp [Turn.receipt, receipt, streamReceipt, phase, left, others, yielded, failure?,
      Observation.atSink, Receipt.after_nil, Sink.receipt]
  | broken error rest after phase left others same =>
    simp [Turn.receipt, receipt, streamReceipt, phase, left, yielded, failure?,
      Observation.atSink, Receipt.after_nil, Sink.receipt]
  | ended phase left =>
    rcases left with left | ⟨rest, left⟩ <;>
      simp [Turn.receipt, receipt, streamReceipt, phase, left, yielded, failure?,
        Observation.atSink, Sink.receipt, Receipt.ended, delivered]
  | held value waits refusal phase =>
    simp [Turn.receipt, receipt, streamReceipt, phase, Receipt.after_nil]
  | taken value phase =>
    simp [Turn.receipt, receipt, streamReceipt, phase, List.filter_cons, Observation.atSink,
      Receipt.offered]
  | refused value error phase =>
    simp [Turn.receipt, receipt, phase, List.filter_cons, Observation.atSink, Receipt.offered,
      delivered]
  | listened error waits phase =>
    simp [Turn.receipt, receipt, phase, Receipt.after_nil]
  | told error phase =>
    simp [Turn.receipt, receipt, phase, List.filter_cons, Observation.atSink, Receipt.ended,
      delivered]

/-- A step hands over the first part of what the sink receives. -/
theorem receipt_step (delivery : Delivery) :
    delivery.step.value.receipt (delivery.step.observations.filter Observation.atSink) =
      delivery.receipt :=
  receipt_of_outcome delivery.step_outcome

/-- A poll hands over the first part of what the sink receives. -/
theorem receipt_poll (delivery : Delivery) :
    foundReceipt (delivery.poll.observations.filter Observation.atSink) delivery.poll.value =
      delivery.receipt := by
  refine poll_induction
    (motive := fun delivery found observed =>
      foundReceipt (observed.filter Observation.atSink) found = delivery.receipt) ?_ ?_ ?_ delivery
  · intro delivery next found observed turn rest
    have first := delivery.receipt_step
    rw [turn] at first
    rw [List.filter_append, foundReceipt_append, rest]
    exact first
  · intro delivery next turn
    have first := delivery.receipt_step
    rw [turn] at first
    exact first
  · intro delivery outcome turn
    have first := delivery.receipt_step
    rw [turn] at first
    exact first

/-- Any number of polls hand over the first part of what the sink receives, and a delivery that
stopped has handed over everything. -/
theorem receipt_pollUpTo (count : Nat) (delivery : Delivery) :
    foundReceipt ((pollUpTo poll count delivery).observations.filter Observation.atSink)
      (pollUpTo poll count delivery).value = delivery.receipt := by
  induction count generalizing delivery with
  | zero => exact Receipt.after_nil delivery.receipt
  | succ count ih =>
    have first := delivery.receipt_poll
    cases found : delivery.poll.value with
    | pending next =>
      rw [found] at first
      rw [pollUpTo_of_pending found]
      simp only [Noted.observations, List.filterMap_append, List.filter_append] at ih ⊢
      rw [foundReceipt_append, ih next]
      exact first
    | ready outcome =>
      rw [found] at first
      rw [pollUpTo_of_ready found]
      exact first

/-- A delivery hands a receipt over: it stops after some polls, as the receipt says, and by then
the sink has seen what the receipt says. Before that it has seen a beginning of it. -/
structure HandsOver (delivery : Delivery) (receipt : Receipt) : Prop where
  stops : ∃ count, (pollUpTo poll count delivery).value = .ready receipt.outcome
  seen_eq : ∀ count outcome, (pollUpTo poll count delivery).value = .ready outcome →
    outcome = receipt.outcome ∧
      (pollUpTo poll count delivery).observations.filter Observation.atSink = receipt.seen
  seen_isPrefix : ∀ count,
    (pollUpTo poll count delivery).observations.filter Observation.atSink <+: receipt.seen

/-- A delivery hands over what its sink will still receive. -/
theorem handsOver_receipt (delivery : Delivery) : delivery.HandsOver delivery.receipt := by
  have complete : ∀ count outcome, (pollUpTo poll count delivery).value = .ready outcome →
      outcome = delivery.receipt.outcome ∧
        (pollUpTo poll count delivery).observations.filter Observation.atSink =
          delivery.receipt.seen := by
    intro count outcome found
    have all := receipt_pollUpTo count delivery
    rw [found] at all
    exact ⟨congrArg Receipt.outcome all, congrArg Receipt.seen all⟩
  refine ⟨?_, complete, fun count => ?_⟩
  · obtain ⟨count, outcome, found⟩ := delivery.exists_pollUpTo_ready
    refine ⟨count, ?_⟩
    rw [found, (complete count outcome found).1]
  · cases found : (pollUpTo poll count delivery).value with
    | pending next =>
      have all := receipt_pollUpTo count delivery
      rw [found] at all
      exact ⟨next.receipt.seen, congrArg Receipt.seen all⟩
    | ready outcome =>
      refine ⟨[], ?_⟩
      rw [List.append_nil]
      exact (complete count outcome found).2

/-- A delivery that begins hands over what its sink receives of the stream. -/
theorem handsOver_start (field : OperationDescriptor) (ctx : RequestContext)
    (stream : SubscriptionStream) (sink : Sink) :
    (start field ctx stream sink).HandsOver
      (sink.receipt (failure? stream.steps) [] (yielded stream.steps)) :=
  (start field ctx stream sink).handsOver_receipt

/-- A delivery neither evaluates a binder nor calls an operation. -/
theorem ofCall_of_mem_poll (delivery : Delivery) :
    ∀ seen ∈ delivery.poll.observations, seen.ofCall = false := by
  have each (delivery : Delivery) : ∀ seen ∈ delivery.step.observations, seen.ofCall = false := by
    have path := delivery.step_outcome
    generalize delivery.step.value = turn at path
    generalize delivery.step.observations = observed at path ⊢
    cases path <;> simp [Observation.ofCall]
  refine poll_induction
    (motive := fun _ _ observed => ∀ seen ∈ observed, seen.ofCall = false) ?_ ?_ ?_ delivery
  · intro delivery next found observed _ rest seen member
    rcases List.mem_append.1 member with first | later
    · exact each delivery seen first
    · exact rest seen later
  · intro delivery next _
    exact each delivery
  · intro delivery outcome _
    exact each delivery

/-! ## Published values -/

/-- What is read off the observations of a sink alone can be read off all of them. -/
theorem filterMap_filter_atSink {α : Type} {kind : Observation → Option α}
    (others : ∀ seen : Observation, seen.atSink = false → kind seen = none)
    (observed : List Observation) :
    (observed.filter Observation.atSink).filterMap kind = observed.filterMap kind := by
  rw [List.filterMap_filter]
  refine congrArg (observed.filterMap ·) (funext fun seen => ?_)
  cases here : seen.atSink with
  | true => rfl
  | false => exact (others seen here).symm

/-- What is published is seen at the sink. -/
theorem published_filter_atSink (observed : List Observation) :
    (observed.filter Observation.atSink).filterMap Observation.published? =
      observed.filterMap Observation.published? := by
  refine filterMap_filter_atSink (fun seen elsewhere => ?_) observed
  cases seen with
  | published value => cases elsewhere
  | _ => rfl

variable (field : OperationDescriptor) (ctx : RequestContext) (stream : SubscriptionStream)
  (sink : Sink) {count : Nat}

/-- A delivery that stopped has published what the stream yields, up to the first value that the
sink refuses. -/
theorem published_of_ready {outcome : DriveOutcome}
    (found : (pollUpTo poll count (start field ctx stream sink)).value = .ready outcome) :
    (pollUpTo poll count (start field ctx stream sink)).observations.filterMap
        Observation.published? =
      sink.accepted [] (yielded stream.steps) := by
  have handed := (handsOver_start field ctx stream sink).seen_eq count outcome found
  rw [← published_filter_atSink, handed.2]
  exact sink.published_receipt (failure? stream.steps) [] (yielded stream.steps)

/-- At any time a delivery has published the first of these values, and no others. -/
theorem published_prefix (count : Nat) :
    (pollUpTo poll count (start field ctx stream sink)).observations.filterMap
        Observation.published? <+:
      sink.accepted [] (yielded stream.steps) := by
  have handed := (handsOver_start field ctx stream sink).seen_isPrefix count
  rw [← published_filter_atSink, ← sink.published_receipt (failure? stream.steps)]
  exact handed.filterMap Observation.published?

end Delivery

end SubscriptionFields
