import SubscriptionFields.Field.Descriptor

/-!
# Delivery

A delivery takes the elements of a stream one by one, asks the field for its value in the context
of each, and offers the value to a sink. It stops at the end of the stream, at the first failure in
it, of which the sink is told, or at the first value that the sink refuses. It never goes back, and
once it stops its stream is dropped.

A sink may keep a delivery waiting at every value, and so may the stream; one poll of a delivery
goes on until it has to wait or has stopped.
-/

set_option autoImplicit false

namespace SubscriptionFields

/-! ## Sinks -/

/-- How a sink takes a value: for how many polls it keeps the delivery waiting, and the error it
refuses the value with, if it does. -/
structure SinkReply where
  suspensions : Nat
  refusal : Option String

/-- A sink answers by what it has taken so far. -/
structure Sink where
  /-- The reply to a value that is offered. -/
  publish : List SourceValue → SourceValue → SinkReply
  /-- For how many polls the delivery waits when the sink is told of a failure. -/
  onError : List SourceValue → FieldError → Nat

/-! ## Outcomes -/

/-- How a delivery ended, with the number of values that the sink took. -/
inductive DriveOutcome where
  | completed (delivered : Nat)
  | failed (delivered : Nat)
  | sinkClosed (delivered : Nat)
  deriving DecidableEq, Repr

namespace DriveOutcome

def name : DriveOutcome → String
  | .completed _ => "Completed"
  | .failed _ => "Failed"
  | .sinkClosed _ => "SinkClosed"

def delivered : DriveOutcome → Nat
  | .completed delivered => delivered
  | .failed delivered => delivered
  | .sinkClosed delivered => delivered

def inspect (outcome : DriveOutcome) : String :=
  inspectRecord outcome.name [("delivered", toString outcome.delivered)]

end DriveOutcome

/-! ## The delivery -/

/-- What a delivery is waiting for. -/
inductive DeliveryPhase where
  | listening
  | offering (value : SourceValue) (reply : SinkReply)
  | reporting (error : FieldError) (suspensions : Nat)

/-- A delivery under way. -/
structure Delivery where
  field : OperationDescriptor
  ctx : RequestContext
  stream : SubscriptionStream
  sink : Sink
  taken : List SourceValue
  phase : DeliveryPhase

namespace Delivery

def logTarget : String := "subfield_server::driver"

def start (field : OperationDescriptor) (ctx : RequestContext) (stream : SubscriptionStream)
    (sink : Sink) : Delivery :=
  { field, ctx, stream, sink, taken := [], phase := .listening }

def delivered (delivery : Delivery) : Nat :=
  delivery.taken.length

def logProgress (delivery : Delivery) (level : Level) (message : String)
    (fields : List LogField) : Noted Unit :=
  logEvent level logTarget message
    ([("field", .text delivery.field.name), ("delivered", .count delivery.delivered)] ++ fields)
    none

/-- Where one step of a delivery leads. -/
inductive Turn where
  | advance (delivery : Delivery)
  | wait (delivery : Delivery)
  | stop (outcome : DriveOutcome)

def finish (delivery : Delivery) (outcome : DriveOutcome) : Noted Turn := do
  delivery.stream.drop
  return .stop outcome

def step (delivery : Delivery) : Noted Turn :=
  match delivery.phase with
  | .listening => do
    let (answer, stream) ← delivery.stream.poll
    let delivery := { delivery with stream }
    match answer with
    | .pending => return .wait delivery
    | .item payload =>
      let value := delivery.field.resolveValue (delivery.ctx.forEvent payload)
      return .advance
        { delivery with phase := .offering value (delivery.sink.publish delivery.taken value) }
    | .failure error =>
      delivery.logProgress .warn "subscription stream failed" [("error", .text error.message)]
      return .advance
        { delivery with phase := .reporting error (delivery.sink.onError delivery.taken error) }
    | .ended =>
      delivery.logProgress .debug "subscription stream completed" []
      delivery.finish (.completed delivery.delivered)
  | .offering value { suspensions := waits + 1, refusal } =>
    return .wait { delivery with phase := .offering value { suspensions := waits, refusal } }
  | .offering value { suspensions := 0, refusal := none } => do
    observe (.published value)
    return .advance { delivery with taken := delivery.taken ++ [value], phase := .listening }
  | .offering value { suspensions := 0, refusal := some error } => do
    observe (.refused value)
    delivery.logProgress .debug "event sink closed" [("error", .text error)]
    delivery.finish (.sinkClosed delivery.delivered)
  | .reporting error (waits + 1) =>
    return .wait { delivery with phase := .reporting error waits }
  | .reporting error 0 => do
    observe (.reported error)
    delivery.finish (.failed delivery.delivered)

/-- How many steps a delivery can take without waiting, at most. -/
def measure (delivery : Delivery) : Nat :=
  2 * delivery.stream.remaining +
    match delivery.phase with
    | .listening => 0
    | _ => 1

/-- A step that goes on leaves fewer steps that can be taken without waiting. -/
theorem measure_step {delivery next : Delivery} (h : delivery.step.value = .advance next) :
    next.measure < delivery.measure := by
  obtain ⟨field, ctx, stream, sink, taken, phase⟩ := delivery
  unfold step at h
  split at h
  · rename_i listening
    subst listening
    simp only [Noted.value_bind, SubscriptionStream.value_poll] at h
    split at h
    · simp at h
    · rename_i payload found
      simp only [Noted.value_pure, Turn.advance.injEq] at h
      subst h
      have less := stream.remaining_next (by rw [found]; simp)
      simp only [measure]
      omega
    · rename_i error found
      simp only [Noted.value_bind, Noted.value_pure, Turn.advance.injEq] at h
      subst h
      have less := stream.remaining_next (by rw [found]; simp)
      simp only [measure]
      omega
    · simp [finish] at h
  · simp at h
  · rename_i value offering
    subst offering
    simp only [Noted.value_bind, Noted.value_pure, Turn.advance.injEq] at h
    subst h
    simp [measure]
  · simp [finish] at h
  · simp at h
  · simp [finish] at h

/-- One poll of a delivery: it takes steps until it has to wait or has stopped. -/
def poll (delivery : Delivery) : Noted (Progress Delivery DriveOutcome) :=
  let first := delivery.step
  match _turn : first.value with
  | .advance next =>
    let rest := next.poll
    { value := rest.value, notes := first.notes ++ rest.notes }
  | .wait next => { value := .pending next, notes := first.notes }
  | .stop outcome => { value := .ready outcome, notes := first.notes }
termination_by delivery.measure
decreasing_by exact measure_step _turn

/-- The end of a delivery that nobody will poll again. -/
def drop (delivery : Delivery) : Noted Unit :=
  delivery.stream.drop

end Delivery

end SubscriptionFields
