import SubscriptionFields.Proofs.LifecycleRules
import SubscriptionFields.Proofs.Transparency

/-!
# The lifecycle of a subscription

A subscription goes through three stages: a call, a future that is polled up to some number of times
and then given up unless it has resolved, and a consumer of the stream, if the future resolved to
one. The consumer drives the stream to a sink, or holds the stream and polls it itself; it may give
up at any time, too.

What the operation's handle and stream go through in each stage is known from before: the call and
the future from the registration (`Registration.Attends`), the consumer from the steps of the stream
(`Consumer.Leaves`). The future hands out a stream exactly if the operation comes to one before the
future is given up (`Registration.handedOut`). So every subscription takes one of the five courses
(`Registration.stages`), and it keeps the rules of the lifecycle because each of them does.
-/

set_option autoImplicit false

namespace SubscriptionFields

/-! ## Consumers -/

/-- Who takes the stream that a future resolves to. -/
inductive Consumer where
  /-- Polls the stream some number of times, and drops it. -/
  | holds (count : Nat)
  /-- Drives the stream to a sink, and gives up after some number of polls. -/
  | drives (field : OperationDescriptor) (ctx : RequestContext) (sink : Sink) (count : Nat)

namespace Consumer

def consume (stream : SubscriptionStream) : Consumer → Noted Unit
  | .holds count => do
    let found ← pollTimes SubscriptionStream.poll count stream
    found.2.drop
  | .drives field ctx sink count => do
    let _ ← pollOrDrop Delivery.poll Delivery.drop count (.start field ctx stream sink)

/-- Consumes what a future came to, if that is a stream. -/
def receive (consumer : Consumer) : Option SubscribeFuture.Outcome → Noted Unit
  | some (.ok stream) => consumer.consume stream
  | _ => pure ()

/-- What a consumer may leave of a stream of these steps. A stream that is held is polled as often
as the consumer likes; one that is driven is not polled past its first failure or its end. -/
def Leaves (op : String) (steps : List (StreamStep SourceValue)) (observed : List Observation) :
    Consumer → Prop
  | .holds count => observed = List.replicate count (.streamPolled op) ++ [.streamDropped op]
  | .drives _ _ _ _ => Consumption op steps observed ∧
    (observed.map Observation.kind).count .streamPolled ≤ StreamStep.pollsToEnd steps

/-- A stream is of the same operation after a poll. -/
theorem op_poll (stream : SubscriptionStream) : stream.poll.value.2.op = stream.op := by
  rw [SubscriptionStream.value_poll]
  cases left : stream.steps with
  | nil => rw [SubscriptionStream.next_of_nil left]
  | cons step rest =>
    obtain ⟨after, next, -, same⟩ := SubscriptionStream.next_of_cons left
    rw [next]
    exact same

/-- A stream that is polled any number of times and dropped. -/
theorem observations_hold (count : Nat) (stream : SubscriptionStream) :
    (do let found ← pollTimes SubscriptionStream.poll count stream; found.2.drop).observations =
      List.replicate count (.streamPolled stream.op) ++ [.streamDropped stream.op] := by
  induction count generalizing stream with
  | zero => exact stream.observations_drop
  | succ count ih =>
    have rest := ih stream.poll.value.2
    rw [op_poll] at rest
    simp only [pollTimes, Noted.observations_bind, Noted.observations_pure, Noted.value_bind,
      Noted.value_pure, List.append_nil, SubscriptionStream.observations_poll] at rest ⊢
    rw [List.append_assoc, rest, List.replicate_succ]
    rfl

/-- Every consumer keeps to what it may leave of its stream. -/
theorem leaves_consume (consumer : Consumer) (stream : SubscriptionStream) :
    consumer.Leaves stream.op stream.steps (consumer.consume stream).observations := by
  cases consumer with
  | holds count => exact observations_hold count stream
  | drives field ctx sink count =>
    have consumption := Delivery.consumption_pollOrDrop field ctx stream sink count
    simp only [Leaves, consume, Noted.observations_bind, Noted.observations_pure, List.append_nil]
    exact ⟨consumption, consumption.polls_le⟩

/-- A consumer without a stream does nothing. -/
theorem observations_receive_of_unopened (consumer : Consumer)
    {came : Option SubscribeFuture.Outcome} (unopened : ∀ stream, came ≠ some (.ok stream)) :
    (consumer.receive came).observations = [] := by
  cases came with
  | none => rfl
  | some answer =>
    cases answer with
    | error failure => rfl
    | ok stream => exact absurd rfl (unopened stream)

/-- Whatever a consumer may leave, the stream is consumed. -/
theorem Leaves.consumed {consumer : Consumer} {op : String}
    {steps : List (StreamStep SourceValue)} {observed : List Observation}
    (leaves : consumer.Leaves op steps observed) : Consumed (observed.map Observation.kind) := by
  cases consumer with
  | holds count =>
    refine ⟨List.replicate count .streamPolled, [], ?_, ?_, by simp⟩
    · rw [show observed = _ from leaves]
      simp [Observation.kind]
    · simp
  | drives field ctx sink count => exact leaves.1.consumed

end Consumer

/-! ## The stages of a subscription -/

/-- The stream that a result comes to before the adapted handle is given up. -/
def ReturnType.openedWithin? (type : ReturnType) (result : type.Result) (polls : Nat) :
    Option (Σ element : Element, EventStream element.Item) :=
  if type.waits result < polls then type.opened? result else none

/-- A result with a handle opens a stream in time if the handle does. -/
theorem ReturnType.isSome_openedWithin?_async (element : Element)
    (handle : Handle (EventStream element.Item)) (polls : Nat) :
    ((async (.stream element.returnType)).openedWithin? handle polls).isSome =
      (handle.openedWithin? polls).isSome := by
  simp only [openedWithin?, opened?_async, waits, Handle.openedWithin?]
  split <;> simp

/-- What is consumed where a stream may have been handed out. -/
def ConsumedIf (handedOut : Bool) (kinds : List ObservationKind) : Prop :=
  if handedOut then Consumed kinds else kinds = []

/-- Nothing but evaluations of binders happens while a call is bound. -/
theorem Binding.kinds_trace (label : String) (receiver : ReceiverBinder)
    (arguments : List ArgumentBinder) (call : Nat) (ctx : RequestContext) :
    (trace label receiver arguments call ctx).map Observation.kind =
      List.replicate (trace label receiver arguments call ctx).length .bound := by
  rw [List.eq_replicate_iff]
  refine ⟨List.length_map _, ?_⟩
  intro kind listed
  obtain ⟨seen, observed, rfl⟩ := List.mem_map.1 listed
  rcases mem_trace observed with rfl | ⟨index, -, rfl⟩ <;> rfl

/-- A handle follows one of two courses, by whether it comes to its stream in time. -/
theorem Handle.stages {α : Type} (handle : Handle (EventStream α)) (binders polls : Nat)
    {consumed : List ObservationKind}
    (consumes : ConsumedIf (handle.openedWithin? polls).isSome consumed) :
    Stages true (List.replicate binders .bound ++ [.invoked])
      ((handle.tended polls).map Observation.kind) consumed := by
  have polled : (List.replicate (handle.pollsWithin polls) (Observation.handlePolled handle.op)).map
      Observation.kind = List.replicate (handle.pollsWithin polls) .handlePolled :=
    List.map_replicate
  unfold tended
  rw [List.map_append, List.map_append, polled]
  cases opened : handle.openedWithin? polls with
  | none =>
    rw [opened] at consumes
    cases consumes
    simpa [Observation.kind] using Stages.unopened binders (handle.pollsWithin polls)
  | some own =>
    rw [opened] at consumes
    simpa [Observation.kind] using
      Stages.opened binders (handle.pollsWithin polls) consumed consumes

/-- What an operation returned follows a course. -/
theorem ReturnType.stages {type : ReturnType} {adapter : CompiledAdapter type}
    (found : type.returnAdapter = some adapter) (result : type.Result) (binders polls : Nat)
    {consumed : List ObservationKind}
    (consumes : ConsumedIf (type.openedWithin? result polls).isSome consumed) :
    Stages (type.awaited? result).isSome
      (List.replicate binders .bound ++
        .invoked :: (type.announce result).observations.map Observation.kind)
      ((type.tended result polls).map Observation.kind) consumed := by
  cases selects_of_returnAdapter found with
  | canonical =>
    have awaiting := isSome_openedWithin?_async .object result polls
    exact Handle.stages result binders polls (awaiting ▸ consumes)
  | awaited payload =>
    have awaiting := isSome_openedWithin?_async (.shared payload) result polls
    exact Handle.stages result binders polls (awaiting ▸ consumes)
  | completed element =>
    cases polls with
    | zero =>
      cases (show consumed = [] from consumes)
      exact .unasked binders
    | succ polls =>
      have complete : Consumed consumed := by
        simpa [ConsumedIf, openedWithin?, opened?_stream, waits] using consumes
      exact .passedOn binders consumed complete

namespace Registration

variable (registration : Registration) (call : Nat) (ctx : RequestContext)

/-- The stream that the operation of a registered field returns, or resolves to before the future
is given up. -/
def openedWithin? (polls : Nat) : Option (Σ element : Element, EventStream element.Item) :=
  if registration.waits call ctx < polls then registration.opened? call ctx else none

/-- Every call of a registered field follows a course. -/
theorem stages {registration : Registration} {descriptor : OperationDescriptor}
    (compiled : registration.compile.value = .ok descriptor) (call : Nat) (ctx : RequestContext)
    (polls : Nat) {consumed : List ObservationKind}
    (consumes : ConsumedIf (registration.openedWithin? call ctx polls).isSome consumed) :
    Stages (registration.awaited? call ctx).isSome
      ((registration.observedCall call ctx).map Observation.kind)
      ((registration.tended call ctx polls).map Observation.kind) consumed := by
  obtain ⟨adapter, found, -⟩ := of_compile compiled
  have binders := Binding.kinds_trace registration.operation.label registration.receiver
    registration.arguments call ctx
  unfold observedCall tended awaited?
  unfold openedWithin? opened? waits at consumes
  rw [List.map_append, binders]
  cases bound : registration.bound call ctx with
  | error error =>
    rw [bound] at consumes
    have nothing : consumed = [] := by simpa [ConsumedIf] using consumes
    subst nothing
    simpa using Stages.unbound _
  | ok values =>
    rw [bound] at consumes
    exact ReturnType.stages found _ _ polls consumes

/-- The future of a known field hands out a stream exactly if the operation comes to one in time,
and then it hands out that stream, passed on. -/
theorem handedOut {registration : Registration} {schema : Schema} {request : SubscribeRequest}
    {descriptor : OperationDescriptor} (compiled : registration.compile.value = .ok descriptor)
    (known : schema.resolver? request.field = some descriptor) (layers call : Nat)
    (current : Option Span) (polls : Nat) :
    let future := ((SubscribeService.stacked schema layers).start call request current).value
    let came := (pollOrDrop SubscribeFuture.poll SubscribeFuture.drop polls future).value
    match registration.openedWithin? call request.ctx polls with
    | none => ∀ stream, came ≠ some (.ok stream)
    | some ⟨element, own⟩ => ∃ stream, came = some (.ok stream) ∧ element.PassesOn own stream ∧
        stream.op = own.op := by
  intro future came
  have started : future = .wrapped call layers
      (.resolving (descriptor.subscribe call request.ctx).value) :=
    (SubscribeService.start_stacked_of_some call known layers current).1
  unfold openedWithin?
  cases opened : registration.opened? call request.ctx with
  | none =>
    rw [ite_self]
    intro stream same
    have ready := ready_of_pollOrDrop SubscribeFuture.drop same
    rw [started, SubscribeFuture.ready_ok_wrapped_resolving_iff] at ready
    obtain ⟨element, own, other, -⟩ := opened_of_ready compiled ready
    cases opened.symm.trans other
  | some found =>
    obtain ⟨element, own⟩ := found
    obtain ⟨stream, passes, same, answers⟩ := exists_answersAfter_of_opened compiled opened
    have resolves := SubscribeFuture.answersAfter_wrapped_resolving call layers answers
    rw [← started] at resolves
    by_cases within : registration.waits call request.ctx < polls
    · rw [if_pos within]
      have ready := resolves.ready polls within
      exact ⟨stream, (pollOrDrop_of_ready SubscribeFuture.drop ready).1, passes, same⟩
    · rw [if_neg within]
      intro stream same
      obtain ⟨left, waiting⟩ := resolves.pending polls (Nat.le_of_not_lt within)
      have ready := ready_of_pollOrDrop SubscribeFuture.drop same
      cases waiting.symm.trans ready

/-- One whole subscription to a registered field, from the call to the end of its consumer. The
call and the future go as the registration says, the consumer takes the stream if the operation
came to one in time, and all three stages together keep the rules of the lifecycle. -/
structure Lives (polls : Nat) (consumer : Consumer) (called awaited consumed : List Observation) :
    Prop where
  called_eq : called = registration.observedCall call ctx
  awaited_eq : awaited = registration.tended call ctx polls
  consumes : match registration.openedWithin? call ctx polls with
    | none => consumed = []
    | some ⟨element, own⟩ =>
      consumer.Leaves own.op (own.steps.map (.map element.upcast)) consumed
  orderly : Orderly (registration.awaited? call ctx).isSome (called.map Observation.kind)
    (awaited.map Observation.kind) (consumed.map Observation.kind)

/-- Through any number of spans, a subscription to a registered field lives its life. -/
theorem lives_of_resolver {registration : Registration} {schema : Schema}
    {request : SubscribeRequest} {descriptor : OperationDescriptor}
    (compiled : registration.compile.value = .ok descriptor)
    (known : schema.resolver? request.field = some descriptor) (layers call : Nat)
    (current : Option Span) (polls : Nat) (consumer : Consumer) :
    let started := (SubscribeService.stacked schema layers).start call request current
    let awaited := pollOrDrop SubscribeFuture.poll SubscribeFuture.drop polls started.value
    registration.Lives call request.ctx polls consumer started.observations awaited.observations
      (consumer.receive awaited.value).observations := by
  intro started awaited
  have attends := registration.attends_of_resolver compiled known layers call current
  have out : match registration.openedWithin? call request.ctx polls with
      | none => ∀ stream, awaited.value ≠ some (.ok stream)
      | some ⟨element, own⟩ => ∃ stream, awaited.value = some (.ok stream) ∧
          element.PassesOn own stream ∧ stream.op = own.op :=
    handedOut compiled known layers call current polls
  have consumed : match registration.openedWithin? call request.ctx polls with
      | none => (consumer.receive awaited.value).observations = []
      | some ⟨element, own⟩ => consumer.Leaves own.op (own.steps.map (.map element.upcast))
          (consumer.receive awaited.value).observations := by
    cases opened : registration.openedWithin? call request.ctx polls with
    | none =>
      rw [opened] at out
      exact consumer.observations_receive_of_unopened out
    | some found =>
      rw [opened] at out
      obtain ⟨stream, came, passes, same⟩ := out
      have leaves := consumer.leaves_consume stream
      rw [same, show stream.steps = _ from passes] at leaves
      rw [came]
      exact leaves
  have course : Stages (registration.awaited? call request.ctx).isSome
      ((registration.observedCall call request.ctx).map Observation.kind)
      ((registration.tended call request.ctx polls).map Observation.kind)
      ((consumer.receive awaited.value).observations.map Observation.kind) := by
    apply stages compiled
    cases opened : registration.openedWithin? call request.ctx polls with
    | none =>
      rw [opened] at consumed
      exact congrArg (List.map Observation.kind) consumed
    | some found =>
      rw [opened] at consumed
      exact Consumer.Leaves.consumed consumed
  refine ⟨attends.called_eq, attends.given_up_eq polls, consumed, ?_⟩
  rw [attends.called_eq, attends.given_up_eq polls]
  exact course.orderly

end Registration

/-- After any calls that put fields into a registry and a freeze, a request for any field, through
any number of spans, whose future is given up after any number of polls unless it has resolved, and
whose stream, if it resolved to one, is taken by any consumer: the subscription lives as the first
accepted registration of the field says and keeps the rules of the lifecycle. If the field has no
accepted registration no handle and no stream is there at any time. -/
theorem every_subscription_orderly (config : RegistryConfig) (calls : List FieldCall)
    (layers call : Nat) (request : SubscribeRequest) (current : Option Span) (polls : Nat)
    (consumer : Consumer) :
    let done := ((Registry.new config).performAll (calls.map FieldCall.call)).value
    let started :=
      (SubscribeService.stacked done.1.freeze.value.2 layers).start call request current
    let awaited := pollOrDrop SubscribeFuture.poll SubscribeFuture.drop polls started.value
    let consumed := consumer.receive awaited.value
    match firstAccepted? request.field calls done.2 with
    | none => started.observations = [] ∧ awaited.observations = [] ∧ consumed.observations = []
    | some registration => registration.Lives call request.ctx polls consumer started.observations
        awaited.observations consumed.observations := by
  intro done started awaited consumed
  have routed := resolver?_of_firstAccepted config calls request.field
  cases accepted : firstAccepted? request.field calls done.2 with
  | none =>
    simp only [done, accepted] at routed
    have unserved := unserved_of_resolver routed layers call current
    have unobserved : awaited.observations = [] :=
      observations_pollOrDrop_of_unknown routed layers call current polls
    have unopened : ∀ stream, awaited.value ≠ some (.ok stream) := by
      intro stream came
      have ready := ready_of_pollOrDrop SubscribeFuture.drop came
      cases polls with
      | zero => cases ready
      | succ polls => cases (unserved.unknown polls).symm.trans ready
    exact ⟨unserved.observed_eq, unobserved, consumer.observations_receive_of_unopened unopened⟩
  | some registration =>
    simp only [done, accepted] at routed
    obtain ⟨descriptor, compiled, known⟩ := routed
    exact registration.lives_of_resolver compiled known layers call current polls consumer

end SubscriptionFields
