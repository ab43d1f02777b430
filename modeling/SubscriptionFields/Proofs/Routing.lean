import SubscriptionFields.Proofs.Adaptation
import SubscriptionFields.Proofs.DeliveryRun
import SubscriptionFields.Proofs.FirstAccepted
import SubscriptionFields.Proofs.Opening
import SubscriptionFields.Proofs.TracedLayers

/-!
# From the registration to the sink

A request takes a long way: the schema finds a descriptor, the descriptor binds the call and calls
the operation, an adapter turns the result into a handle, spans stand around the future, the handle
resolves to a stream, and a delivery takes the stream to a sink. This file puts the pieces together.
Which registration serves a request is decided by the calls of the registry alone: it is the first
one for the requested field that was accepted (`FirstAccepted`). What it serves is what its own
binders, its own operation and its own return type say (`Registration.Serves`); if no registration
was accepted, nothing is bound or called and the request fails (`Unserved`).
-/

set_option autoImplicit false

namespace SubscriptionFields

open StreamStep

/-! ## What a registration promises -/

namespace Registration

variable (registration : Registration) (call : Nat) (ctx : RequestContext)

/-- What the binders of a registered field bind. -/
def bound : Except FieldError (SourceValue × List SourceValue) :=
  Binding.outcome registration.receiver registration.arguments call ctx

/-- What a call of a registered field is observed to do: its binders are evaluated, up to the first
that fails, and if none fails its operation is called with what they answer. -/
def observedCall : List Observation :=
  Binding.trace registration.operation.label registration.receiver registration.arguments call
      ctx ++
    match registration.bound call ctx with
    | .error _ => []
    | .ok (receiver, arguments) =>
      .invoked registration.operation.label receiver arguments ::
        (registration.type.announce (registration.operation.run receiver arguments)).observations

/-- The effects that the binders of a registered field have for a request, up to the first that
fails. -/
def causedCall : List String :=
  (Binding.upToError
    (Binding.evaluations registration.operation.label registration.receiver
      registration.arguments call ctx)
    (Binding.answers registration.receiver registration.arguments call ctx)).flatMap Noted.effects

/-- The stream that the operation of a registered field returns or resolves to, if it is called
and comes to one. -/
def opened? : Option (Σ element : Element, EventStream element.Item) :=
  match registration.bound call ctx with
  | .error _ => none
  | .ok (receiver, arguments) =>
    registration.type.opened? (registration.operation.run receiver arguments)

/-- For how many polls a subscription to a registered field is pending. -/
def waits : Nat :=
  match registration.bound call ctx with
  | .error _ => 0
  | .ok (source, values) => registration.type.waits (registration.operation.run source values)

end Registration

/-- A delivery publishes these values: it stops after some polls, has published all of them by
then and no others before, and calls nothing. -/
structure Delivery.Publishes (delivery : Delivery) (values : List SourceValue) : Prop where
  stops : ∃ count outcome, (pollUpTo poll count delivery).value = .ready outcome
  published_eq : ∀ count outcome, (pollUpTo poll count delivery).value = .ready outcome →
    (pollUpTo poll count delivery).observations.filterMap Observation.published? = values
  published_prefix : ∀ count,
    (pollUpTo poll count delivery).observations.filterMap Observation.published? <+: values
  calls_nothing : ∀ count, ∀ seen ∈ (pollUpTo poll count delivery).observations,
    seen.ofCall = false

/-- A registration serves a request: everything of the call happens while the subscription starts,
and it is the registration's own call, with the effects of its own binders; the operation is called
at most once. Where binding fails the first poll of the future fails with that error. Where the
operation comes to a stream the future resolves; and whenever it resolves to a stream, a delivery of
that stream publishes values that carry the elements of the operation's own stream, up to the first
that the sink refuses. -/
structure Registration.Serves (registration : Registration) (call : Nat) (ctx : RequestContext)
    (started : Noted SubscribeFuture) : Prop where
  observed_eq : started.observations = registration.observedCall call ctx
  caused_eq : started.effects = registration.causedCall call ctx
  called_once : started.observations.countP Observation.isInvocation ≤ 1
  polls_call_nothing : ∀ count,
    ∀ seen ∈ (pollUpTo SubscribeFuture.poll count started.value).observations, seen.ofCall = false
  unbound : ∀ error, registration.bound call ctx = .error error → ∀ count,
    (pollUpTo SubscribeFuture.poll (count + 1) started.value).value =
      .ready (.error (.field error))
  resolves : (registration.opened? call ctx).isSome → ∃ count stream,
    (pollUpTo SubscribeFuture.poll count started.value).value = .ready (.ok stream)
  delivers : ∀ count stream,
    (pollUpTo SubscribeFuture.poll count started.value).value = .ready (.ok stream) →
      ∃ element own values, registration.opened? call ctx = some ⟨element, own⟩ ∧
        List.Forall₂ element.Carries (yielded own.steps) values ∧
        ∀ (field : OperationDescriptor) (ctx : RequestContext) (sink : Sink),
          (Delivery.start field ctx stream sink).Publishes (sink.accepted [] values)

/-- A request is not served: nothing is bound or called, so no binder has an effect, and the first
poll fails with the name as it was asked for. -/
structure Unserved (field : String) (started : Noted SubscribeFuture) : Prop where
  observed_eq : started.observations = []
  causes_nothing : started.effects = []
  polls_observe_nothing : ∀ count,
    (pollUpTo SubscribeFuture.poll count started.value).observations = []
  unknown : ∀ count, (pollUpTo SubscribeFuture.poll (count + 1) started.value).value =
    .ready (.error (.unknownField field))

/-! ## Delivering -/

/-- A delivery publishes what its stream yields, up to the first value that the sink refuses. -/
theorem Delivery.publishes_yielded (field : OperationDescriptor) (ctx : RequestContext)
    (stream : SubscriptionStream) (sink : Sink) :
    (start field ctx stream sink).Publishes (sink.accepted [] (yielded stream.steps)) where
  stops := exists_pollUpTo_ready _
  published_eq _ _ found := published_of_ready field ctx stream sink found
  published_prefix count := published_prefix field ctx stream sink count
  calls_nothing count := forall_observed_pollUpTo ofCall_of_mem_poll count _

/-- A stream that is passed on carries the elements, each with its own object. -/
theorem Element.PassesOn.carried {element : Element} {own : EventStream element.Item}
    {stream : SubscriptionStream} (passes : element.PassesOn own stream) :
    List.Forall₂ element.Carries (yielded own.steps) (yielded stream.steps) := by
  rw [passes, yielded_map]
  exact List.forall₂_map_right_iff.2 (List.forall₂_same.2 fun item _ => element.carries_upcast item)

/-! ## Calling -/

/-- Announcing a result calls nothing. -/
theorem ReturnType.countP_announce (type : ReturnType) (result : type.Result) :
    (type.announce result).observations.countP Observation.isInvocation = 0 := by
  cases type <;> rfl

namespace Registration

variable {registration : Registration} {descriptor : OperationDescriptor} {call : Nat}
  {ctx : RequestContext}

/-- The descriptor of a registration subscribes by the registration's own binders and operation. -/
theorem observations_subscribe (compiled : registration.compile.value = .ok descriptor) :
    (descriptor.subscribe call ctx).observations = registration.observedCall call ctx := by
  obtain ⟨adapter, -, -, receiver, arguments, label, calls⟩ := of_compile compiled
  unfold observedCall
  cases bound : registration.bound call ctx with
  | error error =>
    rw [Registration.bound, ← receiver, ← arguments] at bound
    rw [(OperationDescriptor.subscribe_of_bound_error bound).2, receiver, arguments, label,
      List.append_nil]
  | ok values =>
    rw [Registration.bound, ← receiver, ← arguments] at bound
    rw [(OperationDescriptor.subscribe_of_bound_ok bound).2, receiver, arguments, label, calls]
    simp [OperationDescriptor.callThrough]

/-- The effects of a call are those of the registration's binders. -/
theorem effects_subscribe (compiled : registration.compile.value = .ok descriptor) :
    (descriptor.subscribe call ctx).effects = registration.causedCall call ctx := by
  obtain ⟨adapter, -, -, receiver, arguments, label, calls⟩ := of_compile compiled
  have bindings := descriptor.effects_bindCall call ctx
  rw [receiver, arguments, label] at bindings
  cases bound : registration.bound call ctx with
  | error error =>
    rw [Registration.bound, ← receiver, ← arguments] at bound
    rw [Noted.effects, OperationDescriptor.notes_subscribe_of_bound_error bound]
    exact bindings
  | ok values =>
    have silent (type : ReturnType) (result : type.Result) :
        (type.announce result).notes.filterMap Note.effect? = [] := by
      cases type <;> rfl
    rw [Registration.bound, ← receiver, ← arguments] at bound
    rw [Noted.effects, OperationDescriptor.notes_subscribe_of_bound_ok bound,
      List.filterMap_append, calls]
    simp only [OperationDescriptor.callThrough, Noted.notes_bind, Noted.notes_pure,
      List.filterMap_append, silent, List.append_nil]
    exact (List.append_nil _).trans bindings

/-- Where binding fails, the handle has the error already. -/
theorem value_subscribe_of_bound_error {error : FieldError}
    (compiled : registration.compile.value = .ok descriptor)
    (failed : registration.bound call ctx = .error error) :
    (descriptor.subscribe call ctx).value = .completed (.error error) := by
  obtain ⟨adapter, -, -, receiver, arguments, -, -⟩ := of_compile compiled
  rw [Registration.bound, ← receiver, ← arguments] at failed
  exact (OperationDescriptor.subscribe_of_bound_error failed).1

/-- Where binding succeeds, the handle is the adapted result of the operation. -/
theorem value_subscribe_of_bound_ok {values : SourceValue × List SourceValue}
    (compiled : registration.compile.value = .ok descriptor)
    (bound : registration.bound call ctx = .ok values) :
    ∃ adapter, registration.type.returnAdapter = some adapter ∧
      (descriptor.subscribe call ctx).value =
        adapter.convert (registration.operation.run values.1 values.2) := by
  obtain ⟨adapter, found, -, receiver, arguments, -, calls⟩ := of_compile compiled
  rw [Registration.bound, ← receiver, ← arguments] at bound
  refine ⟨adapter, found, ?_⟩
  rw [(OperationDescriptor.subscribe_of_bound_ok bound).1, calls]
  rfl

/-- Where binding fails the handle has the error at its first poll. -/
theorem answersAfter_of_bound_error {error : FieldError}
    (compiled : registration.compile.value = .ok descriptor)
    (failed : registration.bound call ctx = .error error) :
    AnswersAfter SubscriptionHandle.poll (descriptor.subscribe call ctx).value 0
      (.error error) := by
  rw [value_subscribe_of_bound_error compiled failed]
  exact answersAfter_of_ready rfl

/-- Where binding succeeds the handle takes the course of what the operation returns. -/
theorem course_subscribe {values : SourceValue × List SourceValue}
    (compiled : registration.compile.value = .ok descriptor)
    (bound : registration.bound call ctx = .ok values) :
    registration.type.Course (registration.operation.run values.1 values.2)
      (descriptor.subscribe call ctx).value := by
  obtain ⟨adapter, found, adapted⟩ := value_subscribe_of_bound_ok compiled bound
  rw [adapted]
  exact ReturnType.course_convert found (registration.operation.run values.1 values.2)

/-- The handle that a call of the field returns resolves to nothing but the operation's own stream,
passed on. -/
theorem opened_of_ready (compiled : registration.compile.value = .ok descriptor) {count : Nat}
    {stream : SubscriptionStream}
    (ready : (pollUpTo SubscriptionHandle.poll count (descriptor.subscribe call ctx).value).value =
      .ready (.ok stream)) :
    ∃ element own, registration.opened? call ctx = some ⟨element, own⟩ ∧
      element.PassesOn own stream := by
  cases bound : registration.bound call ctx with
  | error error =>
    rw [value_subscribe_of_bound_error compiled bound] at ready
    cases count with
    | zero => cases ready
    | succ count => cases ready
  | ok values =>
    obtain ⟨adapter, found, adapted⟩ := value_subscribe_of_bound_ok compiled bound
    rw [adapted] at ready
    simp only [opened?, bound]
    exact ReturnType.opened_of_ready found ready

/-- If the operation comes to a stream the handle of the field resolves to it, passed on. -/
theorem exists_answersAfter_of_opened {element : Element} {own : EventStream element.Item}
    (compiled : registration.compile.value = .ok descriptor)
    (opens : registration.opened? call ctx = some ⟨element, own⟩) :
    ∃ stream, element.PassesOn own stream ∧ stream.op = own.op ∧
      AnswersAfter SubscriptionHandle.poll (descriptor.subscribe call ctx).value
        (registration.waits call ctx) (.ok stream) := by
  unfold opened? at opens
  unfold waits
  cases bound : registration.bound call ctx with
  | error error =>
    rw [bound] at opens
    cases opens
  | ok values =>
    rw [bound] at opens
    cases course_subscribe compiled bound with
    | opens other inside stream opened unfailed passes same answers =>
      cases opens.symm.trans opened
      exact ⟨stream, passes, same, answers⟩
    | fails other unopened failed answers => cases opens.symm.trans unopened
    | hangs unopened unfailed pending => cases opens.symm.trans unopened

/-- Binding a call does not call the operation. -/
theorem countP_trace (registration : Registration) (call : Nat) (ctx : RequestContext) :
    (Binding.trace registration.operation.label registration.receiver registration.arguments call
      ctx).countP Observation.isInvocation = 0 := by
  apply List.countP_eq_zero.2
  intro seen observed
  rcases Binding.mem_trace observed with rfl | ⟨index, -, rfl⟩ <;> simp [Observation.isInvocation]

/-- A call calls the operation once at most. -/
theorem countP_observedCall (registration : Registration) (call : Nat) (ctx : RequestContext) :
    (registration.observedCall call ctx).countP Observation.isInvocation ≤ 1 := by
  unfold observedCall
  rw [List.countP_append, countP_trace, Nat.zero_add]
  cases registration.bound call ctx with
  | error error => simp
  | ok values =>
    simp only [List.countP_cons, ReturnType.countP_announce]
    split <;> simp

/-- Where binding fails, nothing is called. -/
theorem countP_observedCall_of_bound_error {error : FieldError}
    (failed : registration.bound call ctx = .error error) :
    (registration.observedCall call ctx).countP Observation.isInvocation = 0 := by
  rw [observedCall, failed, List.append_nil, countP_trace]

end Registration

/-! ## Serving -/

/-- A field that the schema knows by the descriptor of a registration is served by that
registration, through any number of spans. -/
theorem Registration.serves_of_resolver {registration : Registration} {schema : Schema}
    {request : SubscribeRequest} {descriptor : OperationDescriptor}
    (compiled : registration.compile.value = .ok descriptor)
    (known : schema.resolver? request.field = some descriptor) (layers call : Nat)
    (current : Option Span) :
    registration.Serves call request.ctx
      ((SubscribeService.stacked schema layers).start call request current) := by
  obtain ⟨started, observed⟩ := SubscribeService.start_stacked_of_some call known layers current
  have observed_eq := observed.trans (registration.observations_subscribe compiled)
  refine ⟨observed_eq, ?_, ?_, ?_, ?_, ?_, ?_⟩
  · rw [SubscribeService.effects_start_of_some call known]
    exact registration.effects_subscribe compiled
  · rw [observed_eq]
    exact registration.countP_observedCall call request.ctx
  · intro count
    exact forall_observed_pollUpTo SubscribeFuture.ofCall_of_mem_poll count _
  · intro error failed count
    rw [started, SubscribeFuture.value_pollUpTo_wrapped_resolving,
      value_subscribe_of_bound_error compiled failed]
    rfl
  · intro opens
    obtain ⟨⟨element, own⟩, opened⟩ := Option.isSome_iff_exists.1 opens
    obtain ⟨stream, -, -, answers⟩ := exists_answersAfter_of_opened compiled opened
    refine ⟨registration.waits call request.ctx + 1, stream, ?_⟩
    rw [started, SubscribeFuture.ready_ok_wrapped_resolving_iff]
    exact answers.ready _ (Nat.lt_succ_self _)
  · intro count stream ready
    rw [started, SubscribeFuture.ready_ok_wrapped_resolving_iff] at ready
    obtain ⟨element, own, opened, passes⟩ := opened_of_ready compiled ready
    exact ⟨element, own, yielded stream.steps, opened, passes.carried, fun field ctx sink =>
      Delivery.publishes_yielded field ctx stream sink⟩

/-- A field that the schema does not know is not served, through any number of spans. -/
theorem unserved_of_resolver {schema : Schema} {request : SubscribeRequest}
    (unknown : schema.resolver? request.field = none) (layers call : Nat)
    (current : Option Span) :
    Unserved request.field
      ((SubscribeService.stacked schema layers).start call request current) := by
  have routed := SubscribeService.start_routing_of_none call unknown
  have started := SubscribeService.value_start_stacked schema call request layers current
  rw [routed, Noted.value_pure] at started
  refine ⟨?_, ?_, fun count => ?_, fun count => ?_⟩
  · rw [SubscribeService.observations_start_stacked, routed]
    rfl
  · rw [SubscribeService.effects_start_stacked, routed]
    rfl
  · rw [started, SubscribeFuture.observations_pollUpTo_wrapped]
    cases count <;> rfl
  · rw [started, SubscribeFuture.value_pollUpTo_wrapped]
    rfl

/-- After any calls that put fields into a registry and a freeze, the schema has a field exactly if
a registration of it was accepted, and has it with the descriptor of the first one. -/
theorem resolver?_of_firstAccepted (config : RegistryConfig) (calls : List FieldCall)
    (field : String) :
    let done := ((Registry.new config).performAll (calls.map FieldCall.call)).value
    match firstAccepted? field calls done.2 with
    | none => done.1.freeze.value.2.resolver? field = none
    | some registration => ∃ descriptor, registration.compile.value = .ok descriptor ∧
        done.1.freeze.value.2.resolver? field = some descriptor := by
  intro done
  have shows : done.1.freeze.value.2.Shows done.1 :=
    Registry.freeze_shows (Registry.invariant_of_performAll _ (Registry.invariant_new config))
  rw [shows.resolver?_eq]
  exact Registry.get?_performAll_new config calls field

/-- After any calls that put fields into a registry, of whatever settings, and a freeze, every
request is routed by the first registration of its field that was accepted, and by no other: the
schema holds the descriptor of that registration, and the registration serves the request, with or
without spans around the service. If no registration of the field was accepted, the request is not
served. -/
theorem request_served_by_first_accepted (config : RegistryConfig) (calls : List FieldCall)
    (layers call : Nat) (request : SubscribeRequest) (current : Option Span) :
    let done := ((Registry.new config).performAll (calls.map FieldCall.call)).value
    let schema := done.1.freeze.value.2
    let started := (SubscribeService.stacked schema layers).start call request current
    match firstAccepted? request.field calls done.2 with
    | none => Unserved request.field started
    | some registration =>
      (∃ descriptor, registration.compile.value = .ok descriptor ∧
        schema.resolver? request.field = some descriptor) ∧
      registration.Serves call request.ctx started := by
  intro done schema started
  have shows : schema.Shows done.1 :=
    Registry.freeze_shows (Registry.invariant_of_performAll _ (Registry.invariant_new config))
  have routed := Registry.get?_performAll_new config calls request.field
  cases accepted : firstAccepted? request.field calls done.2 with
  | none =>
    simp only [done, accepted] at routed
    refine unserved_of_resolver ?_ layers call current
    rw [shows.resolver?_eq]
    exact routed
  | some registration =>
    simp only [done, accepted] at routed
    obtain ⟨descriptor, compiled, found⟩ := routed
    have known : schema.resolver? request.field = some descriptor := by
      rw [shows.resolver?_eq]
      exact found
    exact ⟨⟨descriptor, compiled, known⟩,
      registration.serves_of_resolver compiled known layers call current⟩

end SubscriptionFields
