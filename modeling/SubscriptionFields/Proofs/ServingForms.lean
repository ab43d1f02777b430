import SubscriptionFields.Proofs.DeliveryLikeness
import SubscriptionFields.Proofs.Permanence
import SubscriptionFields.Proofs.Routing

/-!
# The forms in which a stream can be served

An operation can serve a stream of shared pointers in three forms: as a handle to the stream passed
on as objects, as a handle to the stream itself, or as the stream itself. Each form has an adapter
of its own, and a subscriber cannot tell them apart, except that a handle may keep the subscription
waiting. The ladder:

* each form compiles, to a descriptor of its own shape (`ServingForm.exists_compile`);
* the result of each form opens the same steps of the same operation (`opened?_registration`), hence
  the handle of the field resolves to a stream with these steps (`exists_stream`);
* deliveries of streams with the same steps hand over the same receipt and are indistinct
  (`handsOver_of_objects`, `indistinct_start`);
* a form that is registered stays in the schema (`Registry.resolver?_of_registered`).
-/

set_option autoImplicit false

namespace SubscriptionFields

/-! ## Feeds and forms -/

/-- The stream of shared pointers that an operation makes of what was bound. -/
structure SharedFeed (payload : String) where
  label : String
  steps : SourceValue → List SourceValue → List (StreamStep (Option (Shared payload)))

namespace SharedFeed

variable {payload : String} (feed : SharedFeed payload) (receiver : SourceValue)
  (arguments : List SourceValue)

def stream : EventStream (Option (Shared payload)) where
  op := feed.label
  steps := feed.steps receiver arguments

/-- The stream with every pointer passed on as an object. -/
def objects : EventStream SourceValue where
  op := feed.label
  steps := (feed.steps receiver arguments).map (.map (Option.map Shared.upcast))

/-- What a sink receives of the feed: its pointers as objects, up to the first that is refused, and
the failure that ends it. -/
def receipt (sink : Sink) : Receipt :=
  sink.receipt (StreamStep.failure? (feed.steps receiver arguments)) []
    ((StreamStep.yielded (feed.steps receiver arguments)).map (Option.map Shared.upcast))

end SharedFeed

/-- A form in which an operation serves a feed. A handle is pending for some polls. -/
inductive ServingForm where
  /-- A handle to the stream of objects. -/
  | direct (pending : SourceValue → List SourceValue → Nat)
  /-- A handle to the stream of pointers. -/
  | awaited (pending : SourceValue → List SourceValue → Nat)
  /-- The stream of pointers. -/
  | immediate

namespace ServingForm

/-- For how many polls the operation's handle is pending. -/
def waits : ServingForm → SourceValue → List SourceValue → Nat
  | .direct pending => pending
  | .awaited pending => pending
  | .immediate => fun _ _ => 0

/-- The shape of the return type. -/
def shape (payload : String) : ServingForm → Shape
  | .direct _ => .direct
  | .awaited _ => .async { type := { name := payload, kind := .reference } }
  | .immediate => .sync { type := { name := payload, kind := .reference } }

variable {payload : String}

/-- The registration of an operation that serves a feed in some form. -/
def registration (feed : SharedFeed payload) (field : String) (receiver : ReceiverBinder)
    (arguments : List ArgumentBinder) (allocation : Allocation) : ServingForm → Registration
  | .direct pending =>
    { field
      type := .async (.stream .object)
      receiver
      arguments
      operation :=
        { label := feed.label
          run := fun receiver arguments =>
            { op := feed.label
              pending := pending receiver arguments
              outcome := .resolved (feed.objects receiver arguments) } }
      allocation }
  | .awaited pending =>
    { field
      type := .async (.stream (.shared payload))
      receiver
      arguments
      operation :=
        { label := feed.label
          run := fun receiver arguments =>
            { op := feed.label
              pending := pending receiver arguments
              outcome := .resolved (feed.stream receiver arguments) } }
      allocation }
  | .immediate =>
    { field
      type := .stream (.shared payload)
      receiver
      arguments
      operation := { label := feed.label, run := feed.stream }
      allocation }

section

variable (form : ServingForm) (feed : SharedFeed payload) (field : String)
  (receiver : ReceiverBinder) (arguments : List ArgumentBinder) (allocation : Allocation)

/-- Every form is registered under the field. -/
@[simp] theorem field_registration :
    (form.registration feed field receiver arguments allocation).field = field := by
  cases form <;> rfl

/-- What is bound does not depend on the form. -/
@[simp] theorem bound_registration (call : Nat) (ctx : RequestContext) :
    (form.registration feed field receiver arguments allocation).bound call ctx =
      Binding.outcome receiver arguments call ctx := by
  cases form <;> rfl

/-- Every form has the shape that it is named after. -/
theorem classify_registration :
    (form.registration feed field receiver arguments allocation).type.describe.classify =
      .ok (form.shape payload) := by
  cases form <;> rfl

/-- Every form has a descriptor. -/
theorem exists_compile :
    ∃ descriptor,
      (form.registration feed field receiver arguments allocation).compile.value = .ok descriptor ∧
        descriptor.shape = form.shape payload := by
  let registration := form.registration feed field receiver arguments allocation
  obtain ⟨adapter, -, -, compiled⟩ :=
    OperationDescriptor.compile_of_classify_eq_ok registration.field registration.receiver
      registration.arguments registration.operation registration.allocation
      (classify_registration form feed field receiver arguments allocation)
  exact ⟨_, compiled, rfl⟩

/-! ## The stream behind each form -/

variable (source : SourceValue) (values : List SourceValue)

/-- A form waits for as many polls as its handle does. -/
theorem waits_registration :
    (form.registration feed field receiver arguments allocation).type.waits
        ((form.registration feed field receiver arguments allocation).operation.run source values) =
      form.waits source values := by
  cases form <;> rfl

/-- Whatever the form, the result opens a stream that is passed on as the objects of the feed. -/
theorem opened?_registration :
    let registration := form.registration feed field receiver arguments allocation
    ∃ element own,
      registration.type.opened? (registration.operation.run source values) =
        some ⟨element, own⟩ ∧ own.op = feed.label ∧
      ∀ stream, element.PassesOn own stream →
        stream.steps = (feed.objects source values).steps := by
  cases form with
  | direct pending =>
    refine ⟨.object, feed.objects source values, rfl, rfl, ?_⟩
    intro stream passes
    have same := Element.object_passesOn_direct (feed.objects source values)
    rw [passes, ← same]
    rfl
  | awaited pending => exact ⟨.shared payload, feed.stream source values, rfl, rfl, fun _ => id⟩
  | immediate => exact ⟨.shared payload, feed.stream source values, rfl, rfl, fun _ => id⟩

variable {form feed field receiver arguments allocation source values}
  {descriptor : OperationDescriptor} {call : Nat} {ctx : RequestContext}

/-- The handle of the field resolves, after as many polls as the form waits, to the feed. -/
theorem exists_stream
    (compiled : (form.registration feed field receiver arguments allocation).compile.value =
      .ok descriptor)
    (bound : Binding.outcome receiver arguments call ctx = .ok (source, values)) :
    ∃ stream : SubscriptionStream, stream.steps = (feed.objects source values).steps ∧
      stream.op = feed.label ∧
      AnswersAfter SubscriptionHandle.poll (descriptor.subscribe call ctx).value
        (form.waits source values) (.ok stream) := by
  let registration := form.registration feed field receiver arguments allocation
  have bound : registration.bound call ctx = .ok (source, values) :=
    (form.bound_registration feed field receiver arguments allocation call ctx).trans bound
  obtain ⟨element, own, result, label, passed⟩ :=
    opened?_registration form feed field receiver arguments allocation source values
  have opens : registration.opened? call ctx = some ⟨element, own⟩ := by
    rw [Registration.opened?, bound]
    exact result
  have waits : registration.waits call ctx = form.waits source values := by
    rw [Registration.waits, bound]
    exact waits_registration form feed field receiver arguments allocation source values
  obtain ⟨stream, passes, same, answers⟩ :=
    Registration.exists_answersAfter_of_opened compiled opens
  rw [waits] at answers
  exact ⟨stream, passed stream passes, same.trans label, answers⟩

end

end ServingForm

/-! ## Deliveries -/

namespace Delivery

variable {payload : String} {feed : SharedFeed payload} {source : SourceValue}
  {values : List SourceValue} {stream other : SubscriptionStream}

/-- Whoever listens to the feed receives its objects. -/
theorem handsOver_of_objects (field : OperationDescriptor) (ctx : RequestContext) (sink : Sink)
    (steps : stream.steps = (feed.objects source values).steps) :
    (start field ctx stream sink).HandsOver (feed.receipt source values sink) := by
  have all := handsOver_start field ctx stream sink
  rw [steps, SharedFeed.objects, StreamStep.failure?_map, StreamStep.yielded_map] at all
  exact all

/-- Streams with the same steps of the same operation are delivered alike by fields of the same
name. -/
theorem indistinct_start {field second : OperationDescriptor} (ctx : RequestContext) (sink : Sink)
    (name : field.name = second.name) (steps : stream.steps = other.steps)
    (op : stream.op = other.op) :
    (start field ctx stream sink).Indistinct (start second ctx other sink) := by
  have plain : stream.plain = other.plain := by
    rw [SubscriptionStream.plain, SubscriptionStream.plain, steps, op]
  apply indistinct_of_recast field ctx
  simp only [recast, start, name, plain]

end Delivery

/-! ## Interchanging the forms -/

/-- The subscriptions to a field, one for each form in which its operation may serve the feed, are
interchangeable. If binding fails they all fail with that error at the first poll. Else each
resolves, after as many polls as the operation's handle is pending, to a stream of its own; a
delivery of that stream hands the objects of the feed over to any sink, and the deliveries of any
two of the streams cannot be told apart. -/
structure SharedFeed.Interchangeable {payload : String} (feed : SharedFeed payload)
    (field : String) (receiver : ReceiverBinder) (arguments : List ArgumentBinder) (call : Nat)
    (ctx : RequestContext) (schema : ServingForm → Schema)
    (future : ServingForm → SubscribeFuture) : Prop where
  unbound : ∀ error, Binding.outcome receiver arguments call ctx = .error error →
    ∀ form, AnswersAfter SubscribeFuture.poll (future form) 0 (.error (.field error))
  bound : ∀ source values, Binding.outcome receiver arguments call ctx = .ok (source, values) →
    ∃ (descriptor : ServingForm → OperationDescriptor) (stream : ServingForm → SubscriptionStream),
      (∀ form, (schema form).resolver? field = some (descriptor form) ∧
        (descriptor form).shape = form.shape payload ∧
        AnswersAfter SubscribeFuture.poll (future form) (form.waits source values)
          (.ok (stream form))) ∧
      ∀ (ctx : RequestContext) (sink : Sink),
        (∀ form, (Delivery.start (descriptor form) ctx (stream form) sink).HandsOver
          (feed.receipt source values sink)) ∧
        ∀ first second,
          (Delivery.start (descriptor first) ctx (stream first) sink).Indistinct
            (Delivery.start (descriptor second) ctx (stream second) sink)

/-- The forms of serving a feed are interchangeable for a subscriber, wherever the field is
registered while its name is free, whatever else is registered before and after, and with any number
of spans around the service. -/
theorem serving_forms_interchangeable {payload : String} (feed : SharedFeed payload)
    (field : String) (receiver : ReceiverBinder) (arguments : List ArgumentBinder)
    (allocation : Allocation) (config : RegistryConfig) (earlier later : List RegistryCall)
    (opened : ((Registry.new config).performAll earlier).value.1.frozen = false)
    (free : ((Registry.new config).performAll earlier).value.1.get? field = none)
    (layers call : Nat) (ctx : RequestContext) (current : Option Span) :
    let schema (form : ServingForm) := ((Registry.new config).performAll
      (earlier ++ .register (form.registration feed field receiver arguments allocation) ::
        later)).value.1.freeze.value.2
    feed.Interchangeable field receiver arguments call ctx schema fun form =>
      ((SubscribeService.stacked (schema form) layers).start call ⟨field, ctx⟩ current).value := by
  intro schema
  have holds := Registry.invariant_of_performAll earlier (Registry.invariant_new config)
  -- each form has a descriptor of its own, and its schema resolves the field to it
  choose descriptor compiled shape using fun form : ServingForm =>
    form.exists_compile feed field receiver arguments allocation
  have known : ∀ form, (schema form).resolver? field = some (descriptor form) := by
    intro form
    have own := form.field_registration feed field receiver arguments allocation
    have resolved := Registry.resolver?_of_registered holds opened (compiled form)
      (by rw [own]; exact free) later
    rw [own] at resolved
    show (Registry.performAll _ _).value.1.freeze.value.2.resolver? field = _
    rw [Registry.performAll_append]
    exact resolved
  have started : ∀ form, ((SubscribeService.stacked (schema form) layers).start call ⟨field, ctx⟩
      current).value = .wrapped call layers
        (.resolving ((descriptor form).subscribe call ctx).value) := by
    intro form
    have request : (schema form).resolver? (SubscribeRequest.mk field ctx).field =
        some (descriptor form) := known form
    exact (SubscribeService.start_stacked_of_some call request layers current).1
  constructor
  · intro error failed form
    have unbound :=
      (form.bound_registration feed field receiver arguments allocation call ctx).trans failed
    have answers := Registration.answersAfter_of_bound_error (compiled form) unbound
    rw [started]
    exact SubscribeFuture.answersAfter_wrapped_resolving call layers answers
  · intro source values bound
    choose stream steps op answers using fun form : ServingForm =>
      ServingForm.exists_stream (compiled form) bound
    refine ⟨descriptor, stream, ?_, ?_⟩
    · intro form
      refine ⟨known form, shape form, ?_⟩
      rw [started]
      exact SubscribeFuture.answersAfter_wrapped_resolving call layers (answers form)
    · intro ctx sink
      constructor
      · intro form
        exact Delivery.handsOver_of_objects (descriptor form) ctx sink (steps form)
      · intro first second
        have name : ∀ form, (descriptor form).name = field := by
          intro form
          obtain ⟨-, -, name, -⟩ := Registration.of_compile (compiled form)
          exact name.trans (form.field_registration feed field receiver arguments allocation)
        apply Delivery.indistinct_start ctx sink
        · rw [name first, name second]
        · rw [steps first, steps second]
        · rw [op first, op second]

/-- A feed that has a pointer and then none, and breaks before its end. -/
def tickFeed : SharedFeed "Tick" where
  label := "ticks"
  steps _ _ :=
    [.item (some { object := .plain (.entry 0) "Tick" (.single (.number 1)), typed := rfl }),
      .pending, .item none, .failure (.ofText "feed lost"), .finish]

/-- The feed is registered behind another field, and a freeze follows at once. -/
theorem serving_forms_interchangeable_ticks :
    let earlier := [RegistryCall.register
      (ServingForm.immediate.registration tickFeed "quotes" .source [] (.minted 0 0))]
    let before := ((Registry.new {}).performAll earlier).value.1
    let schema (form : ServingForm) := ((Registry.new {}).performAll
      (earlier ++ [.register (form.registration tickFeed "ticks" .source [.named "symbol" true]
        (.minted 1 0)), .freeze])).value.1.freeze.value.2
    before.frozen = false ∧ before.get? "ticks" = none ∧
      tickFeed.Interchangeable "ticks" .source [.named "symbol" true] 0
        (RequestContext.withArgument {} "symbol" none) schema fun form =>
          ((SubscribeService.stacked (schema form) 1).start 0
            ⟨"ticks", RequestContext.withArgument {} "symbol" none⟩ none).value := by
  intro earlier before schema
  have opened : before.frozen = false := rfl
  have free : before.get? "ticks" = none := by decide
  exact ⟨opened, free, serving_forms_interchangeable tickFeed "ticks" .source
    [.named "symbol" true] (.minted 1 0) {} earlier [.freeze] opened free 1 0
    (RequestContext.withArgument {} "symbol" none) none⟩

end SubscriptionFields
