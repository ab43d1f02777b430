import SubscriptionFields.Proofs.Routing

/-!
# Errors keep their identity

An error arises at one of three places: a binder fails, the operation's handle fails, or the stream
breaks. The first two are raised before there is a stream (`Registration.Raises`), and the future of
the request fails with that error, at the poll at which it was raised and at no other, and with no
other error. The third leaves the future alone: the delivery of the stream tells the sink, once,
after all elements in front of the error, and stops. The ladder:

* what a sink is told is at most the failure of the stream (`Sink.reported_receipt`), and if the
  sink refuses nothing it is told of it behind all values (`Sink.receipt_of_accepted`);
* a raised error is answered by the handle of the field (`Raises.answersAfter_subscribe`), and
  whatever error the handle answers was raised (`exists_raises_of_ready`);
* a field that a schema resolves keeps its errors (`keepsErrors_of_resolver`).
-/

set_option autoImplicit false

namespace SubscriptionFields

open StreamStep

/-! ## What a sink is told -/

def Observation.reported? : Observation → Option FieldError
  | .reported error => some error
  | _ => none

namespace Sink

variable (sink : Sink) (failure : Option FieldError)

/-- A sink that refuses nothing takes all values and then sees what ends them. -/
theorem receipt_of_accepted (taken values : List SourceValue)
    (accepts : sink.accepted taken values = values) :
    sink.receipt failure taken values =
      (Receipt.ended (taken ++ values) failure).after (values.map .published) := by
  induction values generalizing taken with
  | nil =>
    rw [List.append_nil]
    rfl
  | cons value values ih =>
    unfold accepted at accepts
    split at accepts
    · rename_i takes
      have rest := ih (taken ++ [value]) (List.cons.inj accepts).2
      rw [receipt, takes, rest, Receipt.offered, Receipt.after_after, List.append_assoc]
      rfl
    · cases accepts

/-- A sink is told of nothing but the failure that ends the values, and at most once. -/
theorem reported_receipt (taken values : List SourceValue) :
    (sink.receipt failure taken values).seen.filterMap Observation.reported? <+:
      failure.toList := by
  induction values generalizing taken with
  | nil =>
    cases failure with
    | none => exact List.prefix_rfl
    | some error => exact List.prefix_rfl
  | cons value values ih =>
    rw [receipt]
    cases (sink.publish taken value).refusal with
    | none => exact ih (taken ++ [value])
    | some error => exact List.nil_prefix

end Sink

/-- A delivery reports nothing but the error at which its stream breaks, and that once at most. -/
theorem Delivery.reported_prefix (field : OperationDescriptor) (ctx : RequestContext)
    (stream : SubscriptionStream) (sink : Sink) (count : Nat) :
    (pollUpTo poll count (start field ctx stream sink)).observations.filterMap
        Observation.reported? <+:
      (failure? stream.steps).toList := by
  have told := sink.reported_receipt (failure? stream.steps) [] (yielded stream.steps)
  have seen := (handsOver_start field ctx stream sink).seen_isPrefix count
  have others : ∀ seen : Observation, seen.atSink = false → seen.reported? = none := by
    intro seen elsewhere
    cases seen with
    | reported error => cases elsewhere
    | _ => rfl
  rw [← filterMap_filter_atSink others]
  exact (seen.filterMap Observation.reported?).trans told

/-! ## Errors before there is a stream -/

namespace Registration

variable (registration : Registration) (call : Nat) (ctx : RequestContext)

/-- An error is raised by a call of a registered field, after a number of polls. -/
inductive Raises (error : FieldError) : Nat → Prop
  /-- It is the error of the first binder that fails. -/
  | binder (before after : List (Except FieldError SourceValue))
      (answers : Binding.answers registration.receiver registration.arguments call ctx =
        before ++ .error error :: after)
      (succeed : ∀ answer ∈ before, answer.isOk) : Raises error 0
  /-- The operation is called, and its handle fails with the error. -/
  | handle (source : SourceValue) (values : List SourceValue)
      (bound : registration.bound call ctx = .ok (source, values))
      (failed : registration.type.failed? (registration.operation.run source values) = some error) :
      Raises error (registration.type.waits (registration.operation.run source values))

variable {registration call ctx} {descriptor : OperationDescriptor} {error : FieldError}

/-- The handle of the field answers with the error that is raised, when it is raised. -/
theorem Raises.answersAfter_subscribe {waits : Nat}
    (compiled : registration.compile.value = .ok descriptor)
    (raised : registration.Raises call ctx error waits) :
    AnswersAfter SubscriptionHandle.poll (descriptor.subscribe call ctx).value waits
      (.error error) := by
  cases raised with
  | binder before after answers succeed =>
    apply answersAfter_of_bound_error compiled
    exact Binding.outcome_eq_error_iff.2 ⟨before, after, answers, succeed⟩
  | handle source values bound failed =>
    cases course_subscribe compiled bound with
    | opens element own stream opened unfailed passes same answers =>
      cases failed.symm.trans unfailed
    | fails other unopened found answers =>
      cases failed.symm.trans found
      exact answers
    | hangs unopened unfailed pending => cases failed.symm.trans unfailed

/-- Whatever error the handle of the field answers was raised. -/
theorem exists_raises_of_ready {count : Nat}
    (compiled : registration.compile.value = .ok descriptor)
    (ready : (pollUpTo SubscriptionHandle.poll count (descriptor.subscribe call ctx).value).value =
      .ready (.error error)) :
    ∃ waits < count, registration.Raises call ctx error waits := by
  cases bound : registration.bound call ctx with
  | error first =>
    obtain ⟨before, after, answers, succeed⟩ := Binding.outcome_eq_error_iff.1 bound
    have answered := answersAfter_of_bound_error compiled bound
    obtain ⟨late, same⟩ := answered.eq_of_ready ready
    cases same
    exact ⟨0, late, .binder before after answers succeed⟩
  | ok values =>
    cases course_subscribe compiled bound with
    | opens element own stream opened unfailed passes same answers =>
      cases (answers.eq_of_ready ready).2
    | fails other unopened failed answers =>
      obtain ⟨late, same⟩ := answers.eq_of_ready ready
      cases same
      exact ⟨_, late, .handle values.1 values.2 bound failed⟩
    | hangs unopened unfailed pending =>
      obtain ⟨waiting, found⟩ := pending count
      cases found.symm.trans ready

end Registration

/-! ## Keeping errors -/

/-- The field error that a failed subscription holds, if it holds one. -/
def SubscribeError.inner? : SubscribeError → Option FieldError
  | .unknownField _ => none
  | .field error => some error

/-- A failed subscription shows an error as it was raised: it holds that very error, has its text
and the texts of its sources, and what it holds can be cast to the same types, with the same
values. -/
structure SubscribeError.Shows (failure : SubscribeError) (error : FieldError) : Prop where
  inner?_eq : failure.inner? = some error
  message_eq : failure.message = error.message
  chain_eq : failure.chain = error.chain
  types_eq : failure.inner?.map FieldErrorOf.types = some error.types
  cast?_eq : ∀ type, (failure.inner?.bind fun inner => inner.cast? type) = error.cast? type

/-- The failure of a subscription shows the error that it holds. -/
theorem SubscribeError.shows_field (error : FieldError) :
    SubscribeError.Shows (.field error) error :=
  ⟨rfl, rfl, rfl, rfl, fun _ => rfl⟩

/-- A registration keeps the errors of a request. An error that is raised before there is a stream
is what the future fails with, when it is raised; the future never fails otherwise, and then has no
stream. A stream that breaks is resolved to all the same, and a sink that refuses none of the values
in front of the failure is told of the failure, once and behind these values, by a delivery that
ends with it; nothing else is ever reported. And the operation is called at most once, while the
subscription starts, and not at all if a binder fails: no poll of the future or of a delivery calls
anything. -/
structure Registration.KeepsErrors (registration : Registration) (call : Nat) (ctx : RequestContext)
    (started : Noted SubscribeFuture) : Prop where
  fails : ∀ error waits, registration.Raises call ctx error waits →
    ∃ failure : SubscribeError, failure.Shows error ∧
      AnswersAfter SubscribeFuture.poll started.value waits (.error failure)
  fails_only : ∀ count failure,
    (pollUpTo SubscribeFuture.poll count started.value).value = .ready (.error failure) →
      ∃ error, failure.Shows error ∧ ∃ waits < count, registration.Raises call ctx error waits
  no_stream : ∀ error waits, registration.Raises call ctx error waits → ∀ count stream,
    (pollUpTo SubscribeFuture.poll count started.value).value ≠ .ready (.ok stream)
  breaks : ∀ element own error, registration.opened? call ctx = some ⟨element, own⟩ →
    failure? own.steps = some error → ∃ stream,
      AnswersAfter SubscribeFuture.poll started.value (registration.waits call ctx) (.ok stream) ∧
      ∀ (field : OperationDescriptor) (ctx : RequestContext) (sink : Sink),
        let values := (yielded own.steps).map element.upcast
        sink.accepted [] values = values →
          (Delivery.start field ctx stream sink).HandsOver
            { seen := values.map .published ++ [.reported error]
              outcome := .failed values.length }
  reports_only : ∀ count stream,
    (pollUpTo SubscribeFuture.poll count started.value).value = .ready (.ok stream) →
      ∃ element own, registration.opened? call ctx = some ⟨element, own⟩ ∧
        ∀ (field : OperationDescriptor) (ctx : RequestContext) (sink : Sink) (count : Nat),
          (pollUpTo Delivery.poll count
              (Delivery.start field ctx stream sink)).observations.filterMap
            Observation.reported? <+: (failure? own.steps).toList
  called_once : started.observations.countP Observation.isInvocation ≤ 1
  uncalled : ∀ error, registration.bound call ctx = .error error →
    started.observations.countP Observation.isInvocation = 0
  polls_call_nothing : ∀ count,
    ∀ seen ∈ (pollUpTo SubscribeFuture.poll count started.value).observations, seen.ofCall = false
  deliveries_call_nothing : ∀ (delivery : Delivery) (count : Nat),
    ∀ seen ∈ (pollUpTo Delivery.poll count delivery).observations, seen.ofCall = false

/-- The delivery of a stream that breaks, to a sink that refuses nothing in front of the failure. -/
theorem Delivery.handsOver_of_failure {element : Element} {own : EventStream element.Item}
    {stream : SubscriptionStream} {error : FieldError} (passes : element.PassesOn own stream)
    (broken : failure? own.steps = some error) (field : OperationDescriptor) (ctx : RequestContext)
    (sink : Sink)
    (accepts : sink.accepted [] ((yielded own.steps).map element.upcast) =
      (yielded own.steps).map element.upcast) :
    (start field ctx stream sink).HandsOver
      { seen := ((yielded own.steps).map element.upcast).map .published ++ [.reported error]
        outcome := .failed ((yielded own.steps).map element.upcast).length } := by
  have all := handsOver_start field ctx stream sink
  rw [passes, failure?_map, yielded_map, broken, sink.receipt_of_accepted (some error) [] _ accepts]
    at all
  exact all

/-- A field that the schema knows by the descriptor of a registration keeps its errors, through any
number of spans. -/
theorem Registration.keepsErrors_of_resolver {registration : Registration} {schema : Schema}
    {request : SubscribeRequest} {descriptor : OperationDescriptor}
    (compiled : registration.compile.value = .ok descriptor)
    (known : schema.resolver? request.field = some descriptor) (layers call : Nat)
    (current : Option Span) :
    registration.KeepsErrors call request.ctx
      ((SubscribeService.stacked schema layers).start call request current) := by
  have serves := registration.serves_of_resolver compiled known layers call current
  obtain ⟨started, -⟩ := SubscribeService.start_stacked_of_some call known layers current
  have fails : ∀ error waits, registration.Raises call request.ctx error waits →
      AnswersAfter SubscribeFuture.poll
        ((SubscribeService.stacked schema layers).start call request current).value waits
        (.error (.field error)) := by
    intro error waits raised
    rw [started]
    exact SubscribeFuture.answersAfter_wrapped_resolving call layers
      (raised.answersAfter_subscribe compiled)
  refine
    { fails := ?fails
      fails_only := ?fails_only
      no_stream := ?no_stream
      breaks := ?breaks
      reports_only := ?reports_only
      called_once := serves.called_once
      uncalled := ?uncalled
      polls_call_nothing := serves.polls_call_nothing
      deliveries_call_nothing := ?deliveries_call_nothing }
  case fails =>
    intro error waits raised
    exact ⟨.field error, SubscribeError.shows_field error, fails error waits raised⟩
  case fails_only =>
    intro count failure ready
    rw [started] at ready
    obtain ⟨error, rfl, found⟩ := SubscribeFuture.ready_error_of_wrapped_resolving ready
    exact ⟨error, SubscribeError.shows_field error, exists_raises_of_ready compiled found⟩
  case no_stream =>
    intro error waits raised count stream ready
    cases ((fails error waits raised).eq_of_ready ready).2
  case breaks =>
    intro element own error opened broken
    obtain ⟨stream, passes, -, answers⟩ := exists_answersAfter_of_opened compiled opened
    refine ⟨stream, ?_, ?_⟩
    · rw [started]
      exact SubscribeFuture.answersAfter_wrapped_resolving call layers answers
    · intro field ctx sink values accepts
      exact Delivery.handsOver_of_failure passes broken field ctx sink accepts
  case reports_only =>
    intro count stream ready
    rw [started, SubscribeFuture.ready_ok_wrapped_resolving_iff] at ready
    obtain ⟨element, own, opened, passes⟩ := opened_of_ready compiled ready
    refine ⟨element, own, opened, ?_⟩
    intro field ctx sink count
    have reported := Delivery.reported_prefix field ctx stream sink count
    rw [passes, failure?_map] at reported
    exact reported
  case uncalled =>
    intro error failed
    rw [serves.observed_eq]
    exact countP_observedCall_of_bound_error failed
  case deliveries_call_nothing =>
    intro delivery count
    exact forall_observed_pollUpTo Delivery.ofCall_of_mem_poll count delivery

/-- After any calls that put fields into a registry, of whatever settings, and a freeze, a request
fails with an unknown field exactly if the schema does not have the field. A field that it has keeps
the errors of its request, with or without spans around the service. -/
theorem errors_keep_identity (config : RegistryConfig) (calls : List FieldCall)
    (layers call : Nat) (request : SubscribeRequest) (current : Option Span) :
    let done := ((Registry.new config).performAll (calls.map FieldCall.call)).value
    let schema := done.1.freeze.value.2
    let started := (SubscribeService.stacked schema layers).start call request current
    ((∃ count name, (pollUpTo SubscribeFuture.poll count started.value).value =
        .ready (.error (.unknownField name))) ↔ schema.resolver? request.field = none) ∧
    match firstAccepted? request.field calls done.2 with
    | none => Unserved request.field started
    | some registration => registration.KeepsErrors call request.ctx started := by
  intro done schema started
  have known := resolver?_of_firstAccepted config calls request.field
  cases accepted : firstAccepted? request.field calls done.2 with
  | none =>
    simp only [done, accepted] at known
    have unserved : Unserved request.field started := unserved_of_resolver known layers call current
    refine ⟨iff_of_true ?_ known, unserved⟩
    exact ⟨1, request.field, unserved.unknown 0⟩
  | some registration =>
    simp only [done, accepted] at known
    obtain ⟨descriptor, compiled, found⟩ := known
    have keeps : registration.KeepsErrors call request.ctx started :=
      registration.keepsErrors_of_resolver compiled found layers call current
    refine ⟨iff_of_false ?_ (by rw [found]; nofun), keeps⟩
    rintro ⟨count, name, ready⟩
    obtain ⟨error, shows, -⟩ := keeps.fails_only count (.unknownField name) ready
    cases shows.inner?_eq

end SubscriptionFields
