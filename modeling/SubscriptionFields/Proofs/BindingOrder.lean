import Mathlib.Data.List.Nodup
import Mathlib.Data.List.TakeWhile
import SubscriptionFields.Proofs.Routing

/-!
# Binding is ordered and all or nothing

A call of a field evaluates its binders from left to right, the receiver first, and stops at the
first that fails. Either all of them answer, and the operation is called once with what they
answered, or the operation is not called and the handle has the first error at its first poll. There
is nothing in between, whatever the shape of the field (`Registration.CallCourse`).

Which of the two happens is read off the answers that the binders have on the context of the
request. Answers are values only, or they have a first error (`Binding.values_or_error`). In the
first case the values are what is bound (`Binding.outcome_of_values`) and the order of evaluation is
gone through to its end; in the second it is cut behind the first error
(`Binding.upToError_of_error`). Either way the call leaves the notes of the evaluations that were
carried out, with all their effects (`Registration.notes_of_values`, `Registration.notes_of_error`),
and what is observed of it is read off these notes.
-/

set_option autoImplicit false

namespace SubscriptionFields

/-- Whether a binder is evaluated. -/
def Observation.isBinder : Observation → Bool
  | .bindReceiver _ => true
  | .bindArgument _ _ => true
  | _ => false

namespace Binding

/-! ## Answers -/

/-- Answers are all values, or they have a first error. -/
theorem values_or_error (answers : List (Except FieldError SourceValue)) :
    (∃ values : List SourceValue, answers = values.map .ok) ∨
      ∃ before error after, answers = before ++ .error error :: after ∧
        ∀ answer ∈ before, answer.isOk := by
  induction answers with
  | nil => exact .inl ⟨[], rfl⟩
  | cons answer answers ih =>
    cases answer with
    | error error => exact .inr ⟨[], error, answers, rfl, nofun⟩
    | ok value =>
      rcases ih with ⟨values, rfl⟩ | ⟨before, error, after, rfl, succeed⟩
      · exact .inl ⟨value :: values, rfl⟩
      · refine .inr ⟨.ok value :: before, error, after, rfl, ?_⟩
        intro answer listed
        rcases List.mem_cons.1 listed with rfl | behind
        · rfl
        · exact succeed answer behind

/-- Answers that are values bind these values. -/
theorem mapM_id_map_ok (values : List SourceValue) :
    (values.map .ok : List (Except FieldError SourceValue)).mapM id = .ok values := by
  induction values with
  | nil => rfl
  | cons value values ih =>
    rw [List.map_cons, List.mapM_cons, ih]
    rfl

variable {receiver : ReceiverBinder} {arguments : List ArgumentBinder} {call : Nat}
  {ctx : RequestContext}

/-- If all binders answer values, these are what the call binds. -/
theorem outcome_of_values {source : SourceValue} {values : List SourceValue}
    (answered : answers receiver arguments call ctx = (source :: values).map .ok) :
    outcome receiver arguments call ctx = .ok (source, values) := by
  obtain ⟨first, rest⟩ := List.cons.inj answered
  rw [outcome, first, rest]
  show (do return (source, ← (values.map .ok).mapM id) : Except FieldError _) = _
  rw [mapM_id_map_ok]
  rfl

/-- A call has one binder more than it has arguments. -/
theorem length_answers : (answers receiver arguments call ctx).length = arguments.length + 1 := by
  simp [answers, argumentAnswers]

/-- Each binder of a call has one evaluation. -/
theorem length_evaluations (label : String) :
    (evaluations label receiver arguments call ctx).length = arguments.length + 1 := by
  rw [← length_answers, ← map_value_evaluations label, List.length_map]

/-! ## The order of evaluation -/

/-- No binder stands in the order twice. -/
theorem nodup_order (label : String) (arity : Nat) : (order label arity).Nodup := by
  refine List.nodup_cons.2 ⟨by simp, ?_⟩
  refine List.Nodup.map ?_ List.nodup_range
  intro first second same
  injection same

/-- The order of the binders has no call of the operation in it. -/
theorem countP_order (label : String) (arity : Nat) :
    (order label arity).countP Observation.isInvocation = 0 := by
  rw [List.countP_eq_zero]
  simp [order, Observation.isInvocation]

/-- If no answer is an error, a trace is gone through to its end. -/
theorem upToError_of_values {α : Type} {trace : List α} {values : List SourceValue}
    (long : trace.length = values.length) : upToError trace (values.map .ok) = trace := by
  have all : ((values.map .ok : List (Except FieldError SourceValue)).takeWhile Except.isOk) =
      values.map .ok := by
    rw [List.takeWhile_eq_self_iff]
    intro answer listed
    obtain ⟨value, -, rfl⟩ := List.mem_map.1 listed
    rfl
  rw [upToError, all, List.length_map]
  exact List.take_of_length_le (by omega)

/-- A trace is cut behind the first error. -/
theorem upToError_of_error {α : Type} (trace : List α)
    {before after : List (Except FieldError SourceValue)} {error : FieldError}
    (succeed : ∀ answer ∈ before, answer.isOk) :
    upToError trace (before ++ .error error :: after) = trace.take (before.length + 1) := by
  have front : (before ++ .error error :: after).takeWhile Except.isOk = before := by
    rw [List.takeWhile_append_of_pos succeed, List.takeWhile_cons_of_neg Bool.false_ne_true,
      List.append_nil]
  rw [upToError, front]

end Binding

/-! ## Calls -/

namespace Registration

/-- How a call of a registered field goes, whatever its binders are. -/
inductive CallCourse (registration : Registration) (descriptor : OperationDescriptor) (call : Nat)
    (ctx : RequestContext) : Prop
  /-- All binders answer. They are all evaluated, with the effects that they have, and then the
  operation is called with their answers in the order of declaration; the handle is the adapted
  result. -/
  | called (source : SourceValue) (values : List SourceValue)
      (answered : Binding.answers registration.receiver registration.arguments call ctx =
        (source :: values).map .ok)
      (arity : values.length = descriptor.arity)
      (observed : (descriptor.subscribe call ctx).observations =
        Binding.order registration.operation.label descriptor.arity ++
          .invoked registration.operation.label source values ::
            (registration.type.announce (registration.operation.run source values)).observations)
      (noted : (descriptor.subscribe call ctx).notes =
        (Binding.evaluations registration.operation.label registration.receiver
            registration.arguments call ctx).flatMap Noted.notes ++
          .observed (.invoked registration.operation.label source values) ::
            (registration.type.announce (registration.operation.run source values)).notes)
      (once : (descriptor.subscribe call ctx).observations.countP Observation.isInvocation = 1)
      (adapted : ∃ adapter, registration.type.returnAdapter = some adapter ∧
        (descriptor.subscribe call ctx).value =
          adapter.convert (registration.operation.run source values))
  /-- A binder fails, and those in front of it do not. Nothing happens behind it, no effect of the
  binders there, and the handle has its error at the first poll. -/
  | refused (before : List (Except FieldError SourceValue)) (error : FieldError)
      (after : List (Except FieldError SourceValue))
      (answered : Binding.answers registration.receiver registration.arguments call ctx =
        before ++ .error error :: after)
      (succeed : ∀ answer ∈ before, answer.isOk)
      (observed : (descriptor.subscribe call ctx).observations =
        (Binding.order registration.operation.label descriptor.arity).take (before.length + 1))
      (noted : (descriptor.subscribe call ctx).notes =
        ((Binding.evaluations registration.operation.label registration.receiver
          registration.arguments call ctx).take (before.length + 1)).flatMap Noted.notes)
      (uncalled : (descriptor.subscribe call ctx).observations.countP Observation.isInvocation = 0)
      (ready : (descriptor.subscribe call ctx).value.poll = pure (.ready (.error error)))

variable {registration : Registration} {descriptor : OperationDescriptor} {call : Nat}
  {ctx : RequestContext}

/-- A descriptor has as many arguments as its registration. -/
theorem arity_of_compile (compiled : registration.compile.value = .ok descriptor) :
    descriptor.arity = registration.arguments.length := by
  obtain ⟨-, -, -, -, arguments, -, -⟩ := of_compile compiled
  rw [OperationDescriptor.arity, arguments]

/-- If all binders answer values, all evaluations are carried out, and then the operation is called
with these values. -/
theorem notes_of_values {source : SourceValue} {values : List SourceValue}
    (compiled : registration.compile.value = .ok descriptor)
    (answered : Binding.answers registration.receiver registration.arguments call ctx =
      (source :: values).map .ok) :
    (descriptor.subscribe call ctx).notes =
      (Binding.evaluations registration.operation.label registration.receiver
          registration.arguments call ctx).flatMap Noted.notes ++
        .observed (.invoked registration.operation.label source values) ::
          (registration.type.announce (registration.operation.run source values)).notes := by
  obtain ⟨adapter, -, -, receiver, arguments, label, calls⟩ := of_compile compiled
  have bound := Binding.outcome_of_values answered
  have long := congrArg List.length answered
  rw [Binding.length_answers,
    ← Binding.length_evaluations registration.operation.label, List.length_map] at long
  rw [← receiver, ← arguments] at bound
  rw [OperationDescriptor.notes_subscribe_of_bound_ok bound, OperationDescriptor.notes_bindCall,
    label, receiver, arguments, answered, Binding.upToError_of_values long, calls]
  simp [OperationDescriptor.callThrough, observe]

/-- A first error ends the evaluations, and nothing follows. -/
theorem notes_of_error {before after : List (Except FieldError SourceValue)}
    {error : FieldError} (compiled : registration.compile.value = .ok descriptor)
    (answered : Binding.answers registration.receiver registration.arguments call ctx =
      before ++ .error error :: after)
    (succeed : ∀ answer ∈ before, answer.isOk) :
    (descriptor.subscribe call ctx).notes =
      ((Binding.evaluations registration.operation.label registration.receiver
        registration.arguments call ctx).take (before.length + 1)).flatMap Noted.notes := by
  obtain ⟨adapter, -, -, receiver, arguments, label, -⟩ := of_compile compiled
  have bound := Binding.outcome_eq_error_iff.2 ⟨before, after, answered, succeed⟩
  rw [← receiver, ← arguments] at bound
  rw [OperationDescriptor.notes_subscribe_of_bound_error bound,
    OperationDescriptor.notes_bindCall, label, receiver, arguments, answered,
    Binding.upToError_of_error _ succeed]

/-- If all binders answer values, all are seen to be evaluated before the operation is called. -/
theorem observations_of_values {source : SourceValue} {values : List SourceValue}
    (compiled : registration.compile.value = .ok descriptor)
    (answered : Binding.answers registration.receiver registration.arguments call ctx =
      (source :: values).map .ok) :
    (descriptor.subscribe call ctx).observations =
      Binding.order registration.operation.label descriptor.arity ++
        .invoked registration.operation.label source values ::
          (registration.type.announce (registration.operation.run source values)).observations := by
  have evaluated := Binding.filterMap_take_evaluations registration.operation.label
    registration.receiver registration.arguments call ctx (registration.arguments.length + 1)
  rw [List.take_of_length_le (by simp [Binding.length_evaluations]),
    List.take_of_length_le (by simp [Binding.order])] at evaluated
  rw [Noted.observations, notes_of_values compiled answered, List.filterMap_append, evaluated,
    arity_of_compile compiled]
  rfl

/-- A first error is the last thing that is seen of a call. -/
theorem observations_of_error {before after : List (Except FieldError SourceValue)}
    {error : FieldError} (compiled : registration.compile.value = .ok descriptor)
    (answered : Binding.answers registration.receiver registration.arguments call ctx =
      before ++ .error error :: after)
    (succeed : ∀ answer ∈ before, answer.isOk) :
    (descriptor.subscribe call ctx).observations =
      (Binding.order registration.operation.label descriptor.arity).take (before.length + 1) := by
  rw [Noted.observations, notes_of_error compiled answered succeed,
    Binding.filterMap_take_evaluations, arity_of_compile compiled]

/-- A call of a registered field goes one of its two ways. -/
theorem callCourse_of_compile (compiled : registration.compile.value = .ok descriptor)
    (call : Nat) (ctx : RequestContext) : registration.CallCourse descriptor call ctx := by
  rcases Binding.values_or_error
      (Binding.answers registration.receiver registration.arguments call ctx) with
    ⟨values, answered⟩ | ⟨before, error, after, answered, succeed⟩
  · cases values with
    | nil => cases answered
    | cons source values =>
      have bound : registration.bound call ctx = .ok (source, values) :=
        Binding.outcome_of_values answered
      have observed := observations_of_values compiled answered
      have long := congrArg List.length answered
      rw [Binding.length_answers, List.length_map, List.length_cons] at long
      refine .called source values answered ?_ observed (notes_of_values compiled answered) ?_
        (value_subscribe_of_bound_ok compiled bound)
      · rw [arity_of_compile compiled]
        omega
      · rw [observed, List.countP_append, Binding.countP_order, List.countP_cons,
          ReturnType.countP_announce]
        rfl
  · have bound : registration.bound call ctx = .error error :=
      Binding.outcome_eq_error_iff.2 ⟨before, after, answered, succeed⟩
    refine .refused before error after answered succeed
      (observations_of_error compiled answered succeed)
      (notes_of_error compiled answered succeed) ?_ ?_
    · rw [observations_subscribe compiled]
      exact countP_observedCall_of_bound_error bound
    · rw [value_subscribe_of_bound_error compiled bound]
      rfl

/-- A call evaluates binders in their order, and none of them again. -/
theorem CallCourse.binders_sublist (course : registration.CallCourse descriptor call ctx) :
    ((descriptor.subscribe call ctx).observations.filter Observation.isBinder).Sublist
      (Binding.order registration.operation.label descriptor.arity) := by
  cases course with
  | called source values _ _ observed _ _ _ =>
    have announced (type : ReturnType) (result : type.Result) :
        (type.announce result).observations.filter Observation.isBinder = [] := by
      cases type <;> rfl
    rw [observed, List.filter_append, List.filter_cons_of_neg Bool.false_ne_true, announced,
      List.append_nil]
    exact List.filter_sublist
  | refused before error after _ _ observed _ _ _ =>
    rw [observed]
    exact List.filter_sublist.trans (List.take_sublist _ _)

/-- Binding is ordered, stops at the first failure, and is all or nothing. A call of a registered
field goes one of two ways: either every binder answers and the operation is called, once and with
all the answers, or it is not called and the handle has the first error at its first poll. No binder
is evaluated twice, and neither a binder nor the operation is left to the polls of the handle. -/
theorem binding_ordered_all_or_nothing (compiled : registration.compile.value = .ok descriptor)
    (call : Nat) (ctx : RequestContext) :
    registration.CallCourse descriptor call ctx ∧
      ((descriptor.subscribe call ctx).observations.filter Observation.isBinder).Nodup ∧
      ∀ count, ∀ seen ∈ (pollUpTo SubscriptionHandle.poll count
        (descriptor.subscribe call ctx).value).observations, seen.ofCall = false := by
  have course := callCourse_of_compile compiled call ctx
  refine ⟨course, (Binding.nodup_order _ _).sublist course.binders_sublist, fun count => ?_⟩
  exact forall_observed_pollUpTo SubscriptionHandle.ofCall_of_mem_poll count _

/-- A field whose second argument is over a quota and whose third is missing as well. -/
def quotaRegistration : Registration where
  field := "fills"
  type := .async (.stream (.shared "Fill"))
  receiver := .source
  arguments :=
    [.named "symbol" true,
      .computed fun _ _ =>
        { answer := .error (.ofKnown (.quotaExceeded "desk")), effects := ["quota asked for"] },
      .named "venue" true]
  operation :=
    { label := "fills", run := fun _ _ => { op := "fills", pending := 2, outcome := .never } }
  allocation := .minted 0 0

/-- An argument without a value is bound, the quota is asked for and is what the call fails with,
and the missing argument behind it is not looked for. -/
theorem binding_ordered_all_or_nothing_quota :
    ∃ descriptor, quotaRegistration.compile.value = .ok descriptor ∧
      let started := descriptor.subscribe 0 (RequestContext.withArgument {} "symbol" none)
      started.observations =
        [.bindReceiver "fills", .bindArgument "fills" 0, .bindArgument "fills" 1] ∧
      started.notes = started.observations.map .observed ++ [.caused "quota asked for"] ∧
      started.value.poll = pure (.ready (.error (.ofKnown (.quotaExceeded "desk")))) ∧
      quotaRegistration.CallCourse descriptor 0 (RequestContext.withArgument {} "symbol" none) ∧
      (started.observations.filter Observation.isBinder).Nodup ∧
      ∀ count, ∀ seen ∈ (pollUpTo SubscriptionHandle.poll count started.value).observations,
        seen.ofCall = false :=
  ⟨_, rfl, rfl, rfl, rfl, binding_ordered_all_or_nothing rfl 0
    (RequestContext.withArgument {} "symbol" none)⟩

end Registration

end SubscriptionFields
