import Mathlib.Data.List.Basic
import Mathlib.Data.List.Induction
import SubscriptionFields.Proofs.FirstAccepted
import SubscriptionFields.Proofs.SequentialHistory

/-!
# Fields do not depend on each other

Calls that put fields into a new registry are made in some order. What a call is answered, and what
it leaves under its field, depends on the registry only by what is found under that field
(`AgreeOn.perform`), and a call for another field leaves that alone (`AgreeOn.elsewhere`). Hence
the answers for a field, and what is found there in the end, are those of its own calls made alone
(`answers_filter`, `agreeOn_filter`).

The listing is the one part that the calls of a field do not decide: it has the fields in the order
of their first accepted calls (`order_made`).
-/

set_option autoImplicit false

namespace SubscriptionFields

/-- A call is for the field of the registration behind it. -/
theorem FieldCall.field?_call (call : FieldCall) :
    call.call.field? = some call.registration.field := by
  cases call with
  | register registration => rfl
  | insert registration descriptor compiled =>
    obtain ⟨-, -, name, -⟩ := Registration.of_compile compiled
    exact congrArg some name

namespace Registry

/-! ## What a call depends on -/

/-- Two registries still take fields, under the same settings, and have the same under one field. -/
structure AgreeOn (field : String) (first second : Registry) : Prop where
  first_opened : first.frozen = false
  second_opened : second.frozen = false
  config_eq : first.config = second.config
  get?_eq : first.get? field = second.get? field

/-- Registries that agree on a field answer an insertion for it alike, and still agree afterwards.
-/
theorem AgreeOn.insert {first second : Registry} {descriptor : OperationDescriptor}
    (agree : AgreeOn descriptor.name first second) :
    (first.insert descriptor).value.2 = (second.insert descriptor).value.2 ∧
      AgreeOn descriptor.name (first.insert descriptor).value.1
        (second.insert descriptor).value.1 := by
  have same := agree.get?_eq
  cases found : first.get? descriptor.name with
  | none =>
    rw [found] at same
    rw [insert_of_free agree.first_opened found, insert_of_free agree.second_opened same.symm]
    refine ⟨rfl, agree.first_opened, agree.second_opened, agree.config_eq, ?_⟩
    simp
  | some existing =>
    rw [found] at same
    rw [insert_of_taken agree.first_opened found, insert_of_taken agree.second_opened same.symm]
    exact ⟨by rw [agree.config_eq], agree⟩

/-- A registration that does not compile is refused with the reason and changes nothing. -/
theorem register_of_uncompiled {registry : Registry} (opened : registry.frozen = false)
    {registration : Registration} {reason : ConfigError}
    (uncompiled : registration.compile.value = .error reason) :
    (registry.register registration).value =
      (registry, .error (.misconfigured registration.field reason)) := by
  simp [register, prepare, commit, opened, uncompiled]

/-- Registries that agree on a field answer its registration alike, and still agree afterwards. -/
theorem AgreeOn.register {first second : Registry} {registration : Registration}
    (agree : AgreeOn registration.field first second) :
    (first.register registration).value.2 = (second.register registration).value.2 ∧
      AgreeOn registration.field (first.register registration).value.1
        (second.register registration).value.1 := by
  cases compiles : registration.compile.value with
  | error reason =>
    rw [register_of_uncompiled agree.first_opened compiles,
      register_of_uncompiled agree.second_opened compiles]
    exact ⟨rfl, agree⟩
  | ok descriptor =>
    obtain ⟨-, -, name, -⟩ := Registration.of_compile compiles
    rw [register_of_compile first compiles, register_of_compile second compiles]
    rw [← name] at agree ⊢
    exact agree.insert

/-- Registries that agree on a field answer a call for it alike, and agree on it afterwards. -/
theorem AgreeOn.perform {first second : Registry} {call : FieldCall}
    (agree : AgreeOn call.registration.field first second) :
    (first.perform call.call).value.2 = (second.perform call.call).value.2 ∧
      AgreeOn call.registration.field (first.perform call.call).value.1
        (second.perform call.call).value.1 := by
  cases call with
  | register registration =>
    obtain ⟨answer, after⟩ := AgreeOn.register agree
    exact ⟨congrArg CallResult.registered answer, after⟩
  | insert registration descriptor compiled =>
    obtain ⟨-, -, name, -⟩ := Registration.of_compile compiled
    have here : AgreeOn descriptor.name first second := name ▸ agree
    obtain ⟨answer, after⟩ := here.insert
    exact ⟨congrArg CallResult.registered answer, name ▸ after⟩

/-- A call for another field changes nothing of what they agree on. -/
theorem AgreeOn.elsewhere {first second : Registry} {field : String} {call : FieldCall}
    (agree : AgreeOn field first second) (other : call.registration.field ≠ field) :
    AgreeOn field (first.perform call.call).value.1 second := by
  refine perform_keeps_of_field (fun next => AgreeOn field next second) call.field?_call agree ?_
  intro descriptor name
  refine ⟨agree.first_opened, agree.second_opened, agree.config_eq, ?_⟩
  rw [get?_publish, if_neg (name ▸ other)]
  exact agree.get?_eq

/-! ## Calls made in an order -/

section Orders

variable {ι : Type} (config : RegistryConfig) (call : ι → FieldCall)

/-- The registry after the calls were made in the given order, and what they returned. -/
def made (order : List ι) : Registry × List CallResult :=
  ((new config).performAll (order.map fun name => (call name).call)).value

/-- What each call returned. -/
def answers (order : List ι) : List (ι × CallResult) :=
  order.zip (made config call order).2

/-- Whether a call is for the given field. -/
def isFor (field : String) (name : ι) : Bool :=
  (call name).registration.field = field

/-- The last call of an order is made in the registry that the others have left. -/
theorem made_concat (order : List ι) (name : ι) :
    made config call (order ++ [name]) =
      (((made config call order).1.perform (call name).call).value.1,
        (made config call order).2 ++
          [((made config call order).1.perform (call name).call).value.2]) := by
  simp only [made, List.map_append, performAll_append, List.map_cons, List.map_nil,
    performAll_cons, performAll_nil]

/-- Every call returns something. -/
theorem length_made (order : List ι) : (made config call order).2.length = order.length := by
  induction order using List.reverseRecOn with
  | nil => rfl
  | append_singleton order name ih =>
    rw [made_concat, List.length_append, List.length_append, ih]
    rfl

/-- The last call of an order is answered behind the others. -/
theorem answers_concat (order : List ι) (name : ι) :
    answers config call (order ++ [name]) = answers config call order ++
      [(name, ((made config call order).1.perform (call name).call).value.2)] := by
  have length := length_made config call order
  rw [answers, made_concat, List.zip_append length.symm]
  rfl

/-- The calls are answered in the order in which they are made. -/
theorem map_fst_answers (order : List ι) : (answers config call order).map Prod.fst = order :=
  List.map_fst_zip (Nat.le_of_eq (length_made config call order).symm)

/-- What is found under a field is what its own calls alone leave there. -/
theorem agreeOn_filter (field : String) (order : List ι) :
    AgreeOn field (made config call order).1
      (made config call (order.filter (isFor call field))).1 := by
  induction order using List.reverseRecOn with
  | nil => exact ⟨rfl, rfl, rfl, rfl⟩
  | append_singleton order name ih =>
    rw [List.filter_append, made_concat]
    by_cases own : (call name).registration.field = field
    · have kept : [name].filter (isFor call field) = [name] := by simp [isFor, own]
      rw [kept, made_concat]
      subst own
      exact ih.perform.2
    · have dropped : [name].filter (isFor call field) = [] := by simp [isFor, own]
      rw [dropped, List.append_nil]
      exact ih.elsewhere own

/-- The calls for a field are answered as if they were made alone. -/
theorem answers_filter (field : String) (order : List ι) :
    (answers config call order).filter (fun entry => isFor call field entry.1) =
      answers config call (order.filter (isFor call field)) := by
  induction order using List.reverseRecOn with
  | nil => rfl
  | append_singleton order name ih =>
    rw [List.filter_append, answers_concat, List.filter_append, ih]
    by_cases own : (call name).registration.field = field
    · have kept : isFor call field name = true := by simp [isFor, own]
      have agree := agreeOn_filter config call field order
      subst own
      rw [List.filter_singleton, List.filter_singleton, kept]
      simp only [cond_true]
      rw [answers_concat, agree.perform.1]
    · have dropped : isFor call field name = false := by simp [isFor, own]
      rw [List.filter_singleton, List.filter_singleton, dropped]
      simp

/-! ## Listing -/

/-- Calls for fields never close the registry. -/
theorem opened_made (order : List ι) : (made config call order).1.frozen = false :=
  (agreeOn_filter config call "" order).first_opened

/-- The invariant of the registry holds after any order of calls. -/
theorem invariant_made (order : List ι) : (made config call order).1.Invariant :=
  invariant_of_performAll _ (invariant_new config)

/-- The fields of the accepted calls, in the order in which they were made. -/
def acceptedFields (order : List ι) : List String :=
  ((answers config call order).filter fun entry => entry.2.accepted).map
    fun entry => (call entry.1).registration.field

/-- What a call for a field adds to a listing: the field, if it is accepted and not listed yet. -/
def addition (listing : List String) (field : String) (result : CallResult) : List String :=
  if result.accepted = true ∧ field ∉ listing then [field] else []

/-- An insertion that is accepted lists its field, unless it is listed already. -/
theorem order_insert {registry : Registry} (holds : registry.Invariant)
    (opened : registry.frozen = false) (descriptor : OperationDescriptor) :
    (registry.insert descriptor).value.1.order = registry.order ++
      addition registry.order descriptor.name
        (.registered (registry.insert descriptor).value.2) := by
  have listed := holds.mem_order_iff descriptor.name
  cases registry.insert_outcome descriptor with
  | frozen closed _ => cases opened.symm.trans closed
  | refused existing _ taken _ result => simp [result, addition, CallResult.accepted]
  | discarded existing _ taken _ result => simp [result, addition, listed, taken]
  | published _ free result =>
    simp [result, addition, listed, free, publish, CallResult.accepted]

/-- A call that is accepted lists its field, unless it is listed already. -/
theorem order_perform {registry : Registry} (holds : registry.Invariant)
    (opened : registry.frozen = false) (call : FieldCall) :
    (registry.perform call.call).value.1.order = registry.order ++
      addition registry.order call.registration.field
        (registry.perform call.call).value.2 := by
  cases call with
  | insert registration descriptor compiled =>
    obtain ⟨-, -, name, -⟩ := Registration.of_compile compiled
    have inserted := order_insert holds opened descriptor
    rw [name] at inserted
    exact inserted
  | register registration =>
    show (registry.register registration).value.1.order = registry.order ++
      addition registry.order registration.field
        (.registered (registry.register registration).value.2)
    cases compiles : registration.compile.value with
    | ok descriptor =>
      obtain ⟨-, -, name, -⟩ := Registration.of_compile compiles
      rw [registry.register_of_compile compiles, ← name]
      exact order_insert holds opened descriptor
    | error reason =>
      rw [register_of_uncompiled opened compiles]
      simp [addition, CallResult.accepted]

/-- The fields are listed in the order of their first accepted calls. -/
theorem order_made (order : List ι) :
    (made config call order).1.order = (acceptedFields config call order).eraseDups := by
  induction order using List.reverseRecOn with
  | nil => rfl
  | append_singleton order name ih =>
    have step := order_perform (invariant_made config call order)
      (opened_made config call order) (call name)
    have concat : acceptedFields config call (order ++ [name]) =
        acceptedFields config call order ++
          if ((made config call order).1.perform (call name).call).value.2.accepted
            then [(call name).registration.field] else [] := by
      unfold acceptedFields
      rw [answers_concat, List.filter_append, List.map_append, List.filter_singleton]
      cases ((made config call order).1.perform (call name).call).value.2.accepted <;> rfl
    rw [made_concat, concat, List.eraseDups_append, ← ih]
    refine step.trans (congrArg _ ?_)
    unfold addition
    rw [ih]
    cases ((made config call order).1.perform (call name).call).value.2.accepted with
    | false => rfl
    | true =>
      by_cases listed : (call name).registration.field ∈ acceptedFields config call order
      · simp [List.removeAll, listed]
      · simp [List.removeAll, listed, List.eraseDups_cons]

/-! ## The call that a descriptor comes from -/

/-- The first accepted call for a field. -/
def founder? (field : String) (order : List ι) : Option ι :=
  ((answers config call order).find? fun entry =>
    isFor call field entry.1 && entry.2.accepted).map Prod.fst

/-- The first accepted call for a field is found among the calls for that field alone. -/
theorem founder?_eq (field : String) (order : List ι) :
    founder? config call field order =
      ((answers config call (order.filter (isFor call field))).find?
        fun entry => entry.2.accepted).map Prod.fst := by
  rw [← answers_filter, List.find?_filter]
  simp only [Bool.decide_and, Bool.decide_eq_true, founder?]

/-- A field is found exactly if it has a first accepted call, with that call's descriptor. -/
theorem get?_made (field : String) (order : List ι) :
    match founder? config call field order with
    | none => (made config call order).1.get? field = none
    | some founder => ∃ descriptor, (call founder).registration.compile.value = .ok descriptor ∧
        (made config call order).1.get? field = some descriptor := by
  have found := get?_performAll_new config (order.map call) field
  have calls : (order.map call).map FieldCall.call = order.map fun name => (call name).call := by
    rw [List.map_map]
    rfl
  rw [calls] at found
  have named : firstAccepted? field (order.map call) (made config call order).2 =
      (founder? config call field order).map fun name => (call name).registration := by
    unfold firstAccepted? founder? answers
    rw [List.zip_map_left, List.find?_map, Option.map_map, Option.map_map]
    rfl
  cases first : founder? config call field order with
  | none =>
    rw [first] at named
    simp only [made] at named
    simp only [named] at found
    exact found
  | some founder =>
    rw [first] at named
    simp only [made] at named
    simp only [named] at found
    exact found

/-- A descriptor that was answered is found under the field of the call. -/
theorem get?_of_mem_answers {name : ι} {descriptor : OperationDescriptor} {order : List ι}
    (answered : (name, .registered (.ok descriptor)) ∈ answers config call order) :
    (made config call order).1.get? (call name).registration.field = some descriptor := by
  induction order using List.reverseRecOn with
  | nil => cases answered
  | append_singleton order last ih =>
    rw [answers_concat] at answered
    rw [made_concat]
    rcases List.mem_append.1 answered with earlier | now
    · have grown := extends_of_effect
        ((made config call order).1.perform_effect (call last).call)
      exact grown.get?_eq _ _ (ih earlier)
    · obtain ⟨rfl, accepted⟩ := Prod.mk.inj (List.mem_singleton.1 now)
      exact get?_of_perform_ok (call name).field?_call accepted.symm

end Orders

end Registry

end SubscriptionFields
