import SubscriptionFields.Field.Schedule

/-!
# What one call of the registry can do

A call of the registry ends on one of a few paths. This file lists them once, with the conditions
under which each is taken, what it returns, and the registry that it leaves (`insert_outcome`,
`register_outcome`). To the registry itself only three things happen: nothing, one more field, or
the publication of the schema (`perform_effect`). Whatever is kept by these three is kept by every
run, and no later file looks into the calls again.
-/

set_option autoImplicit false

namespace SubscriptionFields

namespace Registry

/-- The registry after its schema is published. -/
def close (registry : Registry) : Registry :=
  { registry with
    frozen := true
    schema := some (.ofResolvers registry.schemasMade registry.resolvers)
    schemasMade := registry.schemasMade + 1 }

/-! ## The paths of an insertion -/

/-- How the insertion of a descriptor ends. -/
inductive InsertOutcome (registry : Registry) (descriptor : OperationDescriptor)
    (done : Registry × Answer) : Prop
  /-- The registration phase is over. -/
  | frozen (closed : registry.frozen = true) (result : done = (registry, .error .frozen))
  /-- The name is taken and duplicates are refused. -/
  | refused (existing : OperationDescriptor) (opened : registry.frozen = false)
      (taken : registry.get? descriptor.name = some existing)
      (strict : registry.config.rejectDuplicates = true)
      (result : done = (registry, .error (.duplicate descriptor.name)))
  /-- The name is taken and the descriptor in place is kept. -/
  | discarded (existing : OperationDescriptor) (opened : registry.frozen = false)
      (taken : registry.get? descriptor.name = some existing)
      (tolerant : registry.config.rejectDuplicates = false)
      (result : done = (registry, .ok existing))
  /-- The name is free. -/
  | published (opened : registry.frozen = false) (free : registry.get? descriptor.name = none)
      (result : done = (registry.publish descriptor, .ok descriptor))

/-- An insertion ends on one of its paths. -/
theorem insert_outcome (registry : Registry) (descriptor : OperationDescriptor) :
    InsertOutcome registry descriptor (registry.insert descriptor).value := by
  unfold insert
  split
  · rename_i closed
    exact .frozen closed rfl
  · rename_i opened
    rw [Bool.not_eq_true] at opened
    split
    · rename_i existing taken
      split
      · rename_i strict
        exact .refused existing opened taken strict rfl
      · rename_i tolerant
        rw [Bool.not_eq_true] at tolerant
        exact .discarded existing opened taken tolerant rfl
    · rename_i free
      exact .published opened free rfl

/-! ## The paths of a registration -/

/-- How a registration ends. -/
inductive RegisterOutcome (registry : Registry) (registration : Registration)
    (done : Registry × Answer) : Prop
  /-- The registration phase is over. -/
  | frozen (closed : registry.frozen = true) (result : done = (registry, .error .frozen))
  /-- The return type cannot back a subscription. -/
  | misconfigured (reason : ConfigError) (opened : registry.frozen = false)
      (uncompiled : registration.compile.value = .error reason)
      (result : done = (registry, .error (.misconfigured registration.field reason)))
  /-- The descriptor compiles and is inserted. -/
  | compiled (descriptor : OperationDescriptor) (opened : registry.frozen = false)
      (compiled : registration.compile.value = .ok descriptor)
      (result : done = (registry.insert descriptor).value)

/-- A registration ends on one of its paths. -/
theorem register_outcome (registry : Registry) (registration : Registration) :
    RegisterOutcome registry registration (registry.register registration).value := by
  unfold register prepare
  split
  · rename_i closed
    exact .frozen closed rfl
  · rename_i opened
    rw [Bool.not_eq_true] at opened
    cases compiles : registration.compile.value with
    | ok descriptor =>
      refine .compiled descriptor opened compiles ?_
      simp [compiles, commit]
    | error reason =>
      refine .misconfigured reason opened compiles ?_
      simp [compiles, commit]

/-- A registration that compiles inserts its descriptor, whether the registry is frozen or not. -/
theorem register_of_compile (registry : Registry) {registration : Registration}
    {descriptor : OperationDescriptor} (compiled : registration.compile.value = .ok descriptor) :
    (registry.register registration).value = (registry.insert descriptor).value := by
  cases frozen : registry.frozen with
  | true => simp [register, prepare, commit, insert, frozen]
  | false => simp [register, prepare, commit, frozen, compiled]

/-- A descriptor whose name is free in an open registry is published. -/
theorem insert_of_free {registry : Registry} {descriptor : OperationDescriptor}
    (opened : registry.frozen = false) (free : registry.get? descriptor.name = none) :
    (registry.insert descriptor).value = (registry.publish descriptor, .ok descriptor) := by
  simp [insert, opened, free]

/-! ## The effect of a call -/

/-- What a call does to the registry. -/
inductive Effect (registry next : Registry) : Prop
  | none (result : next = registry)
  | published (descriptor : OperationDescriptor) (opened : registry.frozen = false)
      (free : registry.get? descriptor.name = none) (result : next = registry.publish descriptor)
  | closed (unpublished : registry.schema = none) (result : next = registry.close)

/-- An insertion does nothing or adds a field. -/
theorem insert_effect (registry : Registry) (descriptor : OperationDescriptor) :
    Effect registry (registry.insert descriptor).value.1 := by
  cases registry.insert_outcome descriptor with
  | frozen _ result => exact .none (by rw [result])
  | refused _ _ _ _ result => exact .none (by rw [result])
  | discarded _ _ _ _ result => exact .none (by rw [result])
  | published opened free result => exact .published descriptor opened free (by rw [result])

/-- A registration does nothing or adds a field. -/
theorem register_effect (registry : Registry) (registration : Registration) :
    Effect registry (registry.register registration).value.1 := by
  cases registry.register_outcome registration with
  | frozen _ result => exact .none (by rw [result])
  | misconfigured _ _ _ result => exact .none (by rw [result])
  | compiled descriptor _ _ result =>
    rw [result]
    exact registry.insert_effect descriptor

/-- A freeze does nothing or publishes the schema. -/
theorem freeze_effect (registry : Registry) :
    Effect registry registry.freeze.value.1 := by
  unfold freeze
  split
  · exact .none rfl
  · rename_i unpublished
    exact .closed unpublished rfl

/-- A call does nothing, adds a field, or publishes the schema. -/
theorem perform_effect (registry : Registry) (call : RegistryCall) :
    Effect registry (registry.perform call).value.1 := by
  cases call with
  | register registration => exact registry.register_effect registration
  | insert descriptor => exact registry.insert_effect descriptor
  | freeze => exact registry.freeze_effect

/-! ## Runs -/

/-- A run without calls does nothing. -/
@[simp] theorem performAll_nil (registry : Registry) :
    (registry.performAll []).value = (registry, []) := rfl

/-- A run goes on from where its first call leads. -/
@[simp] theorem performAll_cons (registry : Registry) (call : RegistryCall)
    (calls : List RegistryCall) :
    (registry.performAll (call :: calls)).value =
      (((registry.perform call).value.1.performAll calls).value.1,
        (registry.perform call).value.2 ::
          ((registry.perform call).value.1.performAll calls).value.2) := rfl

/-- What every call keeps is kept by every run. -/
theorem performAll_keeps {holds : Registry → Prop}
    (keeps : ∀ registry next, holds registry → Effect registry next → holds next)
    (calls : List RegistryCall) (registry : Registry) (start : holds registry) :
    holds (registry.performAll calls).value.1 := by
  induction calls generalizing registry with
  | nil => exact start
  | cons call calls ih =>
    rw [performAll_cons]
    exact ih _ (keeps _ _ start (registry.perform_effect call))

end Registry

end SubscriptionFields
