import SubscriptionFields.Proofs.FirstAccepted

/-!
# Publication is permanent and freezing is final

A registry only ever grows. Whatever a call does, every field that was found is found again with
the same descriptor, the order of registration goes on at its end, and a published schema stays
(`extends_of_effect`); so it is along every run (`extends_performAll`). A call that answers a
descriptor leaves it behind under its own field (`get?_of_perform_ok`), hence it is found there ever
after, and every schema that is published resolves the field to it.

Once the schema is published nothing moves any more: every call leaves the registry as it is, and
answers either that it is frozen or that one schema (`performAll_of_closed`).
-/

set_option autoImplicit false

namespace SubscriptionFields

namespace RegistryCall

/-- The field that a call is for. -/
def field? : RegistryCall → Option String
  | .register registration => some registration.field
  | .insert descriptor => some descriptor.name
  | .freeze => none

/-- What a call returns once the given schema is published. -/
def answerClosed (snapshot : Schema) : RegistryCall → CallResult
  | .freeze => .frozen snapshot
  | _ => .registered (.error .frozen)

end RegistryCall

namespace Registry

/-! ## Growing -/

/-- A registry is a later state of another: nothing that was published is taken back. -/
structure Extends (before after : Registry) : Prop where
  get?_eq : ∀ field descriptor,
    before.get? field = some descriptor → after.get? field = some descriptor
  order_prefix : before.order <+: after.order
  schema_eq : ∀ schema, before.schema = some schema → after.schema = some schema
  config_eq : after.config = before.config

/-- Every registry is a later state of itself. -/
theorem Extends.refl (registry : Registry) : registry.Extends registry where
  get?_eq _ _ found := found
  order_prefix := List.prefix_rfl
  schema_eq _ published := published
  config_eq := rfl

/-- A later state of a later state is a later state. -/
theorem Extends.trans {first second third : Registry} (earlier : first.Extends second)
    (later : second.Extends third) : first.Extends third where
  get?_eq field descriptor found :=
    later.get?_eq field descriptor (earlier.get?_eq field descriptor found)
  order_prefix := earlier.order_prefix.trans later.order_prefix
  schema_eq schema published := later.schema_eq schema (earlier.schema_eq schema published)
  config_eq := later.config_eq.trans earlier.config_eq

/-- Publishing under a free name takes nothing back. -/
theorem extends_publish {registry : Registry} {descriptor : OperationDescriptor}
    (free : registry.get? descriptor.name = none) :
    registry.Extends (registry.publish descriptor) where
  get?_eq field other found := by
    -- the field that is found is not the one that is free
    have different : descriptor.name ≠ field := by
      intro same
      rw [same, found] at free
      cases free
    rw [get?_publish, if_neg different]
    exact found
  order_prefix := List.prefix_append registry.order [descriptor.name]
  schema_eq _ published := published
  config_eq := rfl

/-- Publishing the first schema takes nothing back. -/
theorem extends_close {registry : Registry} (unpublished : registry.schema = none) :
    registry.Extends registry.close where
  get?_eq _ _ found := found
  order_prefix := List.prefix_rfl
  schema_eq schema published := by
    rw [unpublished] at published
    cases published
  config_eq := rfl

/-- Whatever a call does, it takes nothing back. -/
theorem extends_of_effect {registry next : Registry} (effect : Effect registry next) :
    registry.Extends next := by
  cases effect with
  | none result => exact result ▸ Extends.refl registry
  | published descriptor _ free result => exact result ▸ extends_publish free
  | closed unpublished result => exact result ▸ extends_close unpublished

/-- The last registry of a run is a later state of the first. -/
theorem extends_performAll (calls : List RegistryCall) (registry : Registry) :
    registry.Extends (registry.performAll calls).value.1 := by
  have keeps : ∀ middle next, registry.Extends middle → Effect middle next →
      registry.Extends next := by
    intro middle next reached effect
    exact reached.trans (extends_of_effect effect)
  exact performAll_keeps keeps calls registry (Extends.refl registry)

/-- A run may be made in two parts. -/
theorem performAll_append (registry : Registry) (first second : List RegistryCall) :
    (registry.performAll (first ++ second)).value =
      (((registry.performAll first).value.1.performAll second).value.1,
        (registry.performAll first).value.2 ++
          ((registry.performAll first).value.1.performAll second).value.2) := by
  induction first generalizing registry with
  | nil => rfl
  | cons call first ih =>
    rw [List.cons_append, performAll_cons, performAll_cons, ih]
    rfl

/-! ## Answers -/

/-- The descriptor that an insertion answers is found under the name. -/
theorem get?_of_insert_ok {registry : Registry} {descriptor answered : OperationDescriptor}
    (accepted : (registry.insert descriptor).value.2 = .ok answered) :
    (registry.insert descriptor).value.1.get? descriptor.name = some answered := by
  cases registry.insert_outcome descriptor with
  | frozen _ result =>
    rw [result] at accepted
    cases accepted
  | refused existing _ _ _ result =>
    rw [result] at accepted
    cases accepted
  | discarded existing _ taken _ result =>
    rw [result] at accepted ⊢
    cases accepted
    exact taken
  | published _ _ result =>
    rw [result] at accepted ⊢
    cases accepted
    simp

/-- The descriptor that a call answers is found under the field of the call. -/
theorem get?_of_perform_ok {registry : Registry} {call : RegistryCall} {field : String}
    {descriptor : OperationDescriptor} (about : call.field? = some field)
    (accepted : (registry.perform call).value.2 = .registered (.ok descriptor)) :
    (registry.perform call).value.1.get? field = some descriptor := by
  cases call with
  | freeze => cases about
  | insert inserted =>
    cases about
    exact get?_of_insert_ok (CallResult.registered.inj accepted)
  | register registration =>
    cases about
    replace accepted : (registry.register registration).value.2 = .ok descriptor :=
      CallResult.registered.inj accepted
    show (registry.register registration).value.1.get? registration.field = some descriptor
    cases registry.register_outcome registration with
    | frozen _ result =>
      rw [result] at accepted
      cases accepted
    | misconfigured _ _ _ result =>
      rw [result] at accepted
      cases accepted
    | compiled own _ compiled result =>
      rw [result] at accepted ⊢
      obtain ⟨-, -, name, -⟩ := Registration.of_compile compiled
      have found := get?_of_insert_ok accepted
      rw [name] at found
      exact found

/-! ## The end of the registration phase -/

/-- The schema that freezing answers is the one that is published from then on. -/
theorem schema_freeze (registry : Registry) :
    registry.freeze.value.1.schema = some registry.freeze.value.2 := by
  unfold freeze
  split
  · rename_i schema published
    exact published
  · rfl

variable {registry : Registry} {snapshot : Schema}

/-- A registry with a schema is frozen. -/
theorem frozen_of_schema (holds : registry.Invariant)
    (published : registry.schema = some snapshot) : registry.frozen = true := by
  rw [holds.frozen_iff, published]
  rfl

/-- No call moves a registry whose schema is published. -/
theorem perform_of_closed (holds : registry.Invariant)
    (published : registry.schema = some snapshot) (call : RegistryCall) :
    (registry.perform call).value = (registry, call.answerClosed snapshot) := by
  have closed : registry.frozen = true := frozen_of_schema holds published
  cases call with
  | register registration =>
    simp [perform, register, prepare, commit, closed, RegistryCall.answerClosed]
  | insert descriptor => simp [perform, insert, closed, RegistryCall.answerClosed]
  | freeze => simp [perform, freeze, published, RegistryCall.answerClosed]

/-- No run moves a registry whose schema is published. -/
theorem performAll_of_closed (holds : registry.Invariant)
    (published : registry.schema = some snapshot) (calls : List RegistryCall) :
    (registry.performAll calls).value = (registry, calls.map (·.answerClosed snapshot)) := by
  induction calls with
  | nil => rfl
  | cons call calls ih =>
    rw [performAll_cons, perform_of_closed holds published, ih]
    rfl

/-- A schema resolves a field to what the registry finds there. -/
theorem resolver?_of_schema (holds : registry.Invariant)
    (published : registry.schema = some snapshot) (field : String) :
    snapshot.resolver? field = registry.get? field :=
  (holds.schema_shows snapshot published).resolver?_eq field

/-! ## Runs -/

/-- A descriptor is established under a field: it is found there, and whatever schema is or will be
published resolves the field to it. -/
structure Establishes (registry : Registry) (field : String) (descriptor : OperationDescriptor) :
    Prop where
  get?_eq : registry.get? field = some descriptor
  resolver?_eq : ∀ schema, registry.schema = some schema →
    schema.resolver? field = some descriptor
  frozen_resolver?_eq : registry.freeze.value.2.resolver? field = some descriptor

/-- What is found under a field is established there. -/
theorem establishes_of_get? (holds : registry.Invariant) {field : String}
    {descriptor : OperationDescriptor} (found : registry.get? field = some descriptor) :
    registry.Establishes field descriptor where
  get?_eq := found
  resolver?_eq schema published := by
    rw [resolver?_of_schema holds published]
    exact found
  frozen_resolver?_eq := by
    rw [(freeze_shows holds).resolver?_eq]
    exact found

/-- A field that is registered while its name is free is resolved to its own descriptor, whatever
calls follow. -/
theorem resolver?_of_registered (holds : registry.Invariant) (opened : registry.frozen = false)
    {registration : Registration} {descriptor : OperationDescriptor}
    (compiled : registration.compile.value = .ok descriptor)
    (free : registry.get? registration.field = none) (later : List RegistryCall) :
    (registry.performAll (.register registration :: later)).value.1.freeze.value.2.resolver?
      registration.field = some descriptor := by
  obtain ⟨-, -, name, -⟩ := Registration.of_compile compiled
  have done : (registry.perform (.register registration)).value.1 =
      registry.publish descriptor := by
    rw [← name] at free
    show (registry.register registration).value.1 = registry.publish descriptor
    rw [register_of_compile registry compiled, insert_of_free opened free]
  have found : (registry.perform (.register registration)).value.1.get? registration.field =
      some descriptor := by
    rw [done, get?_publish, if_pos name]
  have next := invariant_of_effect holds (registry.perform_effect (.register registration))
  have grown := extends_performAll later (registry.perform (.register registration)).value.1
  rw [performAll_cons, (freeze_shows (invariant_of_performAll later next)).resolver?_eq]
  exact grown.get?_eq registration.field descriptor found

/-- Take any run on a new registry, and cut it anywhere. Fields that were found before the cut are
found with the same descriptors after it, and the order of fields only grows at its end. If the call
at the cut answers a descriptor, that one is established under the call's field after every further
call. If the call at the cut is a freeze, the registry stays as it is whatever calls follow, its
schema is the one that the freeze answered, every further freeze answers this schema too, and every
other call answers that the registry is frozen. -/
theorem published_fields_permanent (config : RegistryConfig) (earlier later : List RegistryCall) :
    let before := ((new config).performAll earlier).value.1
    let after := (before.performAll later).value.1
    (∀ field descriptor,
      before.get? field = some descriptor → after.get? field = some descriptor) ∧
    before.order <+: after.order ∧
    (∀ call field descriptor, call.field? = some field →
      (before.perform call).value.2 = .registered (.ok descriptor) →
        ((before.perform call).value.1.performAll later).value.1.Establishes field descriptor) ∧
    (before.freeze.value.1.schema = some before.freeze.value.2 ∧
      (before.freeze.value.1.performAll later).value =
        (before.freeze.value.1, later.map (·.answerClosed before.freeze.value.2))) := by
  intro before after
  have holds : before.Invariant := invariant_of_performAll earlier (invariant_new config)
  have grown : before.Extends after := extends_performAll later before
  refine ⟨grown.get?_eq, grown.order_prefix, ?_, before.schema_freeze, ?_⟩
  · intro call field descriptor about accepted
    have found := get?_of_perform_ok about accepted
    have next := invariant_of_effect holds (before.perform_effect call)
    refine establishes_of_get? (invariant_of_performAll later next) ?_
    exact (extends_performAll later (before.perform call).value.1).get?_eq field descriptor found
  · have next := invariant_of_effect holds before.freeze_effect
    exact performAll_of_closed next before.schema_freeze later

end Registry

end SubscriptionFields
