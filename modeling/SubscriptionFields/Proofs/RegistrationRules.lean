import SubscriptionFields.Proofs.SequentialHistory

/-!
# The rules by which a registration is answered

A call that puts a field into the registry is answered by four rules, of which the first that
applies counts: the registry is frozen; the return type cannot back a subscription; the name is
taken, and then the settings decide; the name is free, and the new descriptor is published. The
rules are the same for a registration and for the insertion of a descriptor, except that a
descriptor has a return type that was accepted before.

`ruling` is the answer by these rules; both calls give it (`value_register`, `value_insert`), and it
is unfolded nowhere but in `answers_ruling`, which says when each answer is given. A call either
publishes what it answers or leaves the registry as it is, and it never runs an operation.
-/

set_option autoImplicit false

namespace SubscriptionFields

/-- Why a type cannot back a subscription, if it cannot. -/
def TypeDescription.refusal? (declared : TypeDescription) : Option ConfigError :=
  match declared.classify with
  | .error reason => some reason
  | .ok _ => none

namespace Registration

variable {registration : Registration}

/-- A registration is refused a descriptor for the reason that the classifier gives. -/
theorem compile_eq_error_iff {reason : ConfigError} :
    registration.compile.value = .error reason ↔
      registration.type.describe.refusal? = some reason := by
  unfold TypeDescription.refusal? compile
  cases classified : registration.type.describe.classify with
  | error own =>
    rw [OperationDescriptor.compile_of_classify_eq_error _ _ _ _ _ classified]
    simp
  | ok shape =>
    obtain ⟨adapter, -, -, compiled⟩ :=
      OperationDescriptor.compile_of_classify_eq_ok registration.field registration.receiver
        registration.arguments registration.operation registration.allocation classified
    rw [compiled]
    simp

/-- A descriptor is the one made of a registration: it is stored in the registration's place, and it
has the registration's field, its return type and the shape of that type. -/
structure Makes (registration : Registration) (descriptor : OperationDescriptor) : Prop where
  compiled : registration.compile.value = .ok descriptor
  allocation_eq : descriptor.allocation = registration.allocation
  name_eq : descriptor.name = registration.field
  declared_eq : descriptor.declared = registration.type.describe
  classified : registration.type.describe.classify = .ok descriptor.shape

/-- What a registration compiles to is the descriptor made of it. -/
theorem makes_iff {descriptor : OperationDescriptor} :
    registration.Makes descriptor ↔ registration.compile.value = .ok descriptor := by
  refine ⟨Makes.compiled, fun compiled => ?_⟩
  have found := compiled
  unfold compile at found
  cases classified : registration.type.describe.classify with
  | error own =>
    rw [OperationDescriptor.compile_of_classify_eq_error _ _ _ _ _ classified] at found
    cases found
  | ok shape =>
    obtain ⟨adapter, -, -, result⟩ :=
      OperationDescriptor.compile_of_classify_eq_ok registration.field registration.receiver
        registration.arguments registration.operation registration.allocation classified
    rw [result] at found
    cases found
    exact ⟨compiled, rfl, rfl, rfl, classified⟩

/-- Compiling a descriptor calls no operation and evaluates no binder. -/
theorem observations_compile (registration : Registration) :
    registration.compile.observations = [] := by
  unfold compile OperationDescriptor.compile
  split
  · rfl
  · split <;> rfl

end Registration

namespace Registry

/-! ## The rules -/

/-- The answer to a call for a field. What is handed in is a descriptor, or the reason why there is
none. -/
def ruling (registry : Registry) (field : String)
    (handed : Except ConfigError OperationDescriptor) : Answer :=
  if registry.frozen then
    .error .frozen
  else
    match handed with
    | .error reason => .error (.misconfigured field reason)
    | .ok descriptor =>
      match registry.get? field with
      | some existing => registry.config.answerTaken field existing
      | none => .ok descriptor

/-- When each answer is given to a call for a field. What is handed in has a return type that is
refused for some reason, or else makes descriptors. -/
structure AnswersByRules (registry : Registry) (field : String) (refusal : Option ConfigError)
    (makes : OperationDescriptor → Prop) (answer : Answer) : Prop where
  frozen_iff : answer = .error .frozen ↔ registry.frozen = true
  misconfigured_iff : ∀ name reason, answer = .error (.misconfigured name reason) ↔
    registry.frozen = false ∧ refusal = some reason ∧ field = name
  duplicate_iff : ∀ name, answer = .error (.duplicate name) ↔
    registry.frozen = false ∧ refusal = none ∧ field = name ∧
      (registry.get? field).isSome ∧ registry.config.rejectDuplicates = true
  ok_iff : ∀ descriptor, answer = .ok descriptor ↔
    registry.frozen = false ∧ refusal = none ∧
      (registry.get? field = some descriptor ∧ registry.config.rejectDuplicates = false ∨
        registry.get? field = none ∧ makes descriptor)

/-- The ruling is given by the rules. -/
theorem answers_ruling (registry : Registry) (field : String)
    {handed : Except ConfigError OperationDescriptor} {refusal : Option ConfigError}
    {makes : OperationDescriptor → Prop}
    (refused : ∀ reason, handed = .error reason ↔ refusal = some reason)
    (made : ∀ descriptor, handed = .ok descriptor ↔ makes descriptor) :
    registry.AnswersByRules field refusal makes (registry.ruling field handed) := by
  cases closed : registry.frozen with
  | true =>
    have ruled : registry.ruling field handed = .error .frozen := by simp [ruling, closed]
    rw [ruled]
    constructor <;> simp [closed]
  | false =>
    cases handed with
    | error reason =>
      have ruled : registry.ruling field (.error reason) =
          .error (.misconfigured field reason) := by
        simp [ruling, closed]
      have unfit : refusal = some reason := (refused reason).1 rfl
      rw [ruled]
      constructor <;> simp [closed, unfit, and_comm]
    | ok own =>
      have fit : refusal = none := by
        cases refusal with
        | none => rfl
        | some reason => cases (refused reason).2 rfl
      have only : ∀ descriptor, makes descriptor ↔ own = descriptor := by
        intro descriptor
        rw [← made, Except.ok.injEq]
      cases found : registry.get? field with
      | none =>
        have ruled : registry.ruling field (.ok own) = .ok own := by simp [ruling, closed, found]
        rw [ruled]
        constructor <;> simp [closed, fit, only, found]
      | some existing =>
        have ruled : registry.ruling field (.ok own) =
            registry.config.answerTaken field existing := by
          simp [ruling, closed, found]
        rw [ruled]
        cases strict : registry.config.rejectDuplicates with
        | true =>
          constructor <;> simp [RegistryConfig.answerTaken, closed, fit, found, strict]
        | false =>
          constructor <;> simp [RegistryConfig.answerTaken, closed, fit, found, strict]

/-! ## What the calls answer -/

/-- An insertion is answered by the ruling on its descriptor. -/
theorem answer_insert (registry : Registry) (descriptor : OperationDescriptor) :
    (registry.insert descriptor).value.2 = registry.ruling descriptor.name (.ok descriptor) := by
  unfold ruling
  cases registry.insert_outcome descriptor with
  | frozen closed result => simp [result, closed]
  | refused existing opened taken strict result =>
    simp [result, opened, taken, RegistryConfig.answerTaken, strict]
  | discarded existing opened taken tolerant result =>
    simp [result, opened, taken, RegistryConfig.answerTaken, tolerant]
  | published opened free result => simp [result, opened, free]

/-- A registration is answered by the ruling on what it compiles to. -/
theorem answer_register (registry : Registry) (registration : Registration) :
    (registry.register registration).value.2 =
      registry.ruling registration.field registration.compile.value := by
  cases registry.register_outcome registration with
  | frozen closed result => simp [result, ruling, closed]
  | misconfigured reason opened uncompiled result => simp [result, ruling, opened, uncompiled]
  | compiled descriptor opened compiled result =>
    rw [result, answer_insert, compiled, (Registration.makes_iff.2 compiled).name_eq]

/-- An insertion is answered by the rules, with a return type that is never refused. -/
theorem answersByRules_insert (registry : Registry) (descriptor : OperationDescriptor) :
    registry.AnswersByRules descriptor.name none (descriptor = ·)
      (registry.insert descriptor).value.2 := by
  rw [answer_insert]
  exact registry.answers_ruling descriptor.name (fun _ => iff_of_false nofun nofun)
    (fun _ => iff_of_eq (Except.ok.injEq _ _))

/-- A registration is answered by the rules. -/
theorem answersByRules_register (registry : Registry) (registration : Registration) :
    registry.AnswersByRules registration.field registration.type.describe.refusal?
      registration.Makes (registry.register registration).value.2 := by
  rw [answer_register]
  exact registry.answers_ruling registration.field
    (fun _ => Registration.compile_eq_error_iff) (fun _ => Registration.makes_iff.symm)

/-! ## What the calls do -/

/-- A registry holds one descriptor more than another: it is found under its own name, which is
listed behind all other fields, and apart from that nothing is touched. -/
structure Gains (registry : Registry) (descriptor : OperationDescriptor) (after : Registry) :
    Prop where
  get?_self : after.get? descriptor.name = some descriptor
  get?_other : ∀ field, field ≠ descriptor.name → after.get? field = registry.get? field
  order_eq : after.order = registry.order ++ [descriptor.name]
  config_eq : after.config = registry.config
  frozen_eq : after.frozen = registry.frozen
  schema_eq : after.schema = registry.schema
  schemasMade_eq : after.schemasMade = registry.schemasMade

/-- Publication adds the descriptor and does nothing else. -/
theorem gains_publish (registry : Registry) (descriptor : OperationDescriptor) :
    registry.Gains descriptor (registry.publish descriptor) where
  get?_self := by simp
  get?_other field different := by simp [different.symm]
  order_eq := rfl
  config_eq := rfl
  frozen_eq := rfl
  schema_eq := rfl
  schemasMade_eq := rfl

/-- What a call for a field does besides answering: it runs nothing, and it publishes the descriptor
that it answers if the field is new, and else leaves the registry as it is. -/
structure Settles (registry : Registry) (field : String) (done : Noted (Registry × Answer)) :
    Prop where
  kept_of_error : ∀ error, done.value.2 = .error error → done.value.1 = registry
  kept_of_taken : (registry.get? field).isSome → done.value.1 = registry
  published : ∀ descriptor, done.value.2 = .ok descriptor → registry.get? field = none →
    descriptor.name = field ∧ done.value.1 = registry.publish descriptor ∧
      registry.Gains descriptor done.value.1
  runs_nothing : done.observations = []

/-- An insertion runs nothing. -/
theorem observations_insert (registry : Registry) (descriptor : OperationDescriptor) :
    (registry.insert descriptor).observations = [] := by
  unfold insert
  split
  · rfl
  · split
    · split <;> rfl
    · rfl

/-- A registration runs nothing. -/
theorem observations_register (registry : Registry) (registration : Registration) :
    (registry.register registration).observations = [] := by
  unfold register prepare
  split
  · rfl
  · cases compiles : registration.compile.value with
    | error reason => simp [compiles, registration.observations_compile, commit]
    | ok descriptor =>
      simp [compiles, registration.observations_compile, commit, observations_insert]

/-- An insertion publishes its descriptor or leaves the registry as it is. -/
theorem settles_insert (registry : Registry) (descriptor : OperationDescriptor) :
    registry.Settles descriptor.name (registry.insert descriptor) := by
  refine ⟨?_, ?_, ?_, registry.observations_insert descriptor⟩
  all_goals
    cases registry.insert_outcome descriptor with
    | frozen closed result => simp [result]
    | refused existing opened taken strict result => simp [result]
    | discarded existing opened taken tolerant result => simp [result, taken]
    | published opened free result => simp [result, free, gains_publish]

/-- A registration publishes what it compiles to or leaves the registry as it is. -/
theorem settles_register (registry : Registry) (registration : Registration) :
    registry.Settles registration.field (registry.register registration) := by
  have runs_nothing := registry.observations_register registration
  cases registry.register_outcome registration with
  | frozen closed result =>
    exact ⟨by simp [result], by simp [result], by simp [result], runs_nothing⟩
  | misconfigured reason opened uncompiled result =>
    exact ⟨by simp [result], by simp [result], by simp [result], runs_nothing⟩
  | compiled descriptor opened compiled result =>
    obtain ⟨error, taken, published, -⟩ := registry.settles_insert descriptor
    rw [(Registration.makes_iff.2 compiled).name_eq] at taken published
    rw [← result] at error taken published
    exact ⟨error, taken, published, runs_nothing⟩

/-- A registration is answered that the registry is frozen exactly if it is; else that the field is
misconfigured, for the classifier's reason, exactly if the classifier refuses the return type; else
that it is a duplicate exactly if the name is taken and duplicates are refused; and else with the
descriptor in place if the name is taken, and with a new one of its own name, type and shape if not.
The insertion of a descriptor is answered by the same rules, with a return type that is never
refused. A call that answers with a new descriptor adds it, under its name and at the end of the
order, and touches nothing else; every other call leaves the registry as it is, and none of them
runs anything. -/
theorem registrations_answered_by_rules (registry : Registry) :
    (∀ registration : Registration,
      registry.AnswersByRules registration.field registration.type.describe.refusal?
          registration.Makes (registry.register registration).value.2 ∧
        registry.Settles registration.field (registry.register registration)) ∧
    ∀ descriptor : OperationDescriptor,
      registry.AnswersByRules descriptor.name none (descriptor = ·)
          (registry.insert descriptor).value.2 ∧
        registry.Settles descriptor.name (registry.insert descriptor) := by
  constructor
  · intro registration
    exact ⟨registry.answersByRules_register registration, registry.settles_register registration⟩
  · intro descriptor
    exact ⟨registry.answersByRules_insert descriptor, registry.settles_insert descriptor⟩

end Registry

end SubscriptionFields
