import SubscriptionFields.Proofs.AdapterSelection
import SubscriptionFields.Proofs.RegistryInvariant

/-!
# The first registration that is accepted

A field is put into a registry by registering it, or by inserting a descriptor that was compiled
from its registration before. After any number of such calls a field is found exactly if one of the
calls for it was accepted, and what is found is the descriptor of the first of them
(`get?_performAll_new`). A later call may be accepted as well, where duplicates are tolerated, but
the descriptor that it answers is the first one and its own is discarded.

The induction runs over the calls and holds for every registry that still takes fields: what was
found before is found afterwards, and only where nothing was found the first accepted call counts
(`routes_performAll`).
-/

set_option autoImplicit false

namespace SubscriptionFields

/-- A call that puts a field into a registry. -/
inductive FieldCall where
  /-- The field is registered. -/
  | register (registration : Registration)
  /-- The field's descriptor is inserted, which has been compiled before. -/
  | insert (registration : Registration) (descriptor : OperationDescriptor)
      (compiled : registration.compile.value = .ok descriptor)

/-- The registration behind a call. -/
def FieldCall.registration : FieldCall → Registration
  | .register registration => registration
  | .insert registration _ _ => registration

/-- The call as the registry sees it. -/
def FieldCall.call : FieldCall → RegistryCall
  | .register registration => .register registration
  | .insert _ descriptor _ => .insert descriptor

/-- Whether a call was answered by a descriptor. -/
def CallResult.accepted : CallResult → Bool
  | .registered (.ok _) => true
  | _ => false

/-- Whether a call was accepted and is for the given field. -/
def acceptedFor (field : String) (entry : FieldCall × CallResult) : Bool :=
  entry.1.registration.field = field && entry.2.accepted

/-- The first registration of a field that was accepted, as the results of the calls say. -/
def firstAccepted? (field : String) (calls : List FieldCall) (results : List CallResult) :
    Option Registration :=
  ((calls.zip results).find? (acceptedFor field)).map fun entry => entry.1.registration

/-- A compiled descriptor has the name, the binders and the operation of its registration, and
calls the operation through the adapter of its return type. -/
theorem Registration.of_compile {registration : Registration} {descriptor : OperationDescriptor}
    (compiled : registration.compile.value = .ok descriptor) :
    ∃ adapter, registration.type.returnAdapter = some adapter ∧
      descriptor.name = registration.field ∧ descriptor.receiver = registration.receiver ∧
      descriptor.arguments = registration.arguments ∧
      descriptor.label = registration.operation.label ∧
      descriptor.call = OperationDescriptor.callThrough adapter registration.operation := by
  unfold Registration.compile at compiled
  cases classified : registration.type.describe.classify with
  | error refusal =>
    rw [OperationDescriptor.compile_of_classify_eq_error _ _ _ _ _ classified] at compiled
    cases compiled
  | ok shape =>
    obtain ⟨adapter, found, -, result⟩ :=
      OperationDescriptor.compile_of_classify_eq_ok registration.field registration.receiver
        registration.arguments registration.operation registration.allocation classified
    rw [result] at compiled
    cases compiled
    exact ⟨adapter, found, rfl, rfl, rfl, rfl, rfl⟩

namespace Registry

/-! ## One call -/

/-- How a field is found after some calls, by what was found before and the first registration of
the field that was accepted. -/
def Routes (before after : Registry) (field : String) : Option Registration → Prop
  | none => after.get? field = before.get? field
  | some registration => ∃ descriptor, registration.compile.value = .ok descriptor ∧
      after.get? field = (before.get? field).or (some descriptor)

/-- The insertion of the descriptor of a registration leaves the registry open and, if it is
accepted, the field is found. -/
theorem routes_insert {registry : Registry} (opened : registry.frozen = false)
    {registration : Registration} {descriptor : OperationDescriptor}
    (compiled : registration.compile.value = .ok descriptor) (field : String) :
    (registry.insert descriptor).value.1.frozen = false ∧
      Routes registry (registry.insert descriptor).value.1 field
        (if registration.field = field ∧
            (CallResult.registered (registry.insert descriptor).value.2).accepted
          then some registration else none) := by
  obtain ⟨-, -, name, -⟩ := Registration.of_compile compiled
  cases registry.insert_outcome descriptor with
  | frozen closed => rw [opened] at closed; cases closed
  | refused existing _ taken _ result =>
    rw [result]
    refine ⟨opened, ?_⟩
    simp [CallResult.accepted, Routes]
  | discarded existing _ taken _ result =>
    rw [result]
    refine ⟨opened, ?_⟩
    by_cases here : registration.field = field
    · rw [name, here] at taken
      simp [CallResult.accepted, here, Routes, compiled, taken]
    · simp [here, Routes]
  | published _ free result =>
    rw [result]
    refine ⟨opened, ?_⟩
    by_cases here : registration.field = field
    · rw [name, here] at free
      simp [CallResult.accepted, here, Routes, compiled, free, name]
    · simp [here, Routes, name]

/-- A call for a field leaves the registry open and routes by itself alone. -/
theorem routes_perform {registry : Registry} (opened : registry.frozen = false) (call : FieldCall)
    (field : String) :
    (registry.perform call.call).value.1.frozen = false ∧
      Routes registry (registry.perform call.call).value.1 field
        (if acceptedFor field (call, (registry.perform call.call).value.2)
          then some call.registration else none) := by
  simp only [acceptedFor, Bool.and_eq_true, decide_eq_true_eq]
  cases call with
  | insert registration descriptor compiled => exact routes_insert opened compiled field
  | register registration =>
    show (registry.register registration).value.1.frozen = false ∧
      Routes registry (registry.register registration).value.1 field
        (if registration.field = field ∧
            (CallResult.registered (registry.register registration).value.2).accepted
          then some registration else none)
    cases registry.register_outcome registration with
    | frozen closed => rw [opened] at closed; cases closed
    | misconfigured reason _ _ result =>
      rw [result]
      refine ⟨opened, ?_⟩
      simp [CallResult.accepted, Routes]
    | compiled descriptor _ compiled result =>
      rw [result]
      exact routes_insert opened compiled field

/-! ## Many calls -/

/-- What was found before is found afterwards. -/
theorem Routes.get?_eq_some {before after : Registry} {field : String}
    {accepted : Option Registration} {descriptor : OperationDescriptor}
    (routes : Routes before after field accepted) (found : before.get? field = some descriptor) :
    after.get? field = some descriptor := by
  cases accepted with
  | none => exact routes.trans found
  | some registration =>
    obtain ⟨_, _, later⟩ := routes
    rw [later, found]
    rfl

/-- A field that a call leaves alone is routed by the calls behind it. -/
theorem Routes.of_get?_eq {before middle after : Registry} {field : String}
    {accepted : Option Registration} (routes : Routes middle after field accepted)
    (same : middle.get? field = before.get? field) : Routes before after field accepted := by
  cases accepted with
  | none => exact routes.trans same
  | some registration =>
    obtain ⟨descriptor, compiled, later⟩ := routes
    exact ⟨descriptor, compiled, same ▸ later⟩

/-- After any calls for fields a field is routed by the first registration that was accepted. -/
theorem routes_performAll (calls : List FieldCall) {registry : Registry}
    (opened : registry.frozen = false) (field : String) :
    Routes registry (registry.performAll (calls.map FieldCall.call)).value.1 field
      (firstAccepted? field calls (registry.performAll (calls.map FieldCall.call)).value.2) := by
  induction calls generalizing registry with
  | nil => rfl
  | cons call calls ih =>
    obtain ⟨still, here⟩ := routes_perform opened call field
    have rest := ih still
    rw [List.map_cons, performAll_cons]
    unfold firstAccepted? at rest ⊢
    rw [List.zip_cons_cons, List.find?_cons]
    split
    · rename_i accepted
      rw [if_pos accepted] at here
      obtain ⟨descriptor, compiled, found⟩ := here
      refine ⟨descriptor, compiled, ?_⟩
      -- the later calls keep what this one left to be found
      cases before : registry.get? field with
      | none =>
        rw [before] at found
        exact rest.get?_eq_some found
      | some first =>
        rw [before] at found
        exact rest.get?_eq_some found
    · rename_i refused
      rw [if_neg (by simp [refused])] at here
      exact rest.of_get?_eq here

/-- In a new registry a field is found exactly if a registration of it was accepted, and it is
found with the descriptor of the first one. -/
theorem get?_performAll_new (config : RegistryConfig) (calls : List FieldCall) (field : String) :
    let done := ((new config).performAll (calls.map FieldCall.call)).value
    match firstAccepted? field calls done.2 with
    | none => done.1.get? field = none
    | some registration => ∃ descriptor, registration.compile.value = .ok descriptor ∧
        done.1.get? field = some descriptor := by
  intro done
  have opened : (new config).frozen = false := rfl
  have routes := routes_performAll calls opened field
  cases accepted : firstAccepted? field calls done.2 with
  | none =>
    rw [accepted] at routes
    exact routes
  | some registration =>
    rw [accepted] at routes
    exact routes

end Registry

end SubscriptionFields
