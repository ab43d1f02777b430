import SubscriptionFields.Field.Descriptor

/-!
# Classification and adapter selection agree

The shape of a return type is read off its description, a tree that `classify` matches. Its adapter
is found without that tree, by four functions that hand the return type on to each other. The two
never disagree: a type has an adapter exactly if it has a shape, and the strategy of the adapter is
the one that the shape calls for (`returnAdapter_kind`). The agreement is proved for one function
after the other, from the element of a stream outwards.

Two consequences follow. Compiling an adapter against a shape depends on the strategy of that shape
only (`exists_compile_eq_ok_iff`). A descriptor is refused by the classifier alone: once a type is
classified its adapter compiles, so that the refusal of the compilation is never seen
(`compile_of_classify_eq_ok`, `compile_of_classify_eq_error`).
-/

set_option autoImplicit false

namespace SubscriptionFields

/-! ## The four functions of the selection -/

namespace ReturnType

/-- The adapter of a stream has the strategy that its classification calls for. -/
theorem streamAdapter_kind (element : ReturnType) :
    element.streamAdapter.map CompiledAdapter.kind =
      (TypeDescription.stream element.describe).classify.toOption.map .forShape := by
  cases element <;> rfl

/-- The adapter of a stream inside a handle has the strategy that its classification calls for. -/
theorem asyncStreamAdapter_kind (element : ReturnType) :
    element.asyncStreamAdapter.map CompiledAdapter.kind =
      (TypeDescription.async (.stream element.describe)).classify.toOption.map .forShape := by
  cases element <;> rfl

/-- The adapter of a handle has the strategy that its classification calls for. -/
theorem futureAdapter_kind (inner : ReturnType) :
    inner.futureAdapter.map CompiledAdapter.kind =
      (TypeDescription.async inner.describe).classify.toOption.map .forShape := by
  cases inner with
  | stream element => exact element.asyncStreamAdapter_kind
  | _ => rfl

/-- The strategy found for a return type is that of its shape. -/
theorem returnAdapter_kind (type : ReturnType) :
    type.returnAdapter.map CompiledAdapter.kind =
      type.describe.classify.toOption.map .forShape := by
  cases type with
  | stream element => exact element.streamAdapter_kind
  | async inner => exact inner.futureAdapter_kind
  | _ => rfl

/-- A classified type has an adapter, of the strategy of its shape. -/
theorem exists_returnAdapter_of_classify {type : ReturnType} {shape : Shape}
    (classified : type.describe.classify = .ok shape) :
    ∃ adapter, type.returnAdapter = some adapter ∧ adapter.kind = .forShape shape := by
  have agree := type.returnAdapter_kind
  rw [classified] at agree
  exact Option.map_eq_some_iff.1 agree

/-- A type with an adapter is classified, to a shape of the adapter's strategy. -/
theorem exists_classify_of_returnAdapter {type : ReturnType} {adapter : CompiledAdapter type}
    (found : type.returnAdapter = some adapter) :
    ∃ shape, type.describe.classify = .ok shape ∧ adapter.kind = .forShape shape := by
  have agree := type.returnAdapter_kind
  rw [found] at agree
  cases classified : type.describe.classify with
  | error refusal =>
    rw [classified] at agree
    exact absurd agree (by simp [Except.toOption])
  | ok shape =>
    rw [classified] at agree
    exact ⟨shape, rfl, Option.some.inj agree⟩

/-- The adapters that are selected, by the types that they adapt. -/
inductive Selects : (type : ReturnType) → CompiledAdapter type → Prop
  | canonical : Selects (.async (.stream .object)) .identity
  | awaited (payload : String) :
      Selects (.async (.stream (.shared payload))) (.awaitThenUpcast (.shared payload))
  | completed (element : Element) : Selects (.stream element.returnType) (.wrapAsCompleted element)

/-- No other adapter is selected for any type. -/
theorem selects_of_returnAdapter {type : ReturnType} {adapter : CompiledAdapter type}
    (found : type.returnAdapter = some adapter) : type.Selects adapter := by
  cases type with
  | stream element =>
    cases element with
    | object =>
      cases found
      exact .completed .object
    | shared payload =>
      cases found
      exact .completed (.shared payload)
    | _ => cases found
  | async inner =>
    cases inner with
    | stream element =>
      cases element with
      | object =>
        cases found
        exact .canonical
      | shared payload =>
        cases found
        exact .awaited payload
      | _ => cases found
    | _ => cases found
  | _ => cases found

end ReturnType

/-! ## Compiling against a shape -/

namespace CompiledAdapter

/-- An adapter compiles against a shape if it is the type's own and has the strategy of that
shape. -/
theorem compile_eq_ok_iff {type : ReturnType} {shape : Shape} {adapter : CompiledAdapter type} :
    compile type shape = .ok adapter ↔
      type.returnAdapter = some adapter ∧ adapter.kind = .forShape shape := by
  unfold compile
  split
  · rename_i own found
    split
    · rename_i same
      constructor
      · intro compiled
        cases compiled
        exact ⟨found, same⟩
      · rintro ⟨other, -⟩
        rw [found] at other
        rw [Option.some.inj other]
    · rename_i different
      refine iff_of_false (by simp) ?_
      rintro ⟨other, same⟩
      rw [found] at other
      exact different (Option.some.inj other ▸ same)
  · rename_i none
    simp [none]

/-- The only refusal of a compilation names the type by its text. -/
theorem eq_of_compile_eq_error {type : ReturnType} {shape : Shape} {refusal : ConfigError}
    (refused : compile type shape = .error refusal) :
    refusal = .unrecognizedShape type.describe.display := by
  unfold compile at refused
  split at refused
  · split at refused
    · cases refused
    · exact (Except.error.inj refused).symm
  · exact (Except.error.inj refused).symm

/-- A type compiles against a shape exactly if it is classified and the strategies of the two
shapes are the same. -/
theorem exists_compile_eq_ok_iff (type : ReturnType) (shape : Shape) :
    (∃ adapter, compile type shape = .ok adapter) ↔
      ∃ own, type.describe.classify = .ok own ∧
        AdapterKind.forShape shape = .forShape own := by
  constructor
  · rintro ⟨adapter, compiled⟩
    obtain ⟨found, kind⟩ := compile_eq_ok_iff.1 compiled
    obtain ⟨own, classified, same⟩ := ReturnType.exists_classify_of_returnAdapter found
    exact ⟨own, classified, kind.symm.trans same⟩
  · rintro ⟨own, classified, same⟩
    obtain ⟨adapter, found, kind⟩ := ReturnType.exists_returnAdapter_of_classify classified
    exact ⟨adapter, compile_eq_ok_iff.2 ⟨found, kind.trans same.symm⟩⟩

end CompiledAdapter

/-! ## Compiling a descriptor -/

namespace OperationDescriptor

variable {type : ReturnType} (name : String) (receiver : ReceiverBinder)
  (arguments : List ArgumentBinder) (operation : Operation type) (allocation : Allocation)

/-- A classified type has a descriptor: it stores the description, the shape and the strategy of
the type, and calls the operation through the type's own adapter. -/
theorem compile_of_classify_eq_ok {shape : Shape}
    (classified : type.describe.classify = .ok shape) :
    ∃ adapter, type.returnAdapter = some adapter ∧ adapter.kind = .forShape shape ∧
      (compile type name receiver arguments operation allocation).value = .ok
        { allocation
          name
          declared := type.describe
          shape
          adapter := .forShape shape
          receiver
          arguments
          label := operation.label
          call := callThrough adapter operation } := by
  obtain ⟨adapter, found, kind⟩ := ReturnType.exists_returnAdapter_of_classify classified
  refine ⟨adapter, found, kind, ?_⟩
  have compiled := CompiledAdapter.compile_eq_ok_iff.2 ⟨found, kind⟩
  simp [compile, classified, compiled, kind]

/-- A type that is not classified has no descriptor, for the reason that the classifier gives. -/
theorem compile_of_classify_eq_error {refusal : ConfigError}
    (refused : type.describe.classify = .error refusal) :
    compile type name receiver arguments operation allocation = pure (.error refusal) := by
  simp [compile, refused]

end OperationDescriptor

/-- Classification and adapter selection agree on every return type: it has an adapter exactly if
it has a shape, and then the adapter's strategy is the one that the shape calls for. Compiling it
against any shape succeeds exactly if that shape calls for the strategy of its own one, and else
is refused under the type's own text. A descriptor exists exactly if the type is classified; its
description, shape and strategy belong together, it calls through the type's own adapter, and a
refusal is the classifier's. -/
theorem classify_agrees_with_adapter_selection (type : ReturnType) :
    (type.returnAdapter.isSome ↔ ∃ shape, type.describe.classify = .ok shape) ∧
    (∀ adapter shape, type.returnAdapter = some adapter →
      type.describe.classify = .ok shape → adapter.kind = .forShape shape) ∧
    (∀ shape, (∃ adapter, CompiledAdapter.compile type shape = .ok adapter) ↔
      ∃ own, type.describe.classify = .ok own ∧ AdapterKind.forShape shape = .forShape own) ∧
    (∀ shape refusal, CompiledAdapter.compile type shape = .error refusal →
      refusal = .unrecognizedShape type.describe.display) ∧
    (∀ (name : String) (receiver : ReceiverBinder) (arguments : List ArgumentBinder)
        (operation : Operation type) (allocation : Allocation),
      match type.describe.classify with
      | .ok shape => ∃ descriptor adapter,
          (OperationDescriptor.compile type name receiver arguments operation allocation).value =
            .ok descriptor ∧
          descriptor.allocation = allocation ∧ descriptor.name = name ∧
          descriptor.declared = type.describe ∧
          descriptor.shape = shape ∧ descriptor.adapter = .forShape shape ∧
          type.returnAdapter = some adapter ∧ adapter.kind = descriptor.adapter ∧
          descriptor.call = OperationDescriptor.callThrough adapter operation
      | .error refusal =>
          (OperationDescriptor.compile type name receiver arguments operation allocation).value =
            .error refusal) := by
  refine ⟨⟨?_, ?_⟩, ?_, CompiledAdapter.exists_compile_eq_ok_iff type,
    fun _ _ => CompiledAdapter.eq_of_compile_eq_error, ?_⟩
  · intro some
    obtain ⟨adapter, found⟩ := Option.isSome_iff_exists.1 some
    obtain ⟨shape, classified, -⟩ := ReturnType.exists_classify_of_returnAdapter found
    exact ⟨shape, classified⟩
  · rintro ⟨shape, classified⟩
    obtain ⟨adapter, found, -⟩ := ReturnType.exists_returnAdapter_of_classify classified
    exact Option.isSome_iff_exists.2 ⟨adapter, found⟩
  · intro adapter shape found classified
    obtain ⟨own, classified', kind⟩ := ReturnType.exists_classify_of_returnAdapter found
    rw [classified] at classified'
    rw [kind, Except.ok.inj classified']
  · intro name receiver arguments operation allocation
    cases classified : type.describe.classify with
    | ok shape =>
      obtain ⟨adapter, found, kind, compiled⟩ :=
        OperationDescriptor.compile_of_classify_eq_ok name receiver arguments operation allocation
          classified
      exact ⟨_, adapter, compiled, rfl, rfl, rfl, rfl, rfl, found, kind, rfl⟩
    | error refusal =>
      rw [OperationDescriptor.compile_of_classify_eq_error name receiver arguments operation
        allocation classified]
      rfl

end SubscriptionFields
