import SubscriptionFields.Proofs.RegistrySteps

/-!
# The invariant of the registry

A registry keeps its fields four times over: in the table of descriptors, in the order of their
registration, and, once the schema is published, in the schema's list and in its index. The
invariant says that all of them agree, and that the published schema is the only one ever made. It
holds of a new registry, each of the three effects that a call can have keeps it, and so it holds
after every run.

Publication keeps the last clause because a registry that still takes fields has no schema yet;
`close` establishes it, since the listed fields are exactly those that are found.
-/

set_option autoImplicit false

namespace SubscriptionFields

/-- A schema shows a registry: the same fields in the same order, each with the very descriptor
that the registry holds, through an index whose positions are all in bounds. -/
structure Schema.Shows (schema : Schema) (registry : Registry) : Prop where
  fields_eq : schema.fields = registry.order
  size_eq : schema.size = registry.order.length
  index_lt : ∀ entry ∈ schema.index.entries, entry.2 < schema.resolvers.length
  resolver?_eq : ∀ field, schema.resolver? field = registry.get? field

namespace Registry

/-- The parts of a registry agree. -/
structure Invariant (registry : Registry) : Prop where
  order_nodup : registry.order.Nodup
  mem_order_iff : ∀ field, field ∈ registry.order ↔ (registry.get? field).isSome
  name_eq : ∀ field descriptor, registry.get? field = some descriptor → descriptor.name = field
  frozen_iff : registry.frozen = true ↔ registry.schema.isSome
  schema_shows : ∀ schema, registry.schema = some schema → schema.Shows registry
  schemasMade_eq : registry.schemasMade = registry.schema.toList.length

/-! ## New registries -/

/-- In a new registry nothing disagrees. -/
theorem invariant_new (config : RegistryConfig) : (new config).Invariant where
  order_nodup := List.nodup_nil
  mem_order_iff field := by simp [new, get?]
  name_eq field descriptor found := by cases found
  frozen_iff := by simp [new]
  schema_shows schema published := by cases published
  schemasMade_eq := rfl

/-! ## One more field -/

/-- Publishing a descriptor changes what is found under its own name only. -/
@[simp] theorem get?_publish (registry : Registry) (descriptor : OperationDescriptor)
    (field : String) :
    (registry.publish descriptor).get? field =
      if descriptor.name = field then some descriptor else registry.get? field :=
  Table.find?_insert registry.descriptors descriptor.name field descriptor

/-- One more field under a free name keeps the parts in agreement. -/
theorem invariant_publish {registry : Registry} {descriptor : OperationDescriptor}
    (holds : registry.Invariant) (opened : registry.frozen = false)
    (free : registry.get? descriptor.name = none) : (registry.publish descriptor).Invariant where
  order_nodup := by
    have fresh : descriptor.name ∉ registry.order := by
      rw [holds.mem_order_iff, free]
      simp
    refine List.nodup_append.2 ⟨holds.order_nodup, by simp, ?_⟩
    intro listed old name new same
    rw [List.mem_singleton] at new
    exact fresh (new ▸ same ▸ old)
  mem_order_iff field := by
    have listed : field ∈ (registry.publish descriptor).order ↔
        field ∈ registry.order ∨ field = descriptor.name := by
      simp [publish]
    rw [listed, get?_publish, holds.mem_order_iff]
    by_cases here : descriptor.name = field
    · simp [here]
    · simp [here, Ne.symm here]
  name_eq field other found := by
    rw [get?_publish] at found
    split at found
    · rename_i here
      exact Option.some.inj found ▸ here
    · exact holds.name_eq field other found
  frozen_iff := holds.frozen_iff
  schema_shows schema published := by
    have some : registry.schema.isSome := Option.isSome_iff_exists.2 ⟨schema, published⟩
    rw [← holds.frozen_iff, opened] at some
    cases some
  schemasMade_eq := holds.schemasMade_eq

/-! ## The published schema -/

/-- All listed fields are found, so none is left out of the schema. -/
theorem names_resolvers {registry : Registry} (holds : registry.Invariant) :
    registry.resolvers.map Prod.fst = registry.order := by
  have found : ∀ field ∈ registry.order, (registry.get? field).isSome :=
    fun field listed => (holds.mem_order_iff field).1 listed
  unfold resolvers
  generalize registry.order = order at found
  induction order with
  | nil => rfl
  | cons field rest ih =>
    obtain ⟨descriptor, here⟩ := Option.isSome_iff_exists.1 (found field List.mem_cons_self)
    rw [List.filterMap_cons_some (by rw [here]; rfl), List.map_cons,
      ih fun other listed => found other (List.mem_cons_of_mem _ listed)]

/-- The schema that is made of a registry shows it. -/
theorem shows_resolvers {registry : Registry} (holds : registry.Invariant) :
    (Schema.ofResolvers registry.schemasMade registry.resolvers).Shows registry := by
  have names := names_resolvers holds
  have distinct : (registry.resolvers.map Prod.fst).Nodup := names ▸ holds.order_nodup
  refine ⟨names, ?_, ?_, ?_⟩
  · rw [← names, List.length_map]
    rfl
  · intro entry indexed
    rw [Schema.entries_index_ofResolvers _ _ distinct] at indexed
    obtain ⟨position, listed, rfl⟩ := List.mem_map.1 indexed
    exact List.snd_lt_of_mem_zipIdx listed
  · intro field
    rw [Schema.resolver?_ofResolvers _ _ distinct, resolvers, Table.findIn_filterMap]
    split
    · rfl
    · rename_i unlisted
      rw [holds.mem_order_iff, Option.not_isSome_iff_eq_none] at unlisted
      exact unlisted.symm

/-- A schema shows a registry by its fields and descriptors alone, and it is the first one to be
made.
-/
theorem invariant_close {registry : Registry} (holds : registry.Invariant)
    (unpublished : registry.schema = none) : registry.close.Invariant where
  order_nodup := holds.order_nodup
  mem_order_iff := holds.mem_order_iff
  name_eq := holds.name_eq
  frozen_iff := by simp [close]
  schema_shows schema published := by
    rw [← Option.some.inj published]
    obtain ⟨fields_eq, size_eq, index_lt, resolver?_eq⟩ := shows_resolvers holds
    exact ⟨fields_eq, size_eq, index_lt, resolver?_eq⟩
  schemasMade_eq := by
    have none_made : registry.schemasMade = 0 := by simp [holds.schemasMade_eq, unpublished]
    simp [close, none_made]

/-- Whether it is published only now or was before, the schema shows the registry. -/
theorem freeze_shows {registry : Registry} (holds : registry.Invariant) :
    registry.freeze.value.2.Shows registry := by
  unfold freeze
  split
  · rename_i schema published
    exact holds.schema_shows schema published
  · exact shows_resolvers holds

/-! ## Runs -/

/-- Whatever a call does keeps the invariant. -/
theorem invariant_of_effect {registry next : Registry} (holds : registry.Invariant)
    (effect : Effect registry next) : next.Invariant := by
  cases effect with
  | none result => exact result ▸ holds
  | published descriptor opened free result => exact result ▸ invariant_publish holds opened free
  | closed unpublished result => exact result ▸ invariant_close holds unpublished

/-- Every run keeps the invariant. -/
theorem invariant_of_performAll (calls : List RegistryCall) {registry : Registry}
    (holds : registry.Invariant) : (registry.performAll calls).value.1.Invariant :=
  performAll_keeps (fun _ _ => invariant_of_effect) calls registry holds

/-- After any run on a new registry, whatever its settings, the order lists the registered fields
without repetition, each descriptor carries the name of its field, the registry is frozen exactly
if its schema is published, the schema shows the registry, and it is the only one made. -/
theorem registry_invariant (config : RegistryConfig) (calls : List RegistryCall) :
    ((new config).performAll calls).value.1.Invariant :=
  invariant_of_performAll calls (invariant_new config)

end Registry

end SubscriptionFields
