import SubscriptionFields.Field.Descriptor

/-!
# Schemas

A schema is the read-only view of all registered fields, in the order of their registration. An
index from names to positions finds a field's descriptor. A schema that is made again from the same
fields is another one, under another number.
-/

set_option autoImplicit false

namespace SubscriptionFields

/-- The registered fields in order, and the position of each. -/
structure Schema where
  /-- The number of this schema among those that its registry has made. -/
  number : Nat
  resolvers : List (String × OperationDescriptor)
  index : Table Nat

namespace Schema

def ofResolvers (number : Nat) (resolvers : List (String × OperationDescriptor)) : Schema where
  number
  resolvers
  index := Table.ofList (resolvers.zipIdx.map fun entry => (entry.1.1, entry.2))

def resolver? (schema : Schema) (field : String) : Option OperationDescriptor := do
  let position ← schema.index.find? field
  let entry ← schema.resolvers[position]?
  return entry.2

/-- The names of the fields, in the order of their registration. -/
def fields (schema : Schema) : List String :=
  schema.resolvers.map Prod.fst

def size (schema : Schema) : Nat :=
  schema.resolvers.length

def isEmpty (schema : Schema) : Bool :=
  schema.resolvers.isEmpty

/-! ## Looking fields up -/

/-- With distinct names, the index holds the position of every field and nothing else. -/
theorem entries_index_ofResolvers (number : Nat) (resolvers : List (String × OperationDescriptor))
    (distinct : (resolvers.map Prod.fst).Nodup) :
    (ofResolvers number resolvers).index.entries =
      resolvers.zipIdx.map fun entry => (entry.1.1, entry.2) := by
  refine Table.entries_ofList _ ?_
  have names : (resolvers.zipIdx.map fun entry => (entry.1.1, entry.2)).map Prod.fst =
      (resolvers.zipIdx.map Prod.fst).map Prod.fst := by
    simp only [List.map_map]
    rfl
  rw [names, List.zipIdx_map_fst]
  exact distinct

/-- Looking a field up by its position finds the entry that comes first under its name. -/
theorem findIn_positions (resolvers : List (String × OperationDescriptor)) (field : String) :
    ((Table.findIn field (resolvers.zipIdx.map fun entry => (entry.1.1, entry.2))).bind
        fun position => resolvers[position]?.map Prod.snd) =
      Table.findIn field resolvers := by
  induction resolvers with
  | nil => rfl
  | cons entry rest ih =>
    by_cases here : entry.1 = field
    · simp [Table.findIn, here]
    · -- the positions of the rest are those of the rest alone, moved by one
      have moved : ((rest.zipIdx 1).map fun entry => (entry.1.1, entry.2)) =
          (rest.zipIdx.map fun entry => (entry.1.1, entry.2)).map
            fun entry => (entry.1, entry.2 + 1) := by
        rw [List.zipIdx_succ, List.map_map, List.map_map]
        rfl
      rw [List.zipIdx_cons, List.map_cons, Nat.zero_add, moved, Table.findIn, if_neg here,
        Table.findIn_map_values (· + 1), Option.bind_map, Table.findIn, if_neg here, ← ih]
      rfl

/-- With distinct names, a field is found with its descriptor. -/
theorem resolver?_ofResolvers (number : Nat) (resolvers : List (String × OperationDescriptor))
    (distinct : (resolvers.map Prod.fst).Nodup) (field : String) :
    (ofResolvers number resolvers).resolver? field = Table.findIn field resolvers := by
  rw [← findIn_positions, ← entries_index_ofResolvers number resolvers distinct]
  simp only [resolver?, Table.find?]
  cases Table.findIn field (ofResolvers number resolvers).index.entries with
  | none => rfl
  | some position =>
    cases found : (ofResolvers number resolvers).resolvers[position]? <;> simp_all [ofResolvers]

end Schema

end SubscriptionFields
