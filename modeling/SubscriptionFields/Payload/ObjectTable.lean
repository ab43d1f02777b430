import SubscriptionFields.Payload.Object
import SubscriptionFields.Table

/-!
# Tables of objects

A table names objects. Each entry either stores a payload in an allocation of its own, or gives a
further name to an object that is there already. Objects that share an allocation are recognized by
the names under which the allocation is known.
-/

set_option autoImplicit false

namespace SubscriptionFields

/-- What an entry of a table of objects puts under its name. -/
inductive ObjectSource where
  /-- A payload in an allocation of its own. -/
  | stored (payload : String) (content : Content)
  /-- The object of an earlier name, as the payload of an allocation of its own. -/
  | boxed (name : String)
  /-- The object of an earlier name itself. -/
  | alias (name : String)

abbrev ObjectTable := Table Object

namespace ObjectTable

/-- The object that an entry makes, if the name that it refers to is there. -/
def make? (table : ObjectTable) (position : Nat) : ObjectSource → Option Object
  | .stored payload content => some (.plain (.entry position) payload content)
  | .boxed name => (table.find? name).map (.boxed (.entry position))
  | .alias name => table.find? name

/-- The table of the given entries, from position `position` on. -/
def fillFrom (position : Nat) (table : ObjectTable) :
    List (String × ObjectSource) → Option ObjectTable
  | [] => some table
  | entry :: rest => do
    let object ← table.make? position entry.2
    fillFrom (position + 1) (table.insert entry.1 object) rest

/-- The table of the given entries, read in order; none if an entry refers to a missing name. -/
def build? (entries : List (String × ObjectSource)) : Option ObjectTable :=
  fillFrom 0 .empty entries

/-- The names of an allocation, in the order of their code points. -/
def namesOf (table : ObjectTable) (object : Object) : List String :=
  let sharing := table.entries.filter fun entry => entry.2.sameAllocation object
  (sharing.map Prod.fst).mergeSort fun a b => a ≤ b

end ObjectTable

end SubscriptionFields
