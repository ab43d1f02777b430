/-!
# Tables by name

A table keeps at most one value per name, in the order in which the names first came in. Writing a
name that is there replaces its value in place. A table is seen through `find?`; the lemmas say
what writing does to that view and to the list of names.
-/

set_option autoImplicit false

namespace SubscriptionFields

/-- Values by name, in the order in which the names first came in. -/
structure Table (α : Type) where
  entries : List (String × α) := []

namespace Table

variable {α : Type}

def empty : Table α := {}

/-- The value that a list of entries holds under a name; the first one decides. -/
def findIn (name : String) : List (String × α) → Option α
  | [] => none
  | entry :: rest => if entry.1 = name then some entry.2 else findIn name rest

/-- The entries with one name written: in place if it is there, else at the end. -/
def insertIn (name : String) (value : α) : List (String × α) → List (String × α)
  | [] => [(name, value)]
  | entry :: rest =>
    if entry.1 = name then (name, value) :: rest else entry :: insertIn name value rest

def find? (table : Table α) (name : String) : Option α :=
  findIn name table.entries

/-- The table with a value written under a name. -/
def insert (table : Table α) (name : String) (value : α) : Table α :=
  { entries := insertIn name value table.entries }

def contains (table : Table α) (name : String) : Bool :=
  (table.find? name).isSome

/-- The names, in the order in which they first came in. -/
def names (table : Table α) : List String :=
  table.entries.map Prod.fst

/-- The table that results from writing the entries one after the other. -/
def ofList (entries : List (String × α)) : Table α :=
  entries.foldl (fun table entry => table.insert entry.1 entry.2) empty

/-! ## The view -/

/-- After an insertion the new value is found under its name, and under other names what was found
before. -/
theorem findIn_insertIn (name other : String) (value : α) (entries : List (String × α)) :
    findIn other (insertIn name value entries) =
      if name = other then some value else findIn other entries := by
  induction entries with
  | nil => simp [insertIn, findIn]
  | cons entry rest ih =>
    by_cases here : entry.1 = name
    · by_cases same : name = other <;> simp [insertIn, findIn, here, same]
    · by_cases same : name = other
      · subst same
        simp [insertIn, findIn, here, ih]
      · simp [insertIn, findIn, here, ih, same]

/-- The empty table has no value under any name. -/
@[simp] theorem find?_empty (name : String) : (empty : Table α).find? name = none := rfl

/-- Writing a name changes the value under that name only. -/
@[simp] theorem find?_insert (table : Table α) (name other : String) (value : α) :
    (table.insert name value).find? other =
      if name = other then some value else table.find? other :=
  findIn_insertIn name other value table.entries

/-- An insertion adds its name at the end unless it is there already. -/
theorem map_fst_insertIn (name : String) (value : α) (entries : List (String × α)) :
    (insertIn name value entries).map Prod.fst =
      if name ∈ entries.map Prod.fst then entries.map Prod.fst
      else entries.map Prod.fst ++ [name] := by
  induction entries with
  | nil => simp [insertIn]
  | cons entry rest ih =>
    by_cases here : entry.1 = name
    · simp [insertIn, here]
    · simp only [insertIn, here, if_false, List.map_cons, ih, List.mem_cons, Ne.symm here,
        false_or]
      split <;> simp

/-- A new name comes in at the end; a known one keeps its place. -/
theorem names_insert (table : Table α) (name : String) (value : α) :
    (table.insert name value).names =
      if name ∈ table.names then table.names else table.names ++ [name] :=
  map_fst_insertIn name value table.entries

/-! ## Tables with given entries -/

/-- A new name is added at the end with its value. -/
theorem insertIn_of_notMem (name : String) (value : α) (entries : List (String × α))
    (fresh : name ∉ entries.map Prod.fst) :
    insertIn name value entries = entries ++ [(name, value)] := by
  induction entries with
  | nil => rfl
  | cons entry rest ih =>
    rw [List.map_cons, List.mem_cons, not_or] at fresh
    rw [insertIn, if_neg (Ne.symm fresh.1), ih fresh.2, List.cons_append]

/-- Entries with new and distinct names are added in their order. -/
theorem foldl_insert_of_nodup (entries : List (String × α)) (table : Table α)
    (distinct : (table.names ++ entries.map Prod.fst).Nodup) :
    (entries.foldl (fun table entry => table.insert entry.1 entry.2) table).entries =
      table.entries ++ entries := by
  induction entries generalizing table with
  | nil => simp
  | cons entry rest ih =>
    rw [List.map_cons, List.append_cons] at distinct
    have fresh : entry.1 ∉ table.names := by
      intro old
      exact (List.nodup_append.1 (List.nodup_append.1 distinct).1).2.2 _ old _
        (List.mem_singleton_self _) rfl
    have grown : (table.insert entry.1 entry.2).names = table.names ++ [entry.1] := by
      rw [names_insert, if_neg fresh]
    rw [List.foldl_cons, ih _ (by rwa [grown])]
    simp [insert, insertIn_of_notMem _ _ _ fresh]

/-- Writing distinct names one after the other gives a table with just these entries. -/
theorem entries_ofList (entries : List (String × α)) (distinct : (entries.map Prod.fst).Nodup) :
    (ofList entries).entries = entries :=
  foldl_insert_of_nodup entries empty (by simpa [names, empty] using distinct)

/-- Converting all values converts the one that is found. -/
theorem findIn_map_values {β : Type} (convert : α → β) (name : String)
    (entries : List (String × α)) :
    findIn name (entries.map fun entry => (entry.1, convert entry.2)) =
      (findIn name entries).map convert := by
  induction entries with
  | nil => rfl
  | cons entry rest ih =>
    by_cases here : entry.1 = name
    · simp [findIn, here]
    · simp [findIn, here, ih]

/-- Of the names that are looked up elsewhere, a listed one is found as it is there. -/
theorem findIn_filterMap (lookup : String → Option α) (name : String) (names : List String) :
    findIn name (names.filterMap fun other => (lookup other).map fun value => (other, value)) =
      if name ∈ names then lookup name else none := by
  induction names with
  | nil => rfl
  | cons other rest ih =>
    by_cases here : other = name
    · subst here
      cases found : lookup other with
      | none => simp [found, ih]
      | some value => simp [found, findIn]
    · cases found : lookup other with
      | none => simp [found, ih, Ne.symm here]
      | some value => simp [found, findIn, here, ih, Ne.symm here]

end Table

end SubscriptionFields
