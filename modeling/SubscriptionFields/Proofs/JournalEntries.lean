import SubscriptionFields.Proofs.RegistrationRules
import SubscriptionFields.Proofs.Silence

/-!
# What the registry enters in its log

A registry makes entries of six kinds in its log (`JournalEntry`), and what a call enters can be
told from the registry that it meets and from its answer: a registration that is past the first look
at the registry enters that its type compiled, and every call for a field closes with the entry of
its answer (`records_perform`).

Two kinds of entries last: a field that is registered, and the schema that is published. They
explain what a call does to the registry: its order grows by just the fields that are entered, each
is found with the descriptor of its entry, and a schema is published with its entry
(`explains_perform`). Explanations of one call after the other can be put together
(`Explains.append`), since nothing that was published is taken back.
-/

set_option autoImplicit false

namespace SubscriptionFields

/-! ## Reading the log -/

namespace LogRecord

/-- The value of a field of an event. -/
def value? (name : String) : LogRecord → Option FieldValue
  | .event _ _ fields _ => fields.lookup name
  | _ => none

/-- Whether a record is an event of the given level with the given message. -/
def isEvent (level : Level) (message : String) : LogRecord → Bool
  | .event own _ fields _ =>
    decide (own = level) && decide (fields.lookup "message" = some (.text message))
  | _ => false

def isWarning : LogRecord → Bool
  | .event .warn _ _ _ => true
  | _ => false

def isRegistered : LogRecord → Bool :=
  isEvent .info "subscription field registered"

def isFrozen : LogRecord → Bool :=
  isEvent .info "subscription schema frozen"

def isDiscarded : LogRecord → Bool :=
  isEvent .debug "duplicate subscription field discarded"

def isCompiled : LogRecord → Bool :=
  isEvent .debug "compiled subscription adapter"

/-- What the record of a registered field tells: the field, its shape and its declared type. -/
def details (record : LogRecord) : Option FieldValue × Option FieldValue × Option FieldValue :=
  (record.value? "field", record.value? "shape", record.value? "declared")

end LogRecord

/-- The field that a call was refused for, if the refusal is about a field. -/
def CallResult.refusedField? : CallResult → Option String
  | .registered (.error (.misconfigured field _)) => some field
  | .registered (.error (.duplicate field)) => some field
  | _ => none

/-! ## Entries -/

/-- An entry that a registry makes in its log. -/
inductive JournalEntry where
  | compiled (descriptor : OperationDescriptor)
  | misconfigured (field : String) (reason : ConfigError)
  | refused (field : String)
  | discarded (field : String)
  | registered (descriptor : OperationDescriptor)
  | frozen (size : Nat)

namespace JournalEntry

/-- The record of an entry. -/
def record : JournalEntry → LogRecord
  | .compiled descriptor => .event .debug OperationDescriptor.logTarget
      [("operation", .text descriptor.name), ("declared", .text descriptor.declared.display),
        ("shape", .text descriptor.shape.display), ("adapter", .text descriptor.adapter.name),
        ("message", .text "compiled subscription adapter")] none
  | .misconfigured field reason => .event .warn Registry.logTarget
      [("field", .text field), ("error", .text reason.message),
        ("message", .text "rejected subscription field")] none
  | .refused field => .event .warn Registry.logTarget
      [("field", .text field), ("message", .text "duplicate subscription field rejected")] none
  | .discarded field => .event .debug Registry.logTarget
      [("field", .text field), ("message", .text "duplicate subscription field discarded")] none
  | .registered descriptor => .event .info Registry.logTarget
      [("field", .text descriptor.name), ("shape", .text descriptor.shape.label),
        ("declared", .text descriptor.declared.display),
        ("message", .text "subscription field registered")] none
  | .frozen size => .event .info Registry.logTarget
      [("fields", .count size), ("message", .text "subscription schema frozen")] none

def registered? : JournalEntry → Option OperationDescriptor
  | .registered descriptor => some descriptor
  | _ => none

def frozen? : JournalEntry → Option Nat
  | .frozen size => some size
  | _ => none

def compiled? : JournalEntry → Option OperationDescriptor
  | .compiled descriptor => some descriptor
  | _ => none

def discarded? : JournalEntry → Option String
  | .discarded field => some field
  | _ => none

/-- The field of an entry that warns of a refusal. -/
def warned? : JournalEntry → Option String
  | .misconfigured field _ => some field
  | .refused field => some field
  | _ => none

/-- What is read off the records of a kind is what the entries of that kind have. -/
theorem map_filter_record {α β : Type} {kind : LogRecord → Bool} {read : LogRecord → β}
    {project : JournalEntry → Option α} {shown : α → β}
    (agree : ∀ entry : JournalEntry,
      (if kind entry.record then some (read entry.record) else none) = (project entry).map shown)
    (entries : List JournalEntry) :
    ((entries.map record).filter kind).map read = (entries.filterMap project).map shown := by
  induction entries with
  | nil => rfl
  | cons entry entries ih =>
    have here := agree entry
    cases ofKind : kind entry.record with
    | false =>
      have other : project entry = none := by simpa [ofKind] using here.symm
      rw [List.map_cons, List.filter_cons_of_neg (by simp [ofKind]), ih,
        List.filterMap_cons_none other]
    | true =>
      rw [if_pos ofKind] at here
      obtain ⟨value, own, shows_read⟩ := Option.map_eq_some_iff.1 here.symm
      rw [List.map_cons, List.filter_cons_of_pos ofKind, List.map_cons, ih,
        List.filterMap_cons_some own, List.map_cons, shows_read]

/-! Each kind of records is told by its level and message. -/

/-- The records of registered fields tell the descriptors that were registered. -/
theorem read_registered (entries : List JournalEntry) :
    ((entries.map record).filter LogRecord.isRegistered).map LogRecord.details =
      (entries.filterMap registered?).map fun descriptor =>
        (some (.text descriptor.name), some (.text descriptor.shape.label),
          some (.text descriptor.declared.display)) := by
  refine map_filter_record (fun entry => ?_) entries
  cases entry <;> rfl

/-- The records of a freeze tell the sizes of the published schemas. -/
theorem read_frozen (entries : List JournalEntry) :
    ((entries.map record).filter LogRecord.isFrozen).map (LogRecord.value? "fields") =
      (entries.filterMap frozen?).map fun size => some (.count size) := by
  refine map_filter_record (fun entry => ?_) entries
  cases entry <;> rfl

/-- The records of discarded duplicates tell their fields. -/
theorem read_discarded (entries : List JournalEntry) :
    ((entries.map record).filter LogRecord.isDiscarded).map (LogRecord.value? "field") =
      (entries.filterMap discarded?).map fun field => some (.text field) := by
  refine map_filter_record (fun entry => ?_) entries
  cases entry <;> rfl

/-- The warnings tell the fields that were refused. -/
theorem read_warnings (entries : List JournalEntry) :
    ((entries.map record).filter LogRecord.isWarning).map (LogRecord.value? "field") =
      (entries.filterMap warned?).map fun field => some (.text field) := by
  refine map_filter_record (fun entry => ?_) entries
  cases entry <;> rfl

/-- The records of compiled adapters are those of the descriptors that were compiled. -/
theorem read_compiled (entries : List JournalEntry) :
    (entries.map record).filter LogRecord.isCompiled =
      (entries.filterMap compiled?).map fun descriptor => (compiled descriptor).record := by
  rw [← List.map_id ((entries.map record).filter LogRecord.isCompiled)]
  refine map_filter_record (fun entry => ?_) entries
  cases entry <;> rfl

end JournalEntry

namespace Registry

/-! ## The entries of a call -/

/-- The entry with which a call for a field closes, by its answer. -/
def closingEntries (registry : Registry) (field : String) : Answer → List JournalEntry
  | .error .frozen => []
  | .error (.misconfigured name reason) => [.misconfigured name reason]
  | .error (.duplicate name) => [.refused name]
  | .ok descriptor =>
    if (registry.get? field).isSome then [.discarded field] else [.registered descriptor]

/-- The entry of a registration that is past the first look at the registry. -/
def openingEntries (registry : Registry) (registration : Registration) : List JournalEntry :=
  if registry.frozen then
    []
  else
    match registration.compile.value with
    | .ok descriptor => [.compiled descriptor]
    | .error _ => []

def entries (registry : Registry) : RegistryCall → List JournalEntry
  | .register registration =>
    registry.openingEntries registration ++
      registry.closingEntries registration.field (registry.register registration).value.2
  | .insert descriptor =>
    registry.closingEntries descriptor.name (registry.insert descriptor).value.2
  | .freeze =>
    match registry.schema with
    | some _ => []
    | none => [.frozen (Schema.ofResolvers registry.schemasMade registry.resolvers).size]

/-- An insertion records what its answer says that it came to. -/
theorem records_insert (registry : Registry) (descriptor : OperationDescriptor) :
    (registry.insert descriptor).records =
      (registry.closingEntries descriptor.name (registry.insert descriptor).value.2).map
        JournalEntry.record := by
  cases registry.insert_outcome descriptor with
  | frozen closed result =>
    rw [result]
    simp [insert, closed, closingEntries]
  | refused existing opened taken strict result =>
    rw [result]
    simp [insert, opened, taken, strict, closingEntries, JournalEntry.record]
  | discarded existing opened taken tolerant result =>
    rw [result]
    simp [insert, opened, taken, tolerant, closingEntries, JournalEntry.record]
  | published opened free result =>
    rw [result]
    simp [insert, opened, free, closingEntries, JournalEntry.record]

/-- Compiling records the adapter of the descriptor, if there is one. -/
theorem records_compile (registration : Registration) :
    registration.compile.records =
      match registration.compile.value with
      | .ok descriptor => [(JournalEntry.compiled descriptor).record]
      | .error _ => [] := by
  unfold Registration.compile OperationDescriptor.compile
  split
  · rfl
  · split <;> rfl

/-- A registration records what its first phase came to and then what its answer says. -/
theorem records_register (registry : Registry) (registration : Registration) :
    (registry.register registration).records =
      (registry.openingEntries registration ++
        registry.closingEntries registration.field
          (registry.register registration).value.2).map JournalEntry.record := by
  have records := records_compile registration
  cases registry.register_outcome registration with
  | frozen closed result =>
    rw [result]
    simp [register, prepare, commit, closed, openingEntries, closingEntries]
  | misconfigured reason opened uncompiled result =>
    rw [uncompiled] at records
    rw [result]
    simp [register, prepare, commit, opened, uncompiled, records, openingEntries, closingEntries,
      JournalEntry.record]
  | compiled descriptor opened compiled result =>
    rw [compiled] at records
    rw [result, ← (Registration.makes_iff.2 compiled).name_eq]
    simp [register, prepare, commit, opened, compiled, records, records_insert, openingEntries]

/-- A freeze records the schema that it publishes, and a second one nothing. -/
theorem records_freeze (registry : Registry) :
    registry.freeze.records = (registry.entries .freeze).map JournalEntry.record := by
  unfold freeze entries
  cases registry.schema <;> rfl

/-- The records of a call are those of its entries. -/
theorem records_perform (registry : Registry) (call : RegistryCall) :
    (registry.perform call).records = (registry.entries call).map JournalEntry.record := by
  cases call with
  | register registration => simp [perform, records_register, entries]
  | insert descriptor => simp [perform, records_insert, entries]
  | freeze => simp [perform, records_freeze]

/-! ## What lasts -/

/-- Entries explain what became of a registry: its order has grown by the fields that are entered,
each is found with the descriptor of its entry, and a schema is published with its entry. -/
structure Explains (entries : List JournalEntry) (before after : Registry) : Prop where
  order_eq : after.order =
    before.order ++ (entries.filterMap JournalEntry.registered?).map OperationDescriptor.name
  get?_eq : ∀ descriptor ∈ entries.filterMap JournalEntry.registered?,
    after.get? descriptor.name = some descriptor
  schema_eq : after.schema.toList.map Schema.size =
    before.schema.toList.map Schema.size ++ entries.filterMap JournalEntry.frozen?

/-- Entries that neither register nor publish explain a registry that stays as it is. -/
theorem explains_of_nothing {entries : List JournalEntry} (registry : Registry)
    (registers : entries.filterMap JournalEntry.registered? = [])
    (publishes : entries.filterMap JournalEntry.frozen? = []) :
    Explains entries registry registry where
  order_eq := by simp [registers]
  get?_eq descriptor listed := by simp [registers] at listed
  schema_eq := by simp [publishes]

/-- What an insertion enters into the journal explains what it does to the registry. -/
theorem explains_insert (registry : Registry) (descriptor : OperationDescriptor) :
    Explains (registry.closingEntries descriptor.name (registry.insert descriptor).value.2)
      registry (registry.insert descriptor).value.1 := by
  cases registry.insert_outcome descriptor with
  | frozen closed result =>
    rw [result]
    exact explains_of_nothing registry rfl rfl
  | refused existing opened taken strict result =>
    rw [result]
    exact explains_of_nothing registry rfl rfl
  | discarded existing opened taken tolerant result =>
    rw [result]
    refine explains_of_nothing registry ?_ ?_
    all_goals simp [closingEntries, taken, JournalEntry.registered?, JournalEntry.frozen?]
  | published opened free result =>
    have entered : registry.closingEntries descriptor.name (.ok descriptor) =
        [.registered descriptor] := by
      simp [closingEntries, free]
    rw [result, entered]
    refine ⟨rfl, ?_, ?_⟩
    · intro other listed
      rw [List.mem_singleton.1 listed, get?_publish, if_pos rfl]
    · simp [JournalEntry.frozen?, publish]

/-- What a registration enters into the journal explains what it does to the registry. -/
theorem explains_register (registry : Registry) (registration : Registration) :
    Explains (registry.openingEntries registration ++
        registry.closingEntries registration.field (registry.register registration).value.2)
      registry (registry.register registration).value.1 := by
  cases registry.register_outcome registration with
  | frozen closed result =>
    rw [result]
    refine explains_of_nothing registry ?_ ?_
    all_goals simp [openingEntries, closed, closingEntries]
  | misconfigured reason opened uncompiled result =>
    rw [result]
    refine explains_of_nothing registry ?_ ?_
    all_goals
      simp [openingEntries, opened, uncompiled, closingEntries, JournalEntry.registered?,
        JournalEntry.frozen?]
  | compiled descriptor opened compiled result =>
    -- the opening entry does not last, so the insertion alone is to be explained
    have opening : registry.openingEntries registration = [.compiled descriptor] := by
      simp [openingEntries, opened, compiled]
    obtain ⟨order_eq, get?_eq, schema_eq⟩ := registry.explains_insert descriptor
    rw [opening, result, ← (Registration.makes_iff.2 compiled).name_eq]
    exact ⟨order_eq, get?_eq, schema_eq⟩

/-- What a freeze enters into the journal explains what it does to the registry. -/
theorem explains_freeze (registry : Registry) :
    Explains (registry.entries .freeze) registry registry.freeze.value.1 := by
  unfold entries freeze
  cases published : registry.schema with
  | some schema => exact explains_of_nothing registry rfl rfl
  | none =>
    constructor
    all_goals simp [JournalEntry.registered?, JournalEntry.frozen?, published]

/-- What a call enters explains what it does to the registry. -/
theorem explains_perform (registry : Registry) (call : RegistryCall) :
    Explains (registry.entries call) registry (registry.perform call).value.1 := by
  cases call with
  | register registration => exact registry.explains_register registration
  | insert descriptor => exact registry.explains_insert descriptor
  | freeze => exact registry.explains_freeze

/-- Entries of two runs, one after the other, explain both. -/
theorem Explains.append {first second : List JournalEntry} {before middle after : Registry}
    (earlier : Explains first before middle) (later : Explains second middle after)
    (grown : middle.Extends after) : Explains (first ++ second) before after where
  order_eq := by
    rw [later.order_eq, earlier.order_eq, List.filterMap_append, List.map_append,
      List.append_assoc]
  get?_eq descriptor listed := by
    rw [List.filterMap_append, List.mem_append] at listed
    rcases listed with old | new
    · exact grown.get?_eq _ _ (earlier.get?_eq descriptor old)
    · exact later.get?_eq descriptor new
  schema_eq := by
    rw [later.schema_eq, earlier.schema_eq, List.filterMap_append, List.append_assoc]

end Registry

end SubscriptionFields
