import SubscriptionFields.Proofs.JournalEntries

/-!
# The log is a journal of the registry

The log of a run is made of the logs of its calls. Its lasting entries, put together, explain how a
new registry became what it is at the end (`explains_performAll`), so that they can be read as a
journal of its fields and its schema (`Tells`). The other entries concern the one call that makes
them: that its type compiled, in front of everything else, that its descriptor was discarded, or for
which field it was refused (`Episode.Reported`).
-/

set_option autoImplicit false

namespace SubscriptionFields

namespace Registry

/-! ## Runs -/

/-- A call with the registry that it meets. -/
structure Episode where
  before : Registry
  call : RegistryCall

namespace Episode

def done (episode : Episode) : Noted (Registry × CallResult) :=
  episode.before.perform episode.call

def result (episode : Episode) : CallResult :=
  episode.done.value.2

/-- Whether the call was answered with the descriptor in place and its own was discarded: it was
accepted, and somebody had its field before. -/
def discards (episode : Episode) : Bool :=
  episode.result.accepted && (episode.call.field?.bind episode.before.get?).isSome

end Episode

/-- The calls of a run, each with the registry that it meets. -/
def episodes (registry : Registry) : List RegistryCall → List Episode
  | [] => []
  | call :: calls =>
    { before := registry, call } :: (registry.perform call).value.1.episodes calls

/-- The episodes of a run are those of its calls, in order. -/
theorem map_call_episodes (calls : List RegistryCall) (registry : Registry) :
    (registry.episodes calls).map Episode.call = calls := by
  induction calls generalizing registry with
  | nil => rfl
  | cons call calls ih => rw [episodes, List.map_cons, ih]

/-- A run returns what its episodes come to. -/
theorem results_performAll (calls : List RegistryCall) (registry : Registry) :
    (registry.performAll calls).value.2 = (registry.episodes calls).map Episode.result := by
  induction calls generalizing registry with
  | nil => rfl
  | cons call calls ih =>
    rw [performAll_cons, ih]
    rfl

/-- The log of a run is made of the logs of its calls. -/
theorem records_performAll (calls : List RegistryCall) (registry : Registry) :
    (registry.performAll calls).records =
      (registry.episodes calls).flatMap fun episode => episode.done.records := by
  induction calls generalizing registry with
  | nil => rfl
  | cons call calls ih => simp [performAll, episodes, ih, Episode.done]

/-- What the calls of a run enter into the journal explains the registry at its end. -/
theorem explains_performAll (calls : List RegistryCall) (registry : Registry) :
    Explains ((registry.episodes calls).flatMap fun episode => episode.before.entries episode.call)
      registry (registry.performAll calls).value.1 := by
  induction calls generalizing registry with
  | nil => exact explains_of_nothing registry rfl rfl
  | cons call calls ih =>
    rw [performAll_cons, episodes, List.flatMap_cons]
    exact (registry.explains_perform call).append (ih _) (extends_performAll calls _)

/-! ## What a call reports -/

/-- Whether a call is a registration that finds the registry open and has an accepted type. -/
def Episode.compiles (episode : Episode) : Bool :=
  match episode.call with
  | .register registration =>
    !episode.before.frozen && registration.type.describe.refusal?.isNone
  | _ => false

/-- What the log of a call tells about the call: the field that it was refused for is named in its
one warning, a discarded descriptor and a compiled type have a record each, and the record of the
compiled type comes first. -/
structure Episode.Reported (episode : Episode) : Prop where
  warnings : (episode.done.records.filter LogRecord.isWarning).map (LogRecord.value? "field") =
    episode.result.refusedField?.toList.map fun field => some (.text field)
  refused_own : ∀ field, episode.result.refusedField? = some field →
    episode.call.field? = some field
  discarded : (episode.done.records.filter LogRecord.isDiscarded).map
      (LogRecord.value? "field") =
    if episode.discards then [episode.call.field?.map .text] else []
  compiled : (episode.done.records.filter LogRecord.isCompiled).map
      (LogRecord.value? "operation") =
    if episode.compiles then [episode.call.field?.map .text] else []
  compiled_first : episode.done.records.filter LogRecord.isCompiled <+: episode.done.records

variable {registry : Registry}

/-- What a call closes with warns of the field that it is refused for, and of nothing else. -/
theorem warned_closing (field : String) (answer : Answer) :
    (registry.closingEntries field answer).filterMap JournalEntry.warned? =
      (CallResult.registered answer).refusedField?.toList := by
  cases answer with
  | error error => cases error <;> rfl
  | ok descriptor =>
    cases taken : (registry.get? field).isSome <;>
      simp [closingEntries, taken, JournalEntry.warned?, CallResult.refusedField?]

/-- What a call closes with tells of a discarded descriptor if it is accepted for a taken field. -/
theorem discarded_closing (field : String) (answer : Answer) :
    (registry.closingEntries field answer).filterMap JournalEntry.discarded? =
      if (CallResult.registered answer).accepted && (registry.get? field).isSome then [field]
      else [] := by
  cases answer with
  | error error => cases error <;> rfl
  | ok descriptor =>
    cases taken : (registry.get? field).isSome <;>
      simp [closingEntries, taken, JournalEntry.discarded?, CallResult.accepted]

/-- Nothing is compiled where a call closes. -/
theorem compiled_closing (field : String) (answer : Answer) :
    (registry.closingEntries field answer).filterMap JournalEntry.compiled? = [] := by
  cases answer with
  | error error => cases error <;> rfl
  | ok descriptor =>
    cases taken : (registry.get? field).isSome <;>
      simp [closingEntries, taken, JournalEntry.compiled?]

/-- A call opens with the entry that its type compiled, or with none. -/
def Episode.OpensWith (episode : Episode) (opening : List JournalEntry) : Prop :=
  (opening = [] ∧ episode.compiles = false) ∨
    ∃ descriptor, opening = [.compiled descriptor] ∧
      episode.call.field? = some descriptor.name ∧ episode.compiles = true

/-- A registration opens with its compiled type, if it compiles one. -/
theorem opensWith_register (registration : Registration) :
    Episode.OpensWith { before := registry, call := .register registration }
      (registry.openingEntries registration) := by
  cases closed : registry.frozen with
  | true =>
    refine .inl ⟨?_, ?_⟩
    · simp [openingEntries, closed]
    · simp [Episode.compiles, closed]
  | false =>
    cases compiled : registration.compile.value with
    | error reason =>
      have refused := Registration.compile_eq_error_iff.1 compiled
      refine .inl ⟨?_, ?_⟩
      · simp [openingEntries, closed, compiled]
      · simp [Episode.compiles, closed, refused]
    | ok descriptor =>
      obtain ⟨-, -, name, -, classified⟩ := Registration.makes_iff.2 compiled
      refine .inr ⟨descriptor, ?_, ?_, ?_⟩
      · simp [openingEntries, closed, compiled]
      · rw [name]
        rfl
      · simp [Episode.compiles, closed, TypeDescription.refusal?, classified]

/-- The field that a call for a field is refused for is its own. -/
theorem AnswersByRules.refused_own {field name : String} {refusal : Option ConfigError}
    {makes : OperationDescriptor → Prop} {answer : Answer}
    (rules : registry.AnswersByRules field refusal makes answer)
    (refused : (CallResult.registered answer).refusedField? = some name) : field = name := by
  cases answer with
  | ok descriptor => cases refused
  | error error =>
    cases error with
    | frozen => cases refused
    | misconfigured own reason =>
      cases refused
      exact ((rules.misconfigured_iff name reason).1 rfl).2.2
    | duplicate own =>
      cases refused
      exact ((rules.duplicate_iff name).1 rfl).2.2.1

/-- A call for a field that makes its opening entries and the closing one reports all that there is
to report. -/
theorem Episode.reported_of_entries {episode : Episode} {field : String} {answer : Answer}
    {opening : List JournalEntry} (about : episode.call.field? = some field)
    (answered : episode.result = .registered answer) (opens : episode.OpensWith opening)
    (entered : episode.before.entries episode.call =
      opening ++ episode.before.closingEntries field answer)
    (refused_own : ∀ name, (CallResult.registered answer).refusedField? = some name →
      field = name) : episode.Reported := by
  have records : episode.done.records =
      (opening ++ episode.before.closingEntries field answer).map JournalEntry.record := by
    rw [← entered]
    exact episode.before.records_perform episode.call
  -- only the opening entry is of a compiled type, and it is of no other kind
  have compiled : episode.done.records.filter LogRecord.isCompiled =
      opening.map JournalEntry.record := by
    rw [records, JournalEntry.read_compiled, List.filterMap_append, compiled_closing,
      List.append_nil]
    rcases opens with ⟨rfl, -⟩ | ⟨descriptor, rfl, -⟩ <;> rfl
  have silent : opening.filterMap JournalEntry.warned? = [] ∧
      opening.filterMap JournalEntry.discarded? = [] := by
    rcases opens with ⟨rfl, -⟩ | ⟨descriptor, rfl, -⟩ <;> exact ⟨rfl, rfl⟩
  constructor
  · rw [records, JournalEntry.read_warnings, List.filterMap_append, silent.1, warned_closing,
      answered, List.nil_append]
  · intro name refused
    rw [answered] at refused
    rw [about, refused_own name refused]
  · rw [records, JournalEntry.read_discarded, List.filterMap_append, silent.2, discarded_closing,
      List.nil_append]
    simp only [discards, answered, about, Option.bind_some, Option.map_some]
    split <;> rfl
  · rw [compiled]
    rcases opens with ⟨rfl, none⟩ | ⟨descriptor, rfl, own, some⟩
    · rw [none]
      rfl
    · rw [some, own]
      rfl
  · rw [compiled, records, List.map_append]
    exact List.prefix_append _ _

/-- A freeze warns of nothing, discards nothing and compiles nothing. -/
theorem Episode.reported_freeze : Episode.Reported { before := registry, call := .freeze } := by
  have records : Noted.records (Episode.done { before := registry, call := .freeze }) =
      (registry.entries .freeze).map JournalEntry.record :=
    registry.records_perform .freeze
  unfold entries at records
  constructor
  · rw [records]
    cases registry.schema <;> rfl
  · intro field refused
    cases refused
  · rw [records]
    cases registry.schema <;> rfl
  · rw [records]
    cases registry.schema <;> rfl
  · rw [records]
    cases registry.schema <;> exact List.nil_prefix

/-- The log of a call reports all that there is to report. -/
theorem Episode.reported (episode : Episode) : episode.Reported := by
  obtain ⟨registry, call⟩ := episode
  cases call with
  | register registration =>
    have rules := registry.answersByRules_register registration
    exact reported_of_entries rfl rfl (opensWith_register registration) rfl
      fun _ => rules.refused_own
  | insert descriptor =>
    have rules := registry.answersByRules_insert descriptor
    have opens : Episode.OpensWith { before := registry, call := .insert descriptor } [] :=
      .inl ⟨rfl, rfl⟩
    exact reported_of_entries rfl rfl opens rfl fun _ => rules.refused_own
  | freeze => exact reported_freeze

/-- The warnings of some calls name the fields that the calls were refused for. -/
theorem warnings_of_episodes (episodes : List Episode) :
    ((episodes.flatMap fun episode => episode.done.records).filter LogRecord.isWarning).map
        (LogRecord.value? "field") =
      ((episodes.map Episode.result).filterMap CallResult.refusedField?).map
        fun field => some (.text field) := by
  induction episodes with
  | nil => rfl
  | cons episode episodes ih =>
    rw [List.flatMap_cons, List.filter_append, List.map_append, ih, episode.reported.warnings,
      List.map_cons, List.filterMap_cons]
    cases episode.result.refusedField? <;> rfl

/-! ## The journal -/

/-- What the log of a run tells about the registry at its end: which fields were registered, in
their order and with the descriptors that are found, and whether and with how many fields a schema
was published. -/
structure Tells (records : List LogRecord) (registry : Registry) : Prop where
  registered : (records.filter LogRecord.isRegistered).map LogRecord.details =
    registry.order.map fun field =>
      (some (.text field), (registry.get? field).map fun found => .text found.shape.label,
        (registry.get? field).map fun found => .text found.declared.display)
  frozen_once : (records.filter LogRecord.isFrozen).length = if registry.frozen then 1 else 0
  frozen_size : (records.filter LogRecord.isFrozen).map (LogRecord.value? "fields") =
    registry.schema.toList.map fun schema => some (.count schema.size)

/-- A journal that explains a registry from its beginning tells of all that the registry holds. -/
theorem tells_of_explains {entries : List JournalEntry} {config : RegistryConfig}
    (explains : Explains entries (new config) registry) (holds : registry.Invariant) :
    Tells (entries.map JournalEntry.record) registry := by
  obtain ⟨order_eq, get?_eq, schema_eq⟩ := explains
  have sizes : entries.filterMap JournalEntry.frozen? =
      registry.schema.toList.map Schema.size := schema_eq.symm
  refine ⟨?_, ?_, ?_⟩
  · have order : registry.order = (entries.filterMap JournalEntry.registered?).map
        OperationDescriptor.name := order_eq
    rw [JournalEntry.read_registered, order, List.map_map]
    refine List.map_congr_left ?_
    intro descriptor listed
    simp [get?_eq descriptor listed]
  · have count := congrArg List.length (JournalEntry.read_frozen entries)
    rw [List.length_map, List.length_map, sizes, List.length_map] at count
    rw [count]
    have frozen_iff := holds.frozen_iff
    cases published : registry.schema with
    | none =>
      rw [published] at frozen_iff
      simpa using frozen_iff
    | some schema =>
      rw [published] at frozen_iff
      simpa using frozen_iff
  · rw [JournalEntry.read_frozen, sizes, List.map_map]
    rfl

/-- Take any run on a new registry. Its log is made of the logs of its calls, one after the other.
The log tells which fields the registry has in the end, in their order, each with the shape and the
declared type of the descriptor that is found under it, and that a schema was published, once and
with that many fields, if the registry is frozen and not at all if it is not. The log of a call has
a warning exactly if the call was refused for a field, and it names the call's own field; it tells
exactly of those accepted calls whose descriptor was discarded that it was; and it says that a type
compiled exactly if the call is a registration that found the registry open and has an accepted
type, before it says anything else. -/
theorem log_is_journal (config : RegistryConfig) (calls : List RegistryCall) :
    let run := (new config).performAll calls
    let episodes := (new config).episodes calls
    episodes.map Episode.call = calls ∧ run.value.2 = episodes.map Episode.result ∧
      run.records = (episodes.flatMap fun episode => episode.done.records) ∧
      Tells run.records run.value.1 ∧
      (run.records.filter LogRecord.isWarning).map (LogRecord.value? "field") =
        (run.value.2.filterMap CallResult.refusedField?).map (fun field => some (.text field)) ∧
      ∀ episode ∈ episodes, episode.Reported := by
  intro run episodes
  have records : run.records = episodes.flatMap fun episode => episode.done.records :=
    records_performAll calls (new config)
  have results : run.value.2 = episodes.map Episode.result :=
    results_performAll calls (new config)
  refine ⟨map_call_episodes calls (new config), results, records, ?_, ?_,
    fun episode _ => episode.reported⟩
  · have entered : run.records =
        (episodes.flatMap fun episode => episode.before.entries episode.call).map
          JournalEntry.record := by
      rw [records, List.map_flatMap]
      simp only [Episode.done, records_perform]
    rw [entered]
    exact tells_of_explains (explains_performAll calls (new config))
      (invariant_of_performAll calls (invariant_new config))
  · rw [records, results]
    exact warnings_of_episodes episodes

end Registry

end SubscriptionFields
