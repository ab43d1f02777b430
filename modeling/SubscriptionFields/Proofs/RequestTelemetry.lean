import SubscriptionFields.Proofs.Requests
import SubscriptionFields.Proofs.Routing

/-!
# What requests report

What is recorded of a request is kept in one place: it is on the request's own span, and it is what
the request's field and its present state say (`Requests.written`). A step adds to what is written
of the request that it is about, and leaves what is written of every other request as it is
(`written_step`). By induction, what is written after any run is all that the run recorded
(`written_run`).
-/

set_option autoImplicit false

namespace SubscriptionFields

namespace Requests

/-! ## What is written -/

section

variable (schema : Schema)

/-- All that is recorded of a request up to its present state. -/
def report (number : Nat) : SubscribeRequest × RequestState → List LogRecord
  | (request, .waiting _) => opening schema number request
  | (request, .answered outcome) => opening schema number request ++ closingOf number outcome
  | (request, .dropped) => opening schema number request

/-- What is written of the request of a number, if it was started. -/
def written (requests : Requests) (number : Nat) : List LogRecord :=
  match requests[number]? with
  | none => []
  | some entry => report schema number entry

end

variable {schema : Schema} {requests : Requests}

/-- The records on the span of a request. -/
def onSpanOf (number : Nat) (records : List LogRecord) : List LogRecord :=
  records.filter fun record => record.span? = some (SubscribeService.span number)

/-- Of two lists of records, each keeps its own on a span. -/
theorem onSpanOf_append (number : Nat) (first second : List LogRecord) :
    onSpanOf number (first ++ second) = onSpanOf number first ++ onSpanOf number second :=
  List.filter_append ..

/-- Records of one request are on its own span and not on that of another. -/
theorem onSpanOf_of_forall {number other : Nat} {records : List LogRecord}
    (own : ∀ record ∈ records, record.span? = some (SubscribeService.span other)) :
    onSpanOf number records = if other = number then records else [] := by
  unfold onSpanOf
  split
  · rename_i same
    subst same
    rw [List.filter_eq_self]
    intro record listed
    exact decide_eq_true (own record listed)
  · rename_i apart
    rw [List.filter_eq_nil_iff]
    intro record listed
    rw [own record listed]
    simp [SubscribeService.span, apart]

/-- A request opens its report on the span of its number. -/
theorem span?_of_mem_opening {number : Nat} {request : SubscribeRequest} :
    ∀ record ∈ opening schema number request,
      record.span? = some (SubscribeService.span number) := by
  unfold opening
  cases schema.resolver? request.field <;> simp [LogRecord.span?]

/-- A request closes its report on the span of its number. -/
theorem span?_of_mem_closingOf {number : Nat} {outcome : SubscribeFuture.Outcome} :
    ∀ record ∈ closingOf number outcome,
      record.span? = some (SubscribeService.span number) := by
  cases outcome with
  | ok stream => simp [closingOf, closing, LogRecord.span?]
  | error failure => cases failure <;> simp [closingOf, closing, LogRecord.span?]

/-- A new request adds a report under its own number. -/
theorem written_append (entry : SubscribeRequest × RequestState) (number : Nat) :
    written schema (requests ++ [entry]) number =
      written schema requests number ++
        if requests.length = number then report schema number entry else [] := by
  unfold written
  rcases Nat.lt_trichotomy number requests.length with before | here | behind
  · rw [List.getElem?_append_left before, if_neg (Nat.ne_of_gt before), List.append_nil]
  · subst here
    simp
  · have unstarted : (requests ++ [entry])[number]? = none := by
      rw [List.getElem?_eq_none_iff, List.length_append, List.length_singleton]
      omega
    rw [unstarted, List.getElem?_eq_none (Nat.le_of_lt behind), if_neg (Nat.ne_of_lt behind)]
    rfl

/-- A request that moves changes the report under its own number only. -/
theorem written_set {number : Nat} {entry : SubscribeRequest × RequestState}
    (here : requests[number]? = some entry) (other : SubscribeRequest × RequestState)
    (asked : Nat) :
    written schema (requests.set number other) asked =
      if number = asked then report schema number other else written schema requests asked := by
  unfold written
  rw [List.getElem?_set]
  by_cases same : number = asked
  · subst same
    obtain ⟨within, -⟩ := List.getElem?_eq_some_iff.1 here
    simp [within]
  · simp [same]

/-- What is written under a number is the report of the request of that number. -/
theorem written_of_getElem? {number : Nat} {entry : SubscribeRequest × RequestState}
    (here : requests[number]? = some entry) :
    written schema requests number = report schema number entry := by
  rw [written, here]

/-- A step adds what it records to what is written of the request that it is about, and to no
other. -/
theorem written_step {action : RequestAction} {after : Requests} {notes : List Note}
    {records : List LogRecord} (path : StepOutcome schema requests action after notes records)
    (number : Nat) :
    written schema after number = written schema requests number ++ onSpanOf number records := by
  cases path with
  | started request started starts =>
    rw [written_append, onSpanOf_of_forall span?_of_mem_opening]
    by_cases own : requests.length = number
    · subst own
      rfl
    · rw [if_neg own, if_neg own]
  | polled other request future left here pending =>
    rw [written_set here, show onSpanOf number [] = [] from rfl, List.append_nil]
    by_cases own : other = number
    · subst own
      rw [if_pos rfl, written_of_getElem? here]
      rfl
    · rw [if_neg own]
  | resolved other request future outcome here ready =>
    rw [written_set here, onSpanOf_of_forall span?_of_mem_closingOf]
    by_cases own : other = number
    · subst own
      rw [if_pos rfl, if_pos rfl, written_of_getElem? here]
      rfl
    · rw [if_neg own, if_neg own, List.append_nil]
  | dropped other request future here =>
    rw [written_set here, show onSpanOf number [] = [] from rfl, List.append_nil]
    by_cases own : other = number
    · subst own
      rw [if_pos rfl, written_of_getElem? here]
      rfl
    · rw [if_neg own]
  | idle other action about gone => exact (List.append_nil _).symm

/-- Every record of a step is on the span of a request that has been started by then. -/
theorem exists_span_of_step {action : RequestAction} {after : Requests} {notes : List Note}
    {records : List LogRecord} (path : StepOutcome schema requests action after notes records) :
    requests.length ≤ after.length ∧ ∀ record ∈ records, ∃ number < after.length,
      record.span? = some (SubscribeService.span number) := by
  cases path with
  | started request started starts =>
    refine ⟨by simp, fun record listed => ?_⟩
    exact ⟨requests.length, by simp, span?_of_mem_opening record listed⟩
  | polled number request future left here pending => simp
  | resolved number request future outcome here ready =>
    refine ⟨by simp, fun record listed => ?_⟩
    obtain ⟨within, -⟩ := List.getElem?_eq_some_iff.1 here
    exact ⟨number, by simpa using within, span?_of_mem_closingOf record listed⟩
  | dropped number request future here => simp
  | idle number action about gone => simp

/-! ## Runs -/

/-- A schedule is a first action and what follows it, notes included. -/
theorem run_cons (entered : List Span) (action : RequestAction)
    (schedule : List (List Span × RequestAction)) (requests : Requests) :
    run schema ((entered, action) :: schedule) requests =
      { value := (run schema schedule (requests.step schema entered action).value.1).value
        notes := (requests.step schema entered action).notes ++
          (run schema schedule (requests.step schema entered action).value.1).notes } := rfl

/-- After any run, what is written is what was written before and what the run recorded; the run
recorded nothing outside the spans of the requests; and every future is inside its own span. -/
theorem written_run (compiled : schema.Compiled) (schedule : List (List Span × RequestAction))
    {requests : Requests} (kept : requests.Kept) :
    Kept (run schema schedule requests).value ∧
      requests.length ≤ (run schema schedule requests).value.length ∧
      (∀ number, written schema (run schema schedule requests).value number =
        written schema requests number ++ onSpanOf number (run schema schedule requests).records) ∧
      ∀ record ∈ (run schema schedule requests).records,
        ∃ number < (run schema schedule requests).value.length,
          record.span? = some (SubscribeService.span number) := by
  induction schedule generalizing requests with
  | nil =>
    refine ⟨kept, Nat.le_refl _, fun number => ?_, by simp [run]⟩
    exact (List.append_nil _).symm
  | cons turn schedule ih =>
    obtain ⟨entered, action⟩ := turn
    obtain ⟨path, -, still⟩ := step_outcome compiled kept entered action
    obtain ⟨grown, own⟩ := exists_span_of_step path
    obtain ⟨last, longer, rest, others⟩ := ih still
    have all : (run schema ((entered, action) :: schedule) requests).records =
        (requests.step schema entered action).records ++
          (run schema schedule (requests.step schema entered action).value.1).records := by
      rw [run_cons]
      exact List.filterMap_append
    refine ⟨last, Nat.le_trans grown longer, fun number => ?_, ?_⟩
    · rw [all, onSpanOf_append, ← List.append_assoc, ← written_step path]
      exact rest number
    · rw [all]
      intro record listed
      rcases List.mem_append.1 listed with first | later
      · obtain ⟨number, within, located⟩ := own record first
        exact ⟨number, Nat.lt_of_lt_of_le within longer, located⟩
      · exact others record later

end Requests

/-! ## Schemas of registered fields -/

/-- The shape of a compiled descriptor is that of its return type. -/
theorem Registration.classify_of_compile {registration : Registration}
    {descriptor : OperationDescriptor} (compiled : registration.compile.value = .ok descriptor) :
    registration.type.describe.classify = .ok descriptor.shape := by
  unfold compile at compiled
  cases classified : registration.type.describe.classify with
  | error refusal =>
    rw [OperationDescriptor.compile_of_classify_eq_error _ _ _ _ _ classified] at compiled
    cases compiled
  | ok shape =>
    obtain ⟨adapter, -, -, result⟩ :=
      OperationDescriptor.compile_of_classify_eq_ok registration.field registration.receiver
        registration.arguments registration.operation registration.allocation classified
    rw [result] at compiled
    cases compiled
    rfl

/-- Any number of requests go through the service that the engine calls, with a schema that came
about by any calls that put fields into a registry and a freeze. They are started, polled and
dropped in any order, and at each step any spans may be entered. Then the records on the span of a
request are what is written of the request, and all records are on the span of some request.
Whatever is done next leaves the spans entered as they were and takes one of the paths that a step
can take. The shape that is written of a request is that of the first accepted registration of its
field. -/
theorem requests_report_on_own_spans (config : RegistryConfig) (calls : List FieldCall)
    (schedule : List (List Span × RequestAction)) (entered : List Span) (action : RequestAction) :
    let done := ((Registry.new config).performAll (calls.map FieldCall.call)).value
    let schema := done.1.freeze.value.2
    let requests := Requests.run schema schedule []
    let next := requests.value.step schema entered action
    (∀ number, Requests.onSpanOf number requests.records =
      Requests.written schema requests.value number) ∧
    (∀ record ∈ requests.records, ∃ number < requests.value.length,
      record.span? = some (SubscribeService.span number)) ∧
    Requests.StepOutcome schema requests.value action next.value.1 next.notes next.records ∧
    next.value.2 = entered ∧
    ∀ field, match firstAccepted? field calls done.2 with
      | none => schema.resolver? field = none
      | some registration => ∃ descriptor, schema.resolver? field = some descriptor ∧
          registration.compile.value = .ok descriptor ∧
          registration.type.describe.classify = .ok descriptor.shape := by
  intro done schema requests next
  have compiled : schema.Compiled := by
    intro field descriptor known
    have routed := resolver?_of_firstAccepted config calls field
    cases accepted : firstAccepted? field calls done.2 with
    | none =>
      simp only [done, accepted] at routed
      cases known.symm.trans routed
    | some registration =>
      simp only [done, accepted] at routed
      obtain ⟨other, compiles, found⟩ := routed
      cases known.symm.trans found
      exact ⟨registration, compiles⟩
  have unstarted : Requests.Kept [] := by
    intro number request future here
    cases here
  obtain ⟨kept, -, written, spans⟩ := Requests.written_run compiled schedule unstarted
  obtain ⟨path, left, -⟩ := Requests.step_outcome compiled kept entered action
  refine ⟨fun number => ?_, spans, path, left, fun field => ?_⟩
  · exact (written number).symm
  · have routed := resolver?_of_firstAccepted config calls field
    cases accepted : firstAccepted? field calls done.2 with
    | none =>
      simp only [done, accepted] at routed
      exact routed
    | some registration =>
      simp only [done, accepted] at routed
      obtain ⟨descriptor, compiles, found⟩ := routed
      exact ⟨descriptor, found, compiles, registration.classify_of_compile compiles⟩

end SubscriptionFields
