import SubscriptionFields.Proofs.EnteredSpans
import SubscriptionFields.Proofs.Silence

/-!
# Many requests through one service

Any number of requests go through one service with a span per request. They are started, their
futures are polled, and futures that have not resolved are dropped, in any order, and wherever other
spans are entered (`Requests.step`, `Requests.run`).

Every future stays inside the span of its own request, and inside no other (`OnSpan`, `Kept`). Hence
`step_outcome` can list once what a step does and what is recorded: a request that is started
records its opening, a poll that resolves a future records its closing, and nothing else is recorded
at all. It takes a schema of compiled descriptors, since only these are known to record nothing of
their own.
-/

set_option autoImplicit false

namespace SubscriptionFields

/-! ## Requests -/

/-- How far a request has come. -/
inductive RequestState where
  | waiting (future : SubscribeFuture)
  | answered (outcome : SubscribeFuture.Outcome)
  | dropped

/-- What is done next. Requests are numbered in the order in which they are started. -/
inductive RequestAction where
  | start (request : SubscribeRequest)
  | poll (number : Nat)
  | drop (number : Nat)

/-- The requests that were started, with what has become of them. -/
abbrev Requests := List (SubscribeRequest × RequestState)

namespace Requests

variable (schema : Schema)

/-- Does one thing where some spans are entered. A request that has resolved or was dropped has no
future any more. -/
def step (requests : Requests) (entered : List Span) :
    RequestAction → Noted (Requests × List Span)
  | .start request => do
    let (future, after) ←
      (SubscribeService.standard schema).startEntered requests.length request entered
    return (requests ++ [(request, .waiting future)], after)
  | .poll number =>
    match requests[number]? with
    | some (request, .waiting future) => do
      match ← future.pollEntered entered with
      | (.pending left, after) => return (requests.set number (request, .waiting left), after)
      | (.ready outcome, after) =>
        return (requests.set number (request, .answered outcome), after)
    | _ => pure (requests, entered)
  | .drop number =>
    match requests[number]? with
    | some (request, .waiting future) => do
      future.drop
      return (requests.set number (request, .dropped), entered)
    | _ => pure (requests, entered)

/-- Does one thing after the other, each where other spans may be entered. -/
def run : List (List Span × RequestAction) → Requests → Noted Requests
  | [], requests => pure requests
  | (entered, action) :: schedule, requests => do
    let (after, _) ← requests.step schema entered action
    run schedule after

/-! ## Reports -/

/-- What is recorded while a request is started: its span with the field and the trace, and the
shape of the field if the schema has it. -/
def opening (number : Nat) (request : SubscribeRequest) : List LogRecord :=
  let span := SubscribeService.span number
  .opened span .info SubscribeService.logTarget
      [("field", .text request.field), ("trace_id", .text request.ctx.traceId)] ::
    match schema.resolver? request.field with
    | none => []
    | some descriptor => [.recorded span ("shape", .text descriptor.shape.label)]

/-- What is recorded in the poll in which a request resolves. -/
def closing (number : Nat) (word : String) : List LogRecord :=
  let span := SubscribeService.span number
  [.recorded span ("duration_ms", .elapsed), .recorded span ("outcome", .text word),
    .event .debug SubscribeService.logTarget
      [("duration_ms", .elapsed), ("outcome", .text word),
        ("message", .text "subscription started")] (some span)]

def closingOf (number : Nat) : SubscribeFuture.Outcome → List LogRecord
  | .ok _ => closing number "ok"
  | .error (.unknownField _) => closing number "unknown_field"
  | .error (.field _) => closing number "error"

end Requests

/-! ## One request -/

/-- A future that the service returned for the request of this number: it is inside that request's
span, and inside no other. -/
inductive SubscribeFuture.OnSpan (number : Nat) : SubscribeFuture → Prop
  | unknownField (field : String) :
      OnSpan number (.traced (SubscribeService.span number) (.unknownField field))
  | resolving (handle : SubscriptionHandle) :
      OnSpan number (.traced (SubscribeService.span number) (.resolving handle))

namespace SubscribeFuture

/-- The outcome of a request closes the report on the span of its number. -/
theorem records_recordOutcome (number : Nat) (outcome : Outcome) :
    (recordOutcome (SubscribeService.span number) outcome).records =
      Requests.closingOf number outcome := by
  have duration : "duration_ms" ∈ (SubscribeService.span number).declared := by
    simp [SubscribeService.span]
  have word : "outcome" ∈ (SubscribeService.span number).declared := by
    simp [SubscribeService.span]
  simp only [recordOutcome, Noted.records_bind, Noted.records_recordOn duration,
    Noted.records_recordOn word, Noted.records_logEvent]
  cases outcome with
  | ok stream => rfl
  | error failure => cases failure <;> rfl

/-- A request that is given up adds nothing to the report on its span. -/
theorem OnSpan.drop {number : Nat} {future : SubscribeFuture} (own : future.OnSpan number) :
    future.drop.records = [] := by
  cases own with
  | unknownField field => rfl
  | resolving handle => exact handle.records_drop

/-- A poll that leaves a request pending records nothing; a poll that resolves it records what it
came to, on its own span. -/
theorem OnSpan.poll {number : Nat} {future : SubscribeFuture} (own : future.OnSpan number) :
    match future.poll.value with
    | .pending left => left.OnSpan number ∧ future.poll.records = []
    | .ready outcome => future.poll.records = Requests.closingOf number outcome := by
  cases own with
  | unknownField field =>
    exact records_recordOutcome number (.error (.unknownField field))
  | resolving handle =>
    have silent := handle.records_poll
    simp only [SubscribeFuture.poll, Noted.value_bind, Noted.value_pure, Noted.records_bind,
      Noted.records_pure, silent, List.append_nil, List.nil_append]
    cases handle.poll.value with
    | pending left => exact ⟨.resolving left, rfl⟩
    | ready answer => simp [Progress.map, records_recordOutcome]

end SubscribeFuture

/-- The service opens the request's span and records the field's shape on it, and the future that
it returns is inside that span. -/
theorem SubscribeService.start_standard {schema : Schema} (compiled : schema.Compiled)
    (number : Nat) (request : SubscribeRequest) (current : Option Span) :
    ((standard schema).start number request current).value.OnSpan number ∧
      ((standard schema).start number request current).records =
        Requests.opening schema number request := by
  unfold standard start
  simp only [Noted.value_bind, Noted.value_pure, Noted.records_bind, Noted.records_pure,
    Noted.records_log]
  unfold start Requests.opening
  cases known : schema.resolver? request.field with
  | none => exact ⟨.unknownField request.field, rfl⟩
  | some descriptor =>
    obtain ⟨registration, compiles⟩ := compiled request.field descriptor known
    have shape : "shape" ∈ (span number).declared := by simp [span]
    refine ⟨.resolving _, ?_⟩
    simp [Noted.records_recordOn shape, registration.records_subscribe compiles]

/-! ## One step -/

namespace Requests

/-- How a step goes: what becomes of the requests, and what is noted and recorded. A request that
is started and a future that is polled or dropped note just what they note of themselves, whatever
spans are entered. -/
inductive StepOutcome (schema : Schema) (requests : Requests) :
    RequestAction → Requests → List Note → List LogRecord → Prop
  | started (request : SubscribeRequest) (started : Noted SubscribeFuture)
      (starts : (SubscribeService.standard schema).start requests.length request none = started) :
      StepOutcome schema requests (.start request) (requests ++ [(request, .waiting started.value)])
        started.notes (opening schema requests.length request)
  /-- A future is polled and does not resolve. -/
  | polled (number : Nat) (request : SubscribeRequest) (future left : SubscribeFuture)
      (here : requests[number]? = some (request, .waiting future))
      (pending : future.poll.value = .pending left) :
      StepOutcome schema requests (.poll number) (requests.set number (request, .waiting left))
        future.poll.notes []
  /-- A future is polled and resolves. -/
  | resolved (number : Nat) (request : SubscribeRequest) (future : SubscribeFuture)
      (outcome : SubscribeFuture.Outcome)
      (here : requests[number]? = some (request, .waiting future))
      (ready : future.poll.value = .ready outcome) :
      StepOutcome schema requests (.poll number)
        (requests.set number (request, .answered outcome)) future.poll.notes
        (closingOf number outcome)
  | dropped (number : Nat) (request : SubscribeRequest) (future : SubscribeFuture)
      (here : requests[number]? = some (request, .waiting future)) :
      StepOutcome schema requests (.drop number) (requests.set number (request, .dropped))
        future.drop.notes []
  /-- The request has no future any more, or it was never started. -/
  | idle (number : Nat) (action : RequestAction)
      (about : action = .poll number ∨ action = .drop number)
      (gone : ∀ (request : SubscribeRequest) (future : SubscribeFuture),
        requests[number]? ≠ some (request, .waiting future)) :
      StepOutcome schema requests action requests [] []

/-- Every future that is waited for is inside the span of its own request. -/
def Kept (requests : Requests) : Prop :=
  ∀ (number : Nat) (request : SubscribeRequest) (future : SubscribeFuture),
    requests[number]? = some (request, .waiting future) → future.OnSpan number

variable {schema : Schema} {requests : Requests}

/-- Starting a request opens the next number and leaves the entered spans as they were. -/
theorem step_start (request : SubscribeRequest) (entered : List Span) :
    requests.step schema entered (.start request) =
      ((SubscribeService.standard schema).start requests.length request none).map fun future =>
        (requests ++ [(request, .waiting future)], entered) := by
  simp only [step, SubscribeService.startEntered_eq]
  exact Noted.bind_pure_eq_map _ _

/-- Polling a request that waits either lets it wait on or has it answered. -/
theorem step_poll {number : Nat} {request : SubscribeRequest} {future : SubscribeFuture}
    (here : requests[number]? = some (request, .waiting future)) (entered : List Span) :
    requests.step schema entered (.poll number) = future.poll.map fun found =>
      match found with
      | .pending left => (requests.set number (request, .waiting left), entered)
      | .ready outcome => (requests.set number (request, .answered outcome), entered) := by
  simp only [step, here, SubscribeFuture.pollEntered_eq]
  apply Noted.ext
  · simp only [Noted.value_bind, Noted.value_map]
    cases future.poll.value <;> rfl
  · simp only [Noted.notes_bind, Noted.value_map, Noted.notes_map]
    cases future.poll.value <;> simp

/-- Dropping a request that waits ends it. -/
theorem step_drop {number : Nat} {request : SubscribeRequest} {future : SubscribeFuture}
    (here : requests[number]? = some (request, .waiting future)) (entered : List Span) :
    requests.step schema entered (.drop number) = future.drop.map fun _ =>
      (requests.set number (request, .dropped), entered) := by
  simp only [step, here]
  exact Noted.bind_pure_eq_map _ _

/-- A request that does not wait any more, or never began, is neither polled nor dropped. -/
theorem step_of_gone {number : Nat} {action : RequestAction}
    (about : action = .poll number ∨ action = .drop number)
    (gone : ∀ (request : SubscribeRequest) (future : SubscribeFuture),
      requests[number]? ≠ some (request, .waiting future)) (entered : List Span) :
    requests.step schema entered action = pure (requests, entered) := by
  rcases about with rfl | rfl
  · simp only [step]
  · simp only [step]

/-- A new request on the span of its own number keeps the others as they are. -/
theorem Kept.append (kept : requests.Kept) {request : SubscribeRequest} {future : SubscribeFuture}
    (own : future.OnSpan requests.length) : Kept (requests ++ [(request, .waiting future)]) := by
  intro number other found here
  rw [List.getElem?_append] at here
  split at here
  · exact kept number other found here
  · rename_i beyond
    obtain ⟨last, same⟩ := List.getElem?_eq_some_iff.1 here
    have number_eq : number = requests.length := by
      simp at last
      omega
    subst number_eq
    simp at same
    obtain ⟨rfl, rfl⟩ := same
    exact own

/-- A request that moves on its own span keeps the others as they are. -/
theorem Kept.set (kept : requests.Kept) {number : Nat} {request : SubscribeRequest}
    {state : RequestState} (own : ∀ future, state = .waiting future → future.OnSpan number) :
    Kept (requests.set number (request, state)) := by
  intro other found future here
  rw [List.getElem?_set] at here
  split at here
  · rename_i same
    subst same
    split at here
    · cases here
      exact own future rfl
    · cases here
  · exact kept other found future here

/-- A step takes one of the paths above, leaves every span again that it entered, and keeps every
future inside the span of its own request. -/
theorem step_outcome (compiled : schema.Compiled) (kept : requests.Kept) (entered : List Span)
    (action : RequestAction) :
    StepOutcome schema requests action (requests.step schema entered action).value.1
        (requests.step schema entered action).notes
        (requests.step schema entered action).records ∧
      (requests.step schema entered action).value.2 = entered ∧
      Kept (requests.step schema entered action).value.1 := by
  -- a request that is polled or dropped either has a future or has none any more
  have either (number : Nat) : (∃ request future,
      requests[number]? = some (request, .waiting future)) ∨
      ∀ (request : SubscribeRequest) (future : SubscribeFuture),
        requests[number]? ≠ some (request, .waiting future) := by
    by_cases waits : ∃ request future, requests[number]? = some (request, .waiting future)
    · exact .inl waits
    · refine .inr fun request future here => ?_
      exact waits ⟨request, future, here⟩
  cases action with
  | start request =>
    obtain ⟨own, recorded⟩ :=
      SubscribeService.start_standard compiled requests.length request none
    rw [step_start, Noted.records_map, Noted.notes_map, Noted.value_map, recorded]
    exact ⟨.started request _ rfl, rfl, kept.append own⟩
  | poll number =>
    rcases either number with ⟨request, future, here⟩ | gone
    · have polled := (kept number request future here).poll
      rw [step_poll here, Noted.records_map, Noted.notes_map, Noted.value_map]
      cases found : future.poll.value with
      | pending left =>
        rw [found] at polled
        rw [polled.2]
        refine ⟨.polled number request future left here found, rfl, kept.set ?_⟩
        rintro _ ⟨⟩
        exact polled.1
      | ready outcome =>
        rw [found] at polled
        rw [polled]
        refine ⟨.resolved number request future outcome here found, rfl, kept.set ?_⟩
        rintro _ ⟨⟩
    · rw [step_of_gone (.inl rfl) gone]
      exact ⟨.idle number _ (.inl rfl) gone, rfl, kept⟩
  | drop number =>
    rcases either number with ⟨request, future, here⟩ | gone
    · have silent := (kept number request future here).drop
      rw [step_drop here, Noted.records_map, Noted.notes_map, Noted.value_map, silent]
      refine ⟨.dropped number request future here, rfl, kept.set ?_⟩
      rintro _ ⟨⟩
    · rw [step_of_gone (.inr rfl) gone]
      exact ⟨.idle number _ (.inr rfl) gone, rfl, kept⟩

end Requests

end SubscriptionFields
