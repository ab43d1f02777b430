import SubscriptionFields.Proofs.Binding
import SubscriptionFields.Proofs.Polling
import SubscriptionFields.Service.Subscribe

/-!
# Services inside spans

A traced service opens a span and runs the service inside. Any number of spans may stand around the
routing service; the notes that they leave are all in the log (`filterMap_start_stacked`), so
nothing is observed of them, and they do not touch the answers. Hence a subscription through any
stack starts as it does without the spans (`value_start_stacked`, `observations_start_stacked`), and
its future answers and observes at every poll what the future inside does (`value_pollUpTo_wrapped`,
`observations_pollUpTo_wrapped`).
-/

set_option autoImplicit false

namespace SubscriptionFields

/-- The routing service inside a number of spans per request. -/
def SubscribeService.stacked (schema : Schema) : Nat → SubscribeService
  | 0 => .routing schema
  | layers + 1 => .traced (stacked schema layers)

/-- The service that the engine calls has one span per request. -/
theorem SubscribeService.stacked_one (schema : Schema) : stacked schema 1 = standard schema := rfl

/-- A future inside a number of spans of one request. -/
def SubscribeFuture.wrapped (call : Nat) : Nat → SubscribeFuture → SubscribeFuture
  | 0, future => future
  | layers + 1, future => .traced (SubscribeService.span call) (wrapped call layers future)

/-! ## Starting -/

namespace SubscribeService

variable (schema : Schema) (call : Nat) (request : SubscribeRequest)

/-- What routing comes to does not depend on the span around it. -/
theorem value_start_routing (current other : Option Span) :
    ((routing schema).start call request current).value =
      ((routing schema).start call request other).value := by
  unfold start
  cases schema.resolver? request.field <;> rfl

/-- Through any number of spans the routing service starts the same future, wrapped. -/
theorem value_start_stacked (layers : Nat) (current : Option Span) :
    ((stacked schema layers).start call request current).value =
      .wrapped call layers ((routing schema).start call request none).value := by
  induction layers generalizing current with
  | zero => exact value_start_routing schema call request current none
  | succ layers ih => exact congrArg _ (ih (some (span call)))

section

variable {γ : Type} (kind : Note → Option γ) (unlogged : ∀ record, kind (.logged record) = none)

include unlogged

/-- A value that is recorded on a span is in the log only. -/
theorem filterMap_recordOn (span : Option Span) (field : LogField) :
    (recordOn span field).notes.filterMap kind = [] := by
  unfold recordOn
  split
  · split
    · simp [log, unlogged]
    · rfl
  · rfl

/-- Spans around the service change nothing of its start but the log. -/
theorem filterMap_start_stacked (layers : Nat) (current : Option Span) :
    ((stacked schema layers).start call request current).notes.filterMap kind =
      ((routing schema).start call request none).notes.filterMap kind := by
  induction layers generalizing current with
  | zero =>
    simp only [stacked, start]
    cases schema.resolver? request.field with
    | none => rfl
    | some descriptor =>
      simp only [Noted.notes_bind, List.filterMap_append, filterMap_recordOn kind unlogged]
  | succ layers ih =>
    rw [← ih (some (span call))]
    simp [stacked, start, log, unlogged]

end

/-- Spans around the service do not change what is observed of its start. -/
theorem observations_start_stacked (layers : Nat) (current : Option Span) :
    ((stacked schema layers).start call request current).observations =
      ((routing schema).start call request none).observations :=
  filterMap_start_stacked schema call request Note.observation? (fun _ => rfl) layers current

/-- Spans around the service do not change the effects that the binders have at its start. -/
theorem effects_start_stacked (layers : Nat) (current : Option Span) :
    ((stacked schema layers).start call request current).effects =
      ((routing schema).start call request none).effects :=
  filterMap_start_stacked schema call request Note.effect? (fun _ => rfl) layers current

variable {schema request}

/-- A field that is not in the schema is answered at once, and nothing runs. -/
theorem start_routing_of_none (unknown : schema.resolver? request.field = none) :
    (routing schema).start call request none = pure (.unknownField request.field) := by
  simp [start, unknown]

/-- A field of the schema is subscribed to with the context of the request. -/
theorem start_routing_of_some {descriptor : OperationDescriptor}
    (known : schema.resolver? request.field = some descriptor) :
    ((routing schema).start call request none).value =
        .resolving (descriptor.subscribe call request.ctx).value ∧
      ((routing schema).start call request none).observations =
        (descriptor.subscribe call request.ctx).observations := by
  simp [start, known]

/-- A known field is subscribed to at once, and its handle is what the future inside awaits. -/
theorem start_stacked_of_some {descriptor : OperationDescriptor}
    (known : schema.resolver? request.field = some descriptor) (layers : Nat)
    (current : Option Span) :
    ((stacked schema layers).start call request current).value =
        .wrapped call layers (.resolving (descriptor.subscribe call request.ctx).value) ∧
      ((stacked schema layers).start call request current).observations =
        (descriptor.subscribe call request.ctx).observations := by
  obtain ⟨value, observed⟩ := start_routing_of_some call known
  rw [value_start_stacked, observations_start_stacked, value, observed]
  exact ⟨rfl, rfl⟩

/-- The effects of a start are those that the binders of the known field have. -/
theorem effects_start_of_some {descriptor : OperationDescriptor}
    (known : schema.resolver? request.field = some descriptor) (layers : Nat)
    (current : Option Span) :
    ((stacked schema layers).start call request current).effects =
      (descriptor.subscribe call request.ctx).effects := by
  rw [effects_start_stacked]
  simp [start, known, recordOn, Noted.effects]

end SubscribeService

/-! ## Polling -/

namespace SubscribeFuture

/-- Recording an outcome is not observed. -/
@[simp] theorem observations_recordOutcome (span : Span) (outcome : Outcome) :
    (recordOutcome span outcome).observations = [] := by
  simp [recordOutcome]

/-- A future finds the same inside spans. -/
theorem value_poll_wrapped (call layers : Nat) (future : SubscribeFuture) :
    (wrapped call layers future).poll.value =
      future.poll.value.map (wrapped call layers) id := by
  induction layers with
  | zero =>
    rw [wrapped]
    cases future.poll.value <;> rfl
  | succ layers ih =>
    simp only [wrapped, poll, Noted.value_bind, ih]
    cases future.poll.value <;> rfl

/-- A poll of a future is observed the same inside spans. -/
theorem observations_poll_wrapped (call layers : Nat) (future : SubscribeFuture) :
    (wrapped call layers future).poll.observations = future.poll.observations := by
  induction layers with
  | zero => rfl
  | succ layers ih =>
    rw [← ih]
    simp only [wrapped, poll, Noted.observations_bind]
    cases (wrapped call layers future).poll.value <;> simp

/-- A future finds the same inside spans, however often it is polled. -/
theorem value_pollUpTo_wrapped (call layers count : Nat) (future : SubscribeFuture) :
    (pollUpTo poll count (wrapped call layers future)).value =
      (pollUpTo poll count future).value.map (wrapped call layers) id :=
  value_pollUpTo_map (value_poll_wrapped call layers) count future

/-- Any number of polls of a future is observed the same inside spans. -/
theorem observations_pollUpTo_wrapped (call layers count : Nat) (future : SubscribeFuture) :
    (pollUpTo poll count (wrapped call layers future)).observations =
      (pollUpTo poll count future).observations :=
  filterMap_notes_pollUpTo_map Note.observation? (value_poll_wrapped call layers)
    (observations_poll_wrapped call layers) count future

/-- A future that waits for a handle finds what the handle finds. -/
theorem pollUpTo_resolving (count : Nat) (handle : SubscriptionHandle) :
    pollUpTo poll count (.resolving handle) =
      (pollUpTo SubscriptionHandle.poll count handle).map
        (Progress.map .resolving (Except.mapError .field)) :=
  pollUpTo_map (fun handle => Noted.bind_pure_eq_map _ handle.poll) count handle

/-- The future of a known field, inside spans, answers what the field's handle answers. -/
theorem value_pollUpTo_wrapped_resolving (call layers count : Nat) (handle : SubscriptionHandle) :
    (pollUpTo poll count (wrapped call layers (.resolving handle))).value =
      (pollUpTo SubscriptionHandle.poll count handle).value.map
        (fun handle => wrapped call layers (.resolving handle)) (Except.mapError .field) := by
  rw [value_pollUpTo_wrapped, pollUpTo_resolving, Noted.value_map]
  cases (pollUpTo SubscriptionHandle.poll count handle).value <;> rfl

/-- It answers after as many polls as the field's handle. -/
theorem answersAfter_wrapped_resolving (call layers : Nat) {handle : SubscriptionHandle}
    {waits : Nat} {answer : Except FieldError SubscriptionStream}
    (answers : AnswersAfter SubscriptionHandle.poll handle waits answer) :
    AnswersAfter poll (wrapped call layers (.resolving handle)) waits (answer.mapError .field) :=
  answers.map fun count => value_pollUpTo_wrapped_resolving call layers count handle

/-- It resolves to a stream exactly when the handle does. -/
theorem ready_ok_wrapped_resolving_iff {call layers count : Nat} {handle : SubscriptionHandle}
    {stream : SubscriptionStream} :
    (pollUpTo poll count (wrapped call layers (.resolving handle))).value = .ready (.ok stream) ↔
      (pollUpTo SubscriptionHandle.poll count handle).value = .ready (.ok stream) := by
  rw [value_pollUpTo_wrapped_resolving]
  cases (pollUpTo SubscriptionHandle.poll count handle).value with
  | pending waiting => exact iff_of_false nofun nofun
  | ready answer =>
    cases answer with
    | error error => exact iff_of_false nofun nofun
    | ok other =>
      constructor
      · intro found
        cases found
        rfl
      · intro found
        cases found
        rfl

/-- It fails with nothing but what the handle fails with. -/
theorem ready_error_of_wrapped_resolving {call layers count : Nat} {handle : SubscriptionHandle}
    {failure : SubscribeError}
    (failed : (pollUpTo poll count (wrapped call layers (.resolving handle))).value =
      .ready (.error failure)) :
    ∃ error, failure = .field error ∧
      (pollUpTo SubscriptionHandle.poll count handle).value = .ready (.error error) := by
  rw [value_pollUpTo_wrapped_resolving] at failed
  cases found : (pollUpTo SubscriptionHandle.poll count handle).value with
  | pending waiting =>
    rw [found] at failed
    cases failed
  | ready answer =>
    rw [found] at failed
    cases answer with
    | ok stream => cases failed
    | error error =>
      cases failed
      exact ⟨error, rfl, rfl⟩

end SubscribeFuture

/-! ## Calls -/

/-- Polling an operation's handle neither evaluates a binder nor calls an operation. -/
theorem Handle.ofCall_of_mem_poll {α : Type} (handle : Handle (EventStream α)) :
    ∀ seen ∈ handle.poll.observations, seen.ofCall = false := by
  unfold poll
  cases handle.next with
  | pending waiting => simp [Observation.ofCall]
  | ready answer => cases answer <;> simp [drop, Observation.ofCall]

/-- Polling an adapted handle neither evaluates a binder nor calls an operation. -/
theorem SubscriptionHandle.ofCall_of_mem_poll (handle : SubscriptionHandle) :
    ∀ seen ∈ handle.poll.observations, seen.ofCall = false := by
  cases handle with
  | direct inner => simpa [poll] using inner.ofCall_of_mem_poll
  | awaiting element inner => simpa [poll] using inner.ofCall_of_mem_poll
  | completed outcome => simp [poll]

/-- Polling a future neither evaluates a binder nor calls an operation. -/
theorem SubscribeFuture.ofCall_of_mem_poll (future : SubscribeFuture) :
    ∀ seen ∈ future.poll.observations, seen.ofCall = false := by
  induction future with
  | unknownField field => simp [poll]
  | resolving handle => simpa [poll] using handle.ofCall_of_mem_poll
  | traced span inner ih =>
    simp only [poll, Noted.observations_bind]
    cases inner.poll.value <;> simpa using ih

end SubscriptionFields
