import SubscriptionFields.Proofs.Polling
import SubscriptionFields.Service.Subscribe

/-!
# The span that is entered

A record is not addressed to a span. It goes to the current span, which is the innermost one that is
entered when it is made. A traced service opens a span and enters it around the call of the service
inside; its future enters the same span around each poll, of the future inside and of what is
recorded when that has resolved; and whoever enters a span leaves it again.

`startEntered` and `pollEntered` spell this out, with the stack of the spans that are entered. The
service's own definitions name the spans that they record on. Both are the same: whatever the stack,
a call and a poll come to the same value and leave the same notes either way, and the stack is
afterwards what it was (`startEntered_eq`, `pollEntered_eq`).
-/

set_option autoImplicit false

namespace SubscriptionFields

/-- What a computation inside a span does, with the span entered before and left afterwards. -/
def inSpan {α : Type} (span : Span) (inside : List Span → Noted (α × List Span))
    (entered : List Span) : Noted (α × List Span) := do
  let (value, within) ← inside (span :: entered)
  return (value, within.tail)

/-- Records a value on the current span. -/
def recordOnCurrent (field : LogField) (entered : List Span) : Noted Unit :=
  recordOn entered.head? field

/-- A call of a service where spans may be entered. -/
def SubscribeService.startEntered (call : Nat) (request : SubscribeRequest) :
    SubscribeService → List Span → Noted (SubscribeFuture × List Span)
  | .routing schema, entered =>
    match schema.resolver? request.field with
    | none => pure (.unknownField request.field, entered)
    | some descriptor => do
      recordOnCurrent ("shape", .text descriptor.shape.label) entered
      return (.resolving (← descriptor.subscribe call request.ctx), entered)
  | .traced inner, entered => do
    log (.opened (span call) .info logTarget
      [("field", .text request.field), ("trace_id", .text request.ctx.traceId)])
    let (future, after) ← inSpan (span call) (inner.startEntered call request) entered
    return (.traced (span call) future, after)

/-- Writes down on the current span what a request came to. -/
def SubscribeFuture.recordOutcomeEntered (outcome : Outcome) (entered : List Span) :
    Noted Unit := do
  recordOnCurrent ("duration_ms", .elapsed) entered
  recordOnCurrent ("outcome", .text (outcomeWord outcome)) entered
  logEvent .debug SubscribeService.logTarget "subscription started"
    [("duration_ms", .elapsed), ("outcome", .text (outcomeWord outcome))] entered.head?

/-- A poll of a future where spans may be entered. -/
def SubscribeFuture.pollEntered :
    SubscribeFuture → List Span → Noted (Progress SubscribeFuture Outcome × List Span)
  | .unknownField field, entered => pure (.ready (.error (.unknownField field)), entered)
  | .resolving handle, entered => do
    return ((← handle.poll).map .resolving (Except.mapError .field), entered)
  | .traced span inner, entered =>
    inSpan span (fun entered => do
      match ← inner.pollEntered entered with
      | (.pending left, within) => return (.pending (.traced span left), within)
      | (.ready outcome, within) =>
        recordOutcomeEntered outcome within
        return (.ready outcome, within)) entered

/-! ## The stack makes no difference -/

/-- Starting a request under the entered spans is starting it inside the innermost one, and leaves
the stack of entered spans as it was. -/
theorem SubscribeService.startEntered_eq (call : Nat) (request : SubscribeRequest)
    (service : SubscribeService) (entered : List Span) :
    service.startEntered call request entered =
      (service.start call request entered.head?).map fun future => (future, entered) := by
  induction service generalizing entered with
  | routing schema =>
    unfold startEntered start
    cases schema.resolver? request.field with
    | none => rfl
    | some descriptor =>
      apply Noted.ext
      · rfl
      · simp [recordOnCurrent]
  | traced inner ih =>
    apply Noted.ext
    · simp [startEntered, start, inSpan, ih]
    · simp [startEntered, start, inSpan, ih]

/-- Polling under the entered spans is polling, and leaves their stack as it was. -/
theorem SubscribeFuture.pollEntered_eq (future : SubscribeFuture) (entered : List Span) :
    future.pollEntered entered = future.poll.map fun found => (found, entered) := by
  induction future generalizing entered with
  | unknownField field => rfl
  | resolving handle => rfl
  | traced span inner ih =>
    simp only [pollEntered, poll, inSpan, ih]
    apply Noted.ext
    · simp only [Noted.value_bind, Noted.value_map]
      cases inner.poll.value <;> rfl
    · simp only [Noted.notes_bind, Noted.value_bind, Noted.value_map, Noted.notes_map]
      cases inner.poll.value with
      | pending left => simp
      | ready outcome => simp [recordOutcomeEntered, recordOutcome, recordOnCurrent]

end SubscriptionFields
