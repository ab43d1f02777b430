import SubscriptionFields.Field.Schema

/-!
# The subscribe service

A service takes a request, which names a field and carries a context, and returns a future that
resolves to the field's stream. The routing service finds the field in the schema, calls it at
once, and fails only for fields that the schema does not have. The traced service runs another one
inside a span of its own, passes its answers on untouched, and records on the span how the request
ended and how long it took.
-/

set_option autoImplicit false

namespace SubscriptionFields

/-- A request to start a subscription. -/
structure SubscribeRequest where
  field : String
  ctx : RequestContext

/-- A service that starts subscriptions. -/
inductive SubscribeService where
  /-- Finds the requested field in a schema. -/
  | routing (schema : Schema)
  /-- Runs another service inside a span per request. -/
  | traced (inner : SubscribeService)

/-- A subscription that is about to start. -/
inductive SubscribeFuture where
  | unknownField (field : String)
  | resolving (handle : SubscriptionHandle)
  | traced (span : Span) (inner : SubscribeFuture)

namespace SubscribeService

def logTarget : String := "subfield_server::service"

def span (call : Nat) : Span where
  id := call
  name := "subscribe"
  declared := ["field", "trace_id", "shape", "duration_ms", "outcome"]

/-- Starts the subscription numbered `call`, inside the current span if there is one. -/
def start (call : Nat) (request : SubscribeRequest) :
    SubscribeService → Option Span → Noted SubscribeFuture
  | .routing schema, current =>
    match schema.resolver? request.field with
    | none => pure (.unknownField request.field)
    | some descriptor => do
      recordOn current ("shape", .text descriptor.shape.label)
      return .resolving (← descriptor.subscribe call request.ctx)
  | .traced inner, _ => do
    log (.opened (span call) .info logTarget
      [("field", .text request.field), ("trace_id", .text request.ctx.traceId)])
    return .traced (span call) (← inner.start call request (some (span call)))

/-- The service that the engine calls: routing inside a span per request. -/
def standard (schema : Schema) : SubscribeService :=
  .traced (.routing schema)

end SubscribeService

namespace SubscribeFuture

abbrev Outcome := Except SubscribeError SubscriptionStream

def outcomeWord : Outcome → String
  | .ok _ => "ok"
  | .error (.unknownField _) => "unknown_field"
  | .error (.field _) => "error"

/-- Writes down on the span of a request what the request came to. -/
def recordOutcome (span : Span) (outcome : Outcome) : Noted Unit := do
  recordOn (some span) ("duration_ms", .elapsed)
  recordOn (some span) ("outcome", .text (outcomeWord outcome))
  logEvent .debug SubscribeService.logTarget "subscription started"
    [("duration_ms", .elapsed), ("outcome", .text (outcomeWord outcome))] (some span)

def poll : SubscribeFuture → Noted (Progress SubscribeFuture Outcome)
  | .unknownField field => pure (.ready (.error (.unknownField field)))
  | .resolving handle => do
    return (← handle.poll).map .resolving (Except.mapError .field)
  | .traced span inner => do
    match ← inner.poll with
    | .pending inner => return .pending (.traced span inner)
    | .ready outcome =>
      recordOutcome span outcome
      return .ready outcome

/-- The end of a future that nobody will poll again. -/
def drop : SubscribeFuture → Noted Unit
  | .unknownField _ => pure ()
  | .resolving handle => handle.drop
  | .traced _ inner => inner.drop

end SubscribeFuture

end SubscriptionFields
