import SubscriptionFields.Session.Command

/-!
# Sessions

A session carries out commands one after the other. It remembers when a reply first showed a
descriptor or a schema. Descriptors are told apart by their allocations and schemas by their
numbers, never by their content.

Starting a subscription under a name that is in use ends the earlier one, after the new call.
-/

set_option autoImplicit false

namespace SubscriptionFields

/-- How far a subscription has come. -/
inductive Subscription where
  | starting (future : SubscribeFuture)
  | streaming (stream : SubscriptionStream)
  | closed

namespace Subscription

/-- The end of a subscription, whatever is left of it. -/
def drop : Subscription → Noted Unit
  | .starting future => future.drop
  | .streaming stream => stream.drop
  | .closed => pure ()

/-- Polls a subscription up to `count` times. A future that fails closes it. The end of the stream
closes it too and stops the polling, unless polling is to go on past the end. -/
def pollMany (pastEnd stopWhenReady : Bool) :
    Nat → Subscription → Noted (List (PollAnswer SubscribeError) × Subscription)
  | 0, subscription => pure ([], subscription)
  | _ + 1, .closed => pure ([.closed], .closed)
  | count + 1, .starting future => do
    match ← future.poll with
    | .pending future =>
      let (answers, left) ← pollMany pastEnd stopWhenReady count (.starting future)
      return (.handlePending :: answers, left)
    | .ready (.error error) =>
      let (answers, left) ← pollMany pastEnd stopWhenReady count .closed
      return (.handleFailed error :: answers, left)
    | .ready (.ok stream) =>
      if stopWhenReady then
        return ([.handleReady], .streaming stream)
      else
        let (answers, left) ← pollMany pastEnd stopWhenReady count (.streaming stream)
        return (.handleReady :: answers, left)
  | count + 1, .streaming stream => do
    match ← stream.poll with
    | (.ended, stream) =>
      if pastEnd then
        let (answers, left) ← pollMany pastEnd stopWhenReady count (.streaming stream)
        return (.ended :: answers, left)
      else
        stream.drop
        return ([.ended], .closed)
    | (answer, stream) =>
      let (answers, left) ← pollMany pastEnd stopWhenReady count (.streaming stream)
      return (.ofStream answer :: answers, left)

end Subscription

/-- Polls a delivery up to `count` times and counts the polls that found it waiting; what is left
of it is dropped. -/
def Delivery.pollMany : Nat → Delivery → Noted (Nat × Option DriveOutcome)
  | 0, delivery => do
    delivery.drop
    return (0, none)
  | count + 1, delivery => do
    match ← delivery.poll with
    | .ready outcome => return (0, some outcome)
    | .pending delivery =>
      let (waits, outcome) ← pollMany count delivery
      return (waits + 1, outcome)

/-- A session between two commands. -/
structure Session where
  registry : Registry
  /-- The log target of the session's own spans. -/
  logTarget : String
  contexts : Table RequestContext
  subscriptions : Table Subscription
  /-- The number of commands carried out so far, which is the position of the next one. -/
  position : Nat
  /-- When a reply first showed the descriptor in an allocation. -/
  descriptorsSeen : List (Allocation × Nat)
  /-- When a reply first showed the schema of a number. -/
  schemasSeen : List (Nat × Nat)

namespace Session

/-- A session without fields. The context without a name is always there. -/
def start (config : RegistryConfig) (contexts : List (String × RequestContext))
    (logTarget : String) : Session where
  registry := .new config
  logTarget
  contexts := Table.ofList (("", {}) :: contexts)
  subscriptions := .empty
  position := 0
  descriptorsSeen := []
  schemasSeen := []

/-! ## Fields -/

/-- A described field as one of the callers hands it in for registration. -/
def registration (session : Session) (plan : FieldPlan) (caller : Nat) : Registration where
  field := plan.field
  type := plan.type
  receiver := plan.receiver
  arguments := plan.arguments
  operation :=
    plan.script.operation plan.type (plan.label.getD ("step" ++ toString session.position))
  allocation := .minted session.position caller

def showDescriptor (session : Session) (descriptor : OperationDescriptor) : Session × Reply :=
  match session.descriptorsSeen.lookup descriptor.allocation with
  | some firstSeen => (session, .descriptor { descriptor, firstSeen })
  | none =>
    ({ session with
        descriptorsSeen := (descriptor.allocation, session.position) :: session.descriptorsSeen },
      .descriptor { descriptor, firstSeen := session.position })

def showSchema (session : Session) (schema : Schema) : Session × Reply :=
  match session.schemasSeen.lookup schema.number with
  | some firstSeen => (session, .schema { schema, firstSeen })
  | none =>
    ({ session with schemasSeen := (schema.number, session.position) :: session.schemasSeen },
      .schema { schema, firstSeen := session.position })

def showAnswer (session : Session) : Registry.Answer → Session × Reply
  | .ok descriptor => session.showDescriptor descriptor
  | .error error => (session, .refused error)

/-- The descriptor of a field, among the registered ones or in the published schema. -/
def find? (session : Session) (field : String) : Lookup → Option OperationDescriptor
  | .registry => session.registry.get? field
  | .schema => session.registry.schema.bind fun schema => schema.resolver? field

def register (session : Session) (plan : FieldPlan) : Noted (Session × Reply) := do
  let (registry, answer) ← session.registry.register (session.registration plan 0)
  return { session with registry }.showAnswer answer

/-- Compiles a described field and publishes it. -/
def insert (session : Session) (plan : FieldPlan) : Noted (Session × Reply) := do
  match ← (session.registration plan 0).compile with
  | .error error => return (session, .misconfigured error)
  | .ok descriptor =>
    let (registry, answer) ← session.registry.insert descriptor
    return { session with registry }.showAnswer answer

/-- What several callers of one registration found, and whether they all found one descriptor. -/
def summarize (results : List CallResult) : Reply :=
  let answers := results.filterMap fun
    | .registered answer => some answer
    | .frozen _ => none
  let published := answers.filterMap Except.toOption
  let errors := answers.filterMap fun
    | .error error => some error
    | .ok _ => none
  .concurrent published.length
    (published.all fun descriptor => published.all fun other =>
      descriptor.allocation = other.allocation)
    errors

/-- Registers a described field by several callers at once. Their notes are not kept. -/
def registerConcurrently (session : Session) (plan : FieldPlan) (callers : Nat) :
    Session × Reply :=
  let calls := (List.range callers).map fun caller =>
    RegistryCall.register (session.registration plan caller)
  let shared := SharedRegistry.start session.registry calls
  let done := (shared.run (SharedRegistry.lockstep callers)).value
  ({ session with registry := done.registry }, summarize done.results)

/-! ## Subscriptions -/

/-- The span in which a session calls the routing service, if it is asked to. -/
def hostSpan (session : Session) : Span where
  id := session.position
  name := "host"
  declared := ["shape"]

/-- Starts a subscription; none if there is nothing to start it with. -/
def open? (session : Session) (field : String) (ctx : RequestContext) :
    Route → Noted (Option SubscribeFuture)
  | .field lookup =>
    match session.find? field lookup with
    | none => pure none
    | some descriptor => do
      return some (.resolving (← descriptor.subscribe session.position ctx))
  | .traced =>
    match session.registry.schema with
    | none => pure none
    | some schema => do
      let service := SubscribeService.standard schema
      return some (← service.start session.position { field, ctx } none)
  | .plain =>
    match session.registry.schema with
    | none => pure none
    | some schema => do
      let service := SubscribeService.routing schema
      return some (← service.start session.position { field, ctx } none)
  | .plainInSpan =>
    match session.registry.schema with
    | none => pure none
    | some schema => do
      log (.opened session.hostSpan .info session.logTarget [])
      let service := SubscribeService.routing schema
      return some (← service.start session.position { field, ctx } (some session.hostSpan))

/-- The session with a subscription under a name. -/
def keep (session : Session) (name : String) (subscription : Subscription) : Session :=
  { session with subscriptions := session.subscriptions.insert name subscription }

/-- Starts a subscription under a name; an earlier one of that name ends. -/
def subscribe (session : Session) (name field : String) (ctx : RequestContext) (route : Route) :
    Noted (Session × Reply) := do
  match ← session.open? field ctx route with
  | none => return (session, .noResolver)
  | some future =>
    match session.subscriptions.find? name with
    | some earlier => earlier.drop
    | none => pure ()
    return (session.keep name (.starting future), .subscribed)

def poll (session : Session) (name : String) (count : Nat) (pastEnd stopWhenReady : Bool) :
    Noted (Session × Reply) := do
  match session.subscriptions.find? name with
  | none => return (session, .noSubscription)
  | some subscription =>
    let (answers, left) ← subscription.pollMany pastEnd stopWhenReady count
    return (session.keep name left, .answers answers)

/-- Delivers a subscription's stream to a sink; the subscription is closed afterwards. -/
def drive (session : Session) (name field : String) (ctx : RequestContext) (lookup : Lookup)
    (sink : SinkPlan) (count : Nat) : Noted (Session × Reply) := do
  match session.find? field lookup with
  | none => return (session, .noResolver)
  | some descriptor =>
    match session.subscriptions.find? name with
    | none => return (session, .noSubscription)
    | some (.streaming stream) =>
      let delivery := Delivery.start descriptor ctx stream sink.sink
      let (waits, outcome) ← delivery.pollMany count
      return (session.keep name .closed, .driven waits outcome)
    | some _ => return (session, .notAStream)

/-- Ends a subscription. Its name is in use afterwards, even if it was not before. -/
def cancel (session : Session) (name : String) : Noted (Session × Reply) := do
  let after := session.keep name .closed
  match session.subscriptions.find? name with
  | none => return (after, .noSubscription)
  | some subscription =>
    subscription.drop
    match subscription with
    | .starting _ => return (after, .cancelledHandle)
    | .streaming _ => return (after, .cancelledStream)
    | .closed => return (after, .alreadyClosed)

/-! ## Commands -/

def withContext (session : Session) (name : String)
    (next : RequestContext → Noted (Session × Reply)) : Noted (Session × Reply) :=
  match session.contexts.find? name with
  | some ctx => next ctx
  | none => pure (session, .unknownContext name)

def keepContext (session : Session) (name : String) (ctx : RequestContext) : Session :=
  { session with contexts := session.contexts.insert name ctx }

def perform (session : Session) : Command → Noted (Session × Reply)
  | .register plan => session.register plan
  | .insert plan => session.insert plan
  | .registerConcurrently plan callers => pure (session.registerConcurrently plan callers)
  | .get field =>
    match session.registry.get? field with
    | some descriptor => pure (session.showDescriptor descriptor)
    | none => pure (session, .nothing)
  | .fields => pure (session, .names session.registry.order)
  | .isFrozen => pure (session, .flag session.registry.frozen)
  | .freeze => do
    let (registry, schema) ← session.registry.freeze
    return { session with registry }.showSchema schema
  | .schema =>
    match session.registry.schema with
    | some schema => pure (session.showSchema schema)
    | none => pure (session, .nothing)
  | .resolver field lookup =>
    match session.find? field lookup with
    | some descriptor => pure (session.showDescriptor descriptor)
    | none => pure (session, .nothing)
  | .inspect field lookup =>
    match session.find? field lookup with
    | some descriptor => pure (session, .inspection descriptor.inspectResolver)
    | none => pure (session, .nothing)
  | .subscribe subscription field ctx route =>
    session.withContext ctx fun ctx => session.subscribe subscription field ctx route
  | .poll subscription count pastEnd stopWhenReady =>
    session.poll subscription count pastEnd stopWhenReady
  | .drive subscription field ctx lookup sink count =>
    session.withContext ctx fun ctx => session.drive subscription field ctx lookup sink count
  | .cancel subscription => session.cancel subscription
  | .resolveValue field ctx lookup =>
    session.withContext ctx fun ctx =>
      match session.find? field lookup with
      | some descriptor => pure (session, .value (descriptor.resolveValue ctx))
      | none => pure (session, .noResolver)
  | .setSource name source =>
    session.withContext name fun ctx =>
      pure (session.keepContext name (ctx.withSource source), .sourceSet)
  | .forEvent ctx payload name =>
    session.withContext ctx fun ctx =>
      pure (session.keepContext name (ctx.forEvent payload), .derived)

/-- Carries out the next command and moves on to the position after it. -/
def step (session : Session) (command : Command) : Noted (Session × Reply) := do
  let (after, reply) ← session.perform command
  return ({ after with position := session.position + 1 }, reply)

/-- The replies to all commands, each with the notes of its own. -/
def run (session : Session) : List Command → List (Noted Reply)
  | [] => []
  | command :: commands =>
    let done := session.step command
    { value := done.value.2, notes := done.notes } :: run done.value.1 commands

end Session

end SubscriptionFields
