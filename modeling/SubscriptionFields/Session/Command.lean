import SubscriptionFields.Field.Schedule
import SubscriptionFields.Service.Delivery
import SubscriptionFields.Service.Subscribe
import SubscriptionFields.Session.Trial

/-!
# Commands and replies of a session

A session owns one registry, named contexts and named subscriptions, and carries out commands on
them. This file lists the commands, with what they refer to by name, and the replies.
-/

set_option autoImplicit false

namespace SubscriptionFields

/-- A field as a command describes it. -/
structure FieldPlan where
  field : String
  type : ReturnType
  receiver : ReceiverBinder
  arguments : List ArgumentBinder
  script : Script
  /-- The label of the operation; by default it is named after the command's position. -/
  label : Option String

/-- Where a field is looked up. -/
inductive Lookup where
  | registry
  | schema
  deriving DecidableEq, Repr

/-- How a subscription is started. -/
inductive Route where
  /-- Through the standard service, which opens a span. -/
  | traced
  /-- Through the routing service alone. -/
  | plain
  /-- Through the routing service, inside a span of the session. -/
  | plainInSpan
  /-- On the field itself, without a service. -/
  | field (lookup : Lookup)
  deriving DecidableEq, Repr

/-- A sink that takes a limited number of values. -/
structure SinkPlan where
  /-- How many values it takes; by default all. -/
  capacity : Option Nat := none
  /-- The error that it refuses further values with. -/
  refusal : String := "sink full"
  /-- For how many polls it keeps a delivery waiting, each time. -/
  suspensions : Nat := 0

def SinkPlan.sink (plan : SinkPlan) : Sink where
  publish taken _ :=
    { suspensions := plan.suspensions
      refusal :=
        match plan.capacity with
        | some capacity => if capacity ≤ taken.length then some plan.refusal else none
        | none => none }
  onError _ _ := plan.suspensions

/-- What a session is asked to do. -/
inductive Command where
  | register (plan : FieldPlan)
  /-- Compiles a descriptor outside of the registry, then publishes it. -/
  | insert (plan : FieldPlan)
  /-- Registers one field by several callers at once. -/
  | registerConcurrently (plan : FieldPlan) (callers : Nat)
  | get (field : String)
  | fields
  | isFrozen
  | freeze
  | schema
  | resolver (field : String) (lookup : Lookup)
  | inspect (field : String) (lookup : Lookup)
  | subscribe (subscription field ctx : String) (route : Route)
  | poll (subscription : String) (count : Nat) (pastEnd stopWhenReady : Bool)
  | drive (subscription field ctx : String) (lookup : Lookup) (sink : SinkPlan) (count : Nat)
  | cancel (subscription : String)
  | resolveValue (field ctx : String) (lookup : Lookup)
  | setSource (ctx : String) (source : SourceValue)
  | forEvent (ctx : String) (payload : SourceValue) (name : String)

/-- A published descriptor, with the position of the command whose reply showed it first. -/
structure SeenDescriptor where
  descriptor : OperationDescriptor
  firstSeen : Nat

/-- A published schema, with the position of the command whose reply showed it first. -/
structure SeenSchema where
  schema : Schema
  firstSeen : Nat

/-- What a session replies. -/
inductive Reply where
  | descriptor (seen : SeenDescriptor)
  | misconfigured (error : ConfigError)
  | refused (error : RegistryError)
  /-- Of several callers: how many succeeded, whether all of them found the same descriptor, and
  the errors of the others. -/
  | concurrent (succeeded : Nat) (same : Bool) (errors : List RegistryError)
  | nothing
  | names (names : List String)
  | flag (value : Bool)
  | schema (seen : SeenSchema)
  | inspection (text : String)
  | subscribed
  | noResolver
  | noSubscription
  | answers (answers : List (PollAnswer SubscribeError))
  | notAStream
  | driven (pending : Nat) (outcome : Option DriveOutcome)
  | cancelledHandle
  | cancelledStream
  | alreadyClosed
  | value (value : SourceValue)
  | sourceSet
  | derived
  /-- The command names a context that is not there. -/
  | unknownContext (name : String)

end SubscriptionFields
