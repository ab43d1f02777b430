import SubscriptionFields.Field.Schema

/-!
# The registry

Fields are registered one after the other until the registry is frozen; freezing publishes the
schema. Registering has two phases. The first looks whether the registry is frozen and compiles
the descriptor, the second publishes it, looking once more whether the registry is frozen. Between
the two, other registrations may take place.

The first descriptor of a field stays. A later one is refused or discarded, as the settings say.
-/

set_option autoImplicit false

namespace SubscriptionFields

/-- How the registry treats a second registration of a field. -/
structure RegistryConfig where
  /-- Whether it is refused; else the descriptor in place is kept and the new one discarded. -/
  rejectDuplicates : Bool := false
  deriving DecidableEq, Repr

/-- The registered fields and the schema, once it is published. -/
structure Registry where
  config : RegistryConfig
  /-- The descriptors by field. -/
  descriptors : Table OperationDescriptor
  /-- The fields in the order of their registration. -/
  order : List String
  /-- Whether the registration phase is over. -/
  frozen : Bool
  /-- The published schema. -/
  schema : Option Schema
  /-- How many schemas have been made so far; the next one gets this number. -/
  schemasMade : Nat

/-- A field as it is handed in for registration. -/
structure Registration where
  field : String
  type : ReturnType
  receiver : ReceiverBinder
  arguments : List ArgumentBinder
  operation : Operation type
  /-- Where its descriptor is stored; two registrations may hand in the same field. -/
  allocation : Allocation

/-- The descriptor of a field that is handed in, if its return type can back a subscription. -/
def Registration.compile (registration : Registration) :
    Noted (Except ConfigError OperationDescriptor) :=
  OperationDescriptor.compile registration.type registration.field registration.receiver
    registration.arguments registration.operation registration.allocation

namespace Registry

def logTarget : String := "subfield_server::registry"

def new (config : RegistryConfig) : Registry where
  config
  descriptors := .empty
  order := []
  frozen := false
  schema := none
  schemasMade := 0

/-- What a registration yields: the descriptor that is published under the field. -/
abbrev Answer := Except RegistryError OperationDescriptor

def get? (registry : Registry) (field : String) : Option OperationDescriptor :=
  registry.descriptors.find? field

/-! ## Publication -/

def publish (registry : Registry) (descriptor : OperationDescriptor) : Registry :=
  { registry with
    descriptors := registry.descriptors.insert descriptor.name descriptor
    order := registry.order ++ [descriptor.name] }

/-- Publishes a descriptor under its own name, unless the registry is frozen or the name is taken.
-/
def insert (registry : Registry) (descriptor : OperationDescriptor) : Noted (Registry × Answer) :=
  if registry.frozen then
    pure (registry, .error .frozen)
  else
    match registry.get? descriptor.name with
    | some existing =>
      if registry.config.rejectDuplicates then do
        logEvent .warn logTarget "duplicate subscription field rejected"
          [("field", .text descriptor.name)] none
        return (registry, .error (.duplicate descriptor.name))
      else do
        logEvent .debug logTarget "duplicate subscription field discarded"
          [("field", .text descriptor.name)] none
        return (registry, .ok existing)
    | none => do
      logEvent .info logTarget "subscription field registered"
        [("field", .text descriptor.name), ("shape", .text descriptor.shape.label),
          ("declared", .text descriptor.declared.display)] none
      return (registry.publish descriptor, .ok descriptor)

/-! ## Registration -/

/-- The first phase of a registration: a descriptor that is ready to be published. -/
def prepare (registry : Registry) (registration : Registration) : Noted Answer :=
  if registry.frozen then
    pure (.error .frozen)
  else do
    match ← registration.compile with
    | .ok descriptor => return .ok descriptor
    | .error reason =>
      logEvent .warn logTarget "rejected subscription field"
        [("field", .text registration.field), ("error", .text reason.message)] none
      return .error (.misconfigured registration.field reason)

/-- The second phase of a registration: what the first phase came to is published or passed on. -/
def commit (registry : Registry) (prepared : Answer) : Noted (Registry × Answer) :=
  match prepared with
  | .error error => pure (registry, .error error)
  | .ok descriptor => registry.insert descriptor

/-- Both phases of a registration, with nothing in between. -/
def register (registry : Registry) (registration : Registration) : Noted (Registry × Answer) := do
  let prepared ← registry.prepare registration
  registry.commit prepared

/-! ## The schema -/

/-- The fields in order with their descriptors. -/
def resolvers (registry : Registry) : List (String × OperationDescriptor) :=
  registry.order.filterMap fun field => (registry.get? field).map fun found => (field, found)

/-- Ends the registration phase and publishes the schema. A second call finds the schema that the
first one published. -/
def freeze (registry : Registry) : Noted (Registry × Schema) :=
  match registry.schema with
  | some schema => pure (registry, schema)
  | none => do
    let schema := Schema.ofResolvers registry.schemasMade registry.resolvers
    let closed :=
      { registry with
        frozen := true
        schema := some schema
        schemasMade := registry.schemasMade + 1 }
    logEvent .info logTarget "subscription schema frozen" [("fields", .count schema.size)] none
    return (closed, schema)

end Registry

end SubscriptionFields
