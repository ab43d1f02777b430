import SubscriptionFields.Field.Registry

/-!
# Concurrent calls of the registry

Several callers share one registry. Inserting and freezing are atomic; a registration takes two
steps, and other callers may go in between. A schedule lists which caller goes next. A call that is
finished does nothing when its turn comes again.
-/

set_option autoImplicit false

namespace SubscriptionFields

/-- A call of the registry. -/
inductive RegistryCall where
  | register (registration : Registration)
  | insert (descriptor : OperationDescriptor)
  | freeze

/-- What a call of the registry returns. -/
inductive CallResult where
  | registered (answer : Registry.Answer)
  | frozen (schema : Schema)

/-- How far a call has come. -/
inductive CallProgress where
  /-- It has not begun. -/
  | waiting (call : RegistryCall)
  /-- It is a registration between its two phases. -/
  | prepared (answer : Registry.Answer)
  /-- It has returned. -/
  | finished (result : CallResult)

def CallProgress.result? : CallProgress → Option CallResult
  | .finished result => some result
  | _ => none

def Registry.perform (registry : Registry) : RegistryCall → Noted (Registry × CallResult)
  | .register registration => do
    let (registry, answer) ← registry.register registration
    return (registry, .registered answer)
  | .insert descriptor => do
    let (registry, answer) ← registry.insert descriptor
    return (registry, .registered answer)
  | .freeze => do
    let (registry, schema) ← registry.freeze
    return (registry, .frozen schema)

def Registry.performAll (registry : Registry) :
    List RegistryCall → Noted (Registry × List CallResult)
  | [] => pure (registry, [])
  | call :: calls => do
    let (registry, result) ← registry.perform call
    let (registry, results) ← registry.performAll calls
    return (registry, result :: results)

/-- A registry with the callers that share it. -/
structure SharedRegistry where
  registry : Registry
  callers : List CallProgress

namespace SharedRegistry

/-- A registry before any of the calls has begun. -/
def start (registry : Registry) (calls : List RegistryCall) : SharedRegistry where
  registry
  callers := calls.map .waiting

def advance (registry : Registry) : CallProgress → Noted (Registry × CallProgress)
  | .waiting (.register registration) => do
    let answer ← registry.prepare registration
    return (registry, .prepared answer)
  | .waiting call => do
    let (registry, result) ← registry.perform call
    return (registry, .finished result)
  | .prepared answer => do
    let (registry, answer) ← registry.commit answer
    return (registry, .finished (.registered answer))
  | .finished result => pure (registry, .finished result)

/-- One step of the caller at the given position. -/
def step (state : SharedRegistry) (caller : Nat) : Noted SharedRegistry :=
  match state.callers[caller]? with
  | none => pure state
  | some progress => do
    let (registry, progress) ← advance state.registry progress
    return { registry, callers := state.callers.set caller progress }

def run (state : SharedRegistry) : List Nat → Noted SharedRegistry
  | [] => pure state
  | caller :: schedule => do
    let state ← state.step caller
    state.run schedule

def results (state : SharedRegistry) : List CallResult :=
  state.callers.filterMap CallProgress.result?

/-- The schedule in which every call is prepared before any is finished. -/
def lockstep (callers : Nat) : List Nat :=
  List.range callers ++ List.range callers

end SharedRegistry

end SubscriptionFields
