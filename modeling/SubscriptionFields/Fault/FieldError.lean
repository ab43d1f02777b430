import SubscriptionFields.Fault.Carrier

/-!
# The carrier of faults

`Fault` is the carrier that this library runs with. It keeps an error as it was built: an error or a
remark at the bottom, and the remarks that were put in front of it. All that a fault shows is read
off this, and it is what the laws of a carrier ask for (`LawfulErrorCarrier Fault`).
-/

set_option autoImplicit false

namespace SubscriptionFields

/-- An error as it was built. -/
inductive Fault where
  /-- A remark by itself. -/
  | text (remark : Remark Fault)
  /-- An error with a type of its own. -/
  | typed (error : TypedError Fault)
  /-- A fault with a remark in front. -/
  | context (remark : Remark Fault) (inner : Fault)
  deriving Repr

abbrev FieldError := FieldErrorOf Fault

abbrev SubscribeError := SubscribeErrorOf Fault

namespace Fault

def known (error : KnownFault) : Fault := .typed (.known error)

/-- A field error wrapped as an error. -/
def fieldError (inner : Fault) : Fault := .typed (.fieldError { fault := inner })

/-- A subscription that failed with a field error, wrapped as an error. -/
def failedSubscription (inner : Fault) : Fault := .typed (.failedSubscription { fault := inner })

/-! ## What a fault shows -/

/-- The text of a fault. -/
def message : Fault → String
  | .text remark => ofRemark remark
  | .typed error => ofError error
  | .context remark _ => ofRemark remark
where
  ofRemark : Remark Fault → String
    | .text words => words
    | .shown value => ofError value
  ofError : TypedError Fault → String
    | .known error => error.message
    | .fieldError { fault } => fault.message
    | .failedSubscription { fault } => fault.message

/-- What stands behind a fault. -/
def cause? : Fault → Option (Cause Fault)
  | .text _ => none
  | .typed (.known error) => error.source?.map fun source => .typed (.known source)
  | .typed (.fieldError { fault }) => fault.cause?
  | .typed (.failedSubscription { fault }) => fault.cause?
  | .context _ inner => some (.carried inner)

/-- The texts of a fault and of all that stands behind it. -/
def chain : Fault → List String
  | .text remark => [message.ofRemark remark]
  | .typed (.known error) => error.chain
  | .typed (.fieldError { fault }) => fault.chain
  | .typed (.failedSubscription { fault }) => fault.chain
  | .context remark inner => message.ofRemark remark :: inner.chain

/-- The value of the type asked for. A remark in front lets the fault inside be seen; the value of a
wrapper is the wrapper. -/
def recover? : Fault → (target : CastTarget) → Option (target.Value Fault)
  | .text remark, target => remark.value.as? target
  | .typed error, target => error.value.as? target
  | .context remark inner, target => (remark.value.as? target).or (inner.recover? target)

instance : ErrorCarrier Fault where
  ofError := .typed
  ofRemark := .text
  withRemark inner remark := .context remark inner
  view fault :=
    { text := fault.message
      fullText := ": ".intercalate fault.chain
      cause? := fault.cause? }
  recover? := recover?
  transparent view := view

end Fault

/-- The texts of a field error and of all that stands behind it. -/
def FieldError.chain (error : FieldError) : List String := error.fault.chain

/-- The texts of a failed subscription and of all that stands behind it. -/
def SubscribeError.chain : SubscribeError → List String
  | .unknownField name => [(KnownFault.unknownField name).message]
  | .field error => FieldError.chain error

end SubscriptionFields
