import SubscriptionFields.Field.Registry

/-!
# Scripted operations

A script fixes beforehand what an operation will do: how long its handle is pending and whether it
fails, and the steps of its stream. An element of the stream is a given value, or a value of the
call itself. Where the declared type asks for a pointer of known type, an object of another type
becomes no value.
-/

set_option autoImplicit false

namespace SubscriptionFields

/-- Where a scripted element comes from. -/
inductive Emission where
  | value (value : SourceValue)
  /-- The receiver of the call. -/
  | receiver
  /-- An argument of the call; no value if there is no argument at that position. -/
  | argument (index : Nat)

/-- A step of a scripted stream. -/
inductive ScriptStep where
  | pending
  | emit (emission : Emission)
  | failure (error : FieldError)
  | finish

/-- What a scripted operation will do. -/
structure Script where
  /-- The polls for which its handle is pending. -/
  pending : Nat := 0
  /-- Whether its handle stays pending forever. -/
  never : Bool := false
  /-- The error that its handle resolves to, if any. -/
  error : Option FieldError := none
  /-- The steps of its stream. -/
  steps : List ScriptStep := []

def Emission.resolve (receiver : SourceValue) (arguments : List SourceValue) :
    Emission → SourceValue
  | .value given => given
  | .receiver => receiver
  | .argument index => (arguments[index]?).join

/-- A source value as an element of the given type, if the type has elements of that kind. -/
def ReturnType.ofSource? : (type : ReturnType) → SourceValue → Option type.Result
  | .object, value => some value
  | .shared payload, value => some (value.bind fun object => object.downcast? payload)
  | _, _ => none

namespace Script

/-- The steps of a stream with elements of the given type. -/
def streamSteps (type : ReturnType) (receiver : SourceValue) (arguments : List SourceValue)
    (script : Script) : List (StreamStep type.Result) :=
  script.steps.filterMap fun
    | .pending => some .pending
    | .emit emission => (type.ofSource? (emission.resolve receiver arguments)).map .item
    | .failure error => some (.failure error)
    | .finish => some .finish

/-- What a scripted operation returns. Types that cannot back a subscription are never called, so
any result will do for them. -/
def result (op : String) (script : Script) (receiver : SourceValue)
    (arguments : List SourceValue) : (type : ReturnType) → type.Result
  | .object => none
  | .shared _ => none
  | .scalar _ => Datum.unit
  | .list _ => []
  | .stream element => { op, steps := script.streamSteps element receiver arguments }
  | .async inner =>
    { op
      pending := script.pending
      outcome :=
        if script.never then .never
        else match script.error with
          | some error => .failed error
          | none => .resolved (script.result op receiver arguments inner) }

def operation (script : Script) (type : ReturnType) (label : String) : Operation type where
  label
  run receiver arguments := script.result label receiver arguments type

end Script

end SubscriptionFields
