import SubscriptionFields.Naming.WellKnown

/-!
# Objects

An object is a shared pointer whose type is known only at run time: it names an allocation, the
type of what is stored there, and the stored content. What is stored may itself be an object.

`Shared payload` is a pointer whose type is known to be `payload`. Passing it on as an object keeps
the allocation, and asking the object for that type again gives the same pointer back.
-/

set_option autoImplicit false

namespace SubscriptionFields

/-- Where something shared is stored; two pointers are equal exactly if their allocations are. -/
inductive Allocation where
  /-- Stored by the caller, as the given entry of its payloads. -/
  | entry (position : Nat)
  /-- Stored in the course of a call: a payload while the call was bound, by the expression at the
  given position, or a descriptor, by the given one of the callers. -/
  | minted (call position : Nat)
  deriving DecidableEq, Repr

/-- An indivisible piece of content. -/
inductive Datum where
  | unit
  | flag (value : Bool)
  | number (value : Int)
  | text (value : String)
  deriving DecidableEq, Repr

/-- What is stored in an allocation, apart from its type. -/
inductive Content where
  | single (value : Datum)
  | sequence (values : List Datum)
  | record (fields : List (String × Datum))
  deriving DecidableEq, Repr

/-- A shared payload whose type is known only at run time. -/
inductive Object where
  /-- A payload with its type's full name. -/
  | plain (allocation : Allocation) (payload : String) (content : Content)
  /-- A payload that is an object itself, stored in an allocation of its own. -/
  | boxed (allocation : Allocation) (inner : Object)
  deriving DecidableEq, Repr

namespace Object

def allocation : Object → Allocation
  | .plain allocation _ _ => allocation
  | .boxed allocation _ => allocation

def payload : Object → String
  | .plain _ payload _ => payload
  | .boxed _ _ => objectTypeName

/-- Whether two objects are the same allocation. -/
def sameAllocation (a b : Object) : Bool :=
  a.allocation = b.allocation

def is (object : Object) (payload : String) : Bool :=
  object.payload = payload

def ofText (allocation : Allocation) (text : String) : Object :=
  .plain allocation textTypeName (.single (.text text))

/-- The inspection text of an object. Addresses differ from run to run; one number stands for all of
them. -/
def inspect (_ : Object) : String := "Object(0x0)"

end Object

/-- A shared pointer to a payload of known type. -/
structure Shared (payload : String) where
  object : Object
  typed : object.payload = payload
  deriving DecidableEq, Repr

/-- A shared pointer passed on as an object: the same allocation under a less precise type. -/
def Shared.upcast {payload : String} (shared : Shared payload) : Object :=
  shared.object

/-- The pointer behind an object, if its payload has the given type, else the object unchanged. -/
def Object.downcast (object : Object) (payload : String) : Except Object (Shared payload) :=
  if typed : object.payload = payload then .ok { object, typed } else .error object

/-- The pointer behind an object, if its payload has the given type. -/
def Object.downcast? (object : Object) (payload : String) : Option (Shared payload) :=
  (object.downcast payload).toOption

/-- An object made from a pointer gives that pointer back. -/
@[simp] theorem Shared.downcast_upcast {payload : String} (shared : Shared payload) :
    shared.upcast.downcast payload = .ok shared := by
  simp [Shared.upcast, Object.downcast, shared.typed]

/-- Passing a pointer on as an object keeps its allocation. -/
@[simp] theorem Shared.allocation_upcast {payload : String} (shared : Shared payload) :
    shared.upcast.allocation = shared.object.allocation := rfl

/-- The optional object that contexts carry and canonical streams yield. -/
abbrev SourceValue := Option Object

end SubscriptionFields
