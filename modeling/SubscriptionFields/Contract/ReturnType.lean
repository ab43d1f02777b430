import SubscriptionFields.Contract.TypeDescription
import SubscriptionFields.Streaming.EventStream

/-!
# Return types

The return types that an operation can be declared with form a closed family: objects, shared
pointers, scalars, and lists, streams and handles of these to any depth. Each member has a
description, which is all that classification sees, and a type of results, which is what an
operation of that return type returns.
-/

set_option autoImplicit false

namespace SubscriptionFields

/-- The owned types that can be declared. -/
inductive ScalarType where
  | bool
  | char
  | i8
  | i16
  | i32
  | i64
  | i128
  | isize
  | u8
  | u16
  | u32
  | u64
  | u128
  | usize
  | f32
  | f64
  | text
  deriving DecidableEq, Repr

namespace ScalarType

def all : List ScalarType :=
  [.bool, .char, .i8, .i16, .i32, .i64, .i128, .isize, .u8, .u16, .u32, .u64, .u128, .usize,
    .f32, .f64, .text]

def name : ScalarType → String
  | .bool => "bool"
  | .char => "char"
  | .i8 => "i8"
  | .i16 => "i16"
  | .i32 => "i32"
  | .i64 => "i64"
  | .i128 => "i128"
  | .isize => "isize"
  | .u8 => "u8"
  | .u16 => "u16"
  | .u32 => "u32"
  | .u64 => "u64"
  | .u128 => "u128"
  | .usize => "usize"
  | .f32 => "f32"
  | .f64 => "f64"
  | .text => textTypeName

def ofName? (name : String) : Option ScalarType :=
  all.find? fun type => type.name = name

end ScalarType

/-- The return types that an operation can be declared with. -/
inductive ReturnType where
  /-- An optional object of unknown type. -/
  | object
  /-- A nullable shared pointer to a payload of the named type. -/
  | shared (payload : String)
  /-- An owned value. -/
  | scalar (type : ScalarType)
  /-- An owned sequence. -/
  | list (inner : ReturnType)
  /-- A stream of elements. -/
  | stream (element : ReturnType)
  /-- An asynchronous handle that resolves to the inner type. -/
  | async (inner : ReturnType)
  deriving DecidableEq, Repr

namespace ReturnType

def describe : ReturnType → TypeDescription
  | .object => .object
  | .shared payload => .named { name := payload, kind := .reference }
  | .scalar type => .named { name := type.name, kind := .value }
  | .list inner => .list inner.describe
  | .stream element => .stream element.describe
  | .async inner => .async inner.describe

/-- What an operation of a return type returns. A scalar is only ever refused, so one form of
content serves for all of them. -/
@[reducible] def Result : ReturnType → Type
  | .object => SourceValue
  | .shared payload => Option (Shared payload)
  | .scalar _ => Datum
  | .list inner => List inner.Result
  | .stream element => EventStream element.Result
  | .async inner => Handle inner.Result

/-- A stream that is returned at once comes into being with the call; a handle's stream does so
when the handle resolves. -/
def announce : (type : ReturnType) → type.Result → Noted Unit
  | .stream _, result => observe (.streamBuilt result.op)
  | _, _ => pure ()

end ReturnType

end SubscriptionFields
