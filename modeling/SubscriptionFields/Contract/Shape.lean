import SubscriptionFields.Contract.TypeDescription

/-!
# Shapes

A return type can back a subscription in three ways:

* a handle to a stream of objects is already in canonical form (`direct`);
* a handle to a stream of shared pointers has to be awaited and its elements passed on as objects
  (`async`);
* a stream of shared pointers, or of objects, is available at once (`sync`).

Every other type is refused. A stream of owned values is told apart from the rest, since the
remedy is to share its elements.
-/

set_option autoImplicit false

namespace SubscriptionFields

/-- The shared type of a stream's elements. -/
structure ElementType where
  type : NamedType
  deriving BEq, Repr

namespace ElementType

def name (element : ElementType) : String := element.type.name

/-- The text of an element type is that of the named type. -/
def display (element : ElementType) : String := element.type.display

end ElementType

/-- The shapes in which a return type can back a subscription. -/
inductive Shape where
  | direct
  | async (element : ElementType)
  | sync (element : ElementType)
  deriving BEq, Repr

namespace Shape

/-- The element type of a shape that is not canonical already. -/
def element? : Shape → Option ElementType
  | .direct => none
  | .async element => some element
  | .sync element => some element

def label : Shape → String
  | .direct => "direct"
  | .async _ => "async"
  | .sync _ => "sync"

/-- The text of a shape: its word and, after it, its element type. -/
def display : Shape → String
  | .direct => "direct"
  | .async element => "async<" ++ element.display ++ ">"
  | .sync element => "sync<" ++ element.display ++ ">"

end Shape

/-- Why a declared return type cannot back a subscription. -/
inductive ConfigError where
  /-- The type is neither a stream nor a handle to a stream of named elements. -/
  | unrecognizedShape (declared : String)
  /-- The type is a stream of owned values. -/
  | valueTypeElement (declared element : String)
  deriving DecidableEq, Repr

def ConfigError.message : ConfigError → String
  | .unrecognizedShape declared =>
    "unsupported subscription return type `" ++ declared ++ "`: expected " ++
      "AsyncStream<SourceValue>, AsyncStream<Option<Arc<T>>> or EventStream<Option<Arc<T>>>"
  | .valueTypeElement declared element =>
    "unsupported subscription return type `" ++ declared ++ "`: element `" ++ element ++
      "` is a value type, stream elements must be Option<Arc<T>>"

namespace TypeDescription

/-- The refusal of a type that has none of the recognized shapes. -/
def unrecognized (declared : TypeDescription) : ConfigError :=
  .unrecognizedShape declared.display

/-- The element type of a stream that stands in `declared`; it has to be held by shared pointers. -/
def referenceElement (declared : TypeDescription) : TypeDescription → Except ConfigError ElementType
  | .object => .ok { type := .erased }
  | .named type =>
    match type.kind with
    | .reference => .ok { type }
    | .value => .error (.valueTypeElement declared.display type.display)
  | .list _ => .error declared.unrecognized
  | .stream _ => .error declared.unrecognized
  | .async _ => .error declared.unrecognized

/-- The shape of a declared return type. The canonical type is recognized before any check of its
element. -/
def classify (declared : TypeDescription) : Except ConfigError Shape :=
  match declared with
  | .async (.stream .object) => .ok .direct
  | .async (.stream element) => (referenceElement declared element).map .async
  | .stream element => (referenceElement declared element).map .sync
  | _ => .error declared.unrecognized

end TypeDescription

end SubscriptionFields
