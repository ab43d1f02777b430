import SubscriptionFields.Contract.Shape
import SubscriptionFields.Streaming.Subscription

/-!
# Adapters

An adapter turns what an operation returns into a canonical handle. There are three strategies,
one per shape. Which one a return type takes is decided by its outer layers, in four functions
that call each other: one for a whole return type, one for what a handle resolves to, one for the
element of a stream, and one for the element of a stream in a handle. A type that none of them
accepts has no adapter.
-/

set_option autoImplicit false

namespace SubscriptionFields

/-- The strategies of adaptation. -/
inductive AdapterKind where
  /-- The operation's handle is canonical already and is passed through. -/
  | identity
  /-- The operation's handle is awaited; its stream is passed on as a stream of objects. -/
  | awaitThenUpcast
  /-- The operation's stream is passed on as a stream of objects, in a completed handle. -/
  | wrapAsCompleted
  deriving DecidableEq, Repr

namespace AdapterKind

def forShape : Shape → AdapterKind
  | .direct => .identity
  | .async _ => .awaitThenUpcast
  | .sync _ => .wrapAsCompleted

def name : AdapterKind → String
  | .identity => "Identity"
  | .awaitThenUpcast => "AwaitThenUpcast"
  | .wrapAsCompleted => "WrapAsCompleted"

end AdapterKind

/-- A converter from the results of a return type to canonical handles. -/
structure CompiledAdapter (type : ReturnType) where
  kind : AdapterKind
  convert : type.Result → SubscriptionHandle

namespace CompiledAdapter

/-- The inspection text of an adapter names its strategy. -/
def inspect {type : ReturnType} (adapter : CompiledAdapter type) : String :=
  "CompiledAdapter(" ++ adapter.kind.name ++ ")"

def identity : CompiledAdapter (.async (.stream .object)) where
  kind := .identity
  convert := .direct

/-- The adapter of handles to streams whose elements are passed on as objects. -/
def awaitThenUpcast (element : Element) :
    CompiledAdapter (.async (.stream element.returnType)) where
  kind := .awaitThenUpcast
  convert := .awaiting element

/-- The adapter of streams whose elements are passed on as objects. -/
def wrapAsCompleted (element : Element) : CompiledAdapter (.stream element.returnType) where
  kind := .wrapAsCompleted
  convert stream := .completed (.ok (.upcast element stream))

end CompiledAdapter

namespace ReturnType

/-- The adapter of a stream with the given element. -/
def streamAdapter : (element : ReturnType) → Option (CompiledAdapter (.stream element))
  | .object => some (.wrapAsCompleted .object)
  | .shared payload => some (.wrapAsCompleted (.shared payload))
  | _ => none

/-- The adapter of a handle to a stream with the given element. -/
def asyncStreamAdapter :
    (element : ReturnType) → Option (CompiledAdapter (.async (.stream element)))
  | .object => some .identity
  | .shared payload => some (.awaitThenUpcast (.shared payload))
  | _ => none

/-- The adapter of a handle that resolves to the given type. -/
def futureAdapter : (inner : ReturnType) → Option (CompiledAdapter (.async inner))
  | .stream element => element.asyncStreamAdapter
  | _ => none

def returnAdapter : (type : ReturnType) → Option (CompiledAdapter type)
  | .stream element => element.streamAdapter
  | .async inner => inner.futureAdapter
  | _ => none

end ReturnType

/-- The adapter of a return type that was classified as `shape`; it is refused if the type has no
adapter with the strategy of that shape. -/
def CompiledAdapter.compile (type : ReturnType) (shape : Shape) :
    Except ConfigError (CompiledAdapter type) :=
  match type.returnAdapter with
  | some adapter =>
    if adapter.kind = .forShape shape then .ok adapter else .error type.describe.unrecognized
  | none => .error type.describe.unrecognized

end SubscriptionFields
