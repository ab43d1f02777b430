import SubscriptionFields.Naming.ShortName
import SubscriptionFields.Naming.WellKnown

/-!
# Type descriptions

What an operation returns is described once, when its field is registered. A description is a
leaf, which is the erased object or a named type, under any number of wrappers: lists, streams and
asynchronous handles.

Two named types are the same if they carry the same name; whether they are shared or owned does
not enter the comparison. The text of a description is what error messages and logs show.
-/

set_option autoImplicit false

namespace SubscriptionFields

/-- How values of a named type are held. -/
inductive TypeKind where
  /-- A nullable shared pointer, which can be passed on as an object without a copy. -/
  | reference
  /-- An owned value. -/
  | value
  deriving DecidableEq, Repr

/-- A named type; its full name is its identity. -/
structure NamedType where
  name : String
  kind : TypeKind
  deriving Repr

namespace NamedType

/-- The erased object as a named type: the element of a stream that already yields objects. -/
def erased : NamedType := { name := objectTypeName, kind := .reference }

/-- Named types are compared by name alone. -/
instance : BEq NamedType where
  beq a b := a.name == b.name

/-- Whether values of the type are held by shared pointers. -/
def isReference (type : NamedType) : Bool :=
  type.kind = .reference

/-- The text of a named type: the erased object has a text of its own, a shared type shows the
pointer around its short name, an owned one only the short name. -/
def display (type : NamedType) : String :=
  if type.name = objectTypeName then "SourceValue"
  else match type.kind with
    | .reference => "Option<Arc<" ++ ShortName.shorten type.name ++ ">>"
    | .value => ShortName.shorten type.name

end NamedType

/-- The structure of a declared return type. -/
inductive TypeDescription where
  /-- An optional object of unknown type. -/
  | object
  /-- A named type. -/
  | named (type : NamedType)
  /-- An owned sequence. -/
  | list (inner : TypeDescription)
  /-- A stream of elements. -/
  | stream (element : TypeDescription)
  /-- An asynchronous handle that resolves to the inner type. -/
  | async (inner : TypeDescription)
  deriving BEq, Repr

namespace TypeDescription

/-- The canonical contract: a handle that resolves to a stream of optional objects. -/
def canonical : TypeDescription := .async (.stream .object)

/-- The text of a description. A stream directly inside a handle is shown as one word. -/
def display : TypeDescription → String
  | .object => "SourceValue"
  | .named type => type.display
  | .list inner => "Vec<" ++ inner.display ++ ">"
  | .stream element => "EventStream<" ++ element.display ++ ">"
  | .async (.stream element) => "AsyncStream<" ++ element.display ++ ">"
  | .async inner => "BoxFuture<" ++ inner.display ++ ">"

end TypeDescription

/-! ## Wrappers over a leaf -/

/-- One layer around a leaf. -/
inductive Wrapper where
  | list
  | stream
  | async
  deriving DecidableEq, Repr

/-- What stands inside all wrappers. -/
inductive Leaf where
  | object
  | named (type : NamedType)
  deriving BEq, Repr

def Leaf.describe : Leaf → TypeDescription
  | .object => .object
  | .named type => .named type

def Wrapper.around : Wrapper → TypeDescription → TypeDescription
  | .list, inner => .list inner
  | .stream, element => .stream element
  | .async, inner => .async inner

namespace TypeDescription

/-- The description with the given wrappers, outermost first, over a leaf. -/
def ofLeaf (wrappers : List Wrapper) (leaf : Leaf) : TypeDescription :=
  wrappers.foldr Wrapper.around leaf.describe

/-- The wrappers of a description, outermost first. -/
def wrappers : TypeDescription → List Wrapper
  | .object => []
  | .named _ => []
  | .list inner => .list :: inner.wrappers
  | .stream element => .stream :: element.wrappers
  | .async inner => .async :: inner.wrappers

/-- What stands inside all wrappers of a description. -/
def leaf : TypeDescription → Leaf
  | .object => .object
  | .named type => .named type
  | .list inner => inner.leaf
  | .stream element => element.leaf
  | .async inner => inner.leaf

/-- A description is its wrappers over its leaf. -/
@[simp] theorem ofLeaf_wrappers_leaf (type : TypeDescription) :
    ofLeaf type.wrappers type.leaf = type := by
  induction type <;> simp_all [ofLeaf, wrappers, leaf, Leaf.describe, Wrapper.around]

end TypeDescription

end SubscriptionFields
