import SubscriptionFields.Contract.Inspection
import SubscriptionFields.Request.Binder
import SubscriptionFields.Streaming.Adapter

/-!
# Field descriptors

A descriptor is made once per field, when the field is registered. It holds the declared return
type with its shape, the strategy of adaptation, the binders of the call, and the operation
composed with its adapter. A return type that cannot back a subscription has no descriptor, and the
operation is not called to find that out.

A subscription binds the call from left to right, the receiver first, and stops at the first
binder that fails. If none fails the operation is called, once, before any handle is polled; if
one fails the operation is not called and the handle is there already, with that binder's error.
-/

set_option autoImplicit false

namespace SubscriptionFields

/-- An operation of the given return type, under the label by which it is told apart. -/
structure Operation (type : ReturnType) where
  label : String
  run : SourceValue → List SourceValue → type.Result

/-- What is known about a field once it is registered. -/
structure OperationDescriptor where
  /-- The place of this descriptor; another one may well have the same content. -/
  allocation : Allocation
  name : String
  declared : TypeDescription
  shape : Shape
  adapter : AdapterKind
  receiver : ReceiverBinder
  arguments : List ArgumentBinder
  label : String
  call : SourceValue → List SourceValue → Noted SubscriptionHandle

namespace OperationDescriptor

def logTarget : String := "subfield_core::descriptor"

def callThrough {type : ReturnType} (adapter : CompiledAdapter type) (operation : Operation type)
    (receiver : SourceValue) (arguments : List SourceValue) : Noted SubscriptionHandle := do
  observe (.invoked operation.label receiver arguments)
  let result := operation.run receiver arguments
  type.announce result
  return adapter.convert result

/-- The descriptor of an operation, stored at the given place, if its return type can back a
subscription. -/
def compile (type : ReturnType) (name : String) (receiver : ReceiverBinder)
    (arguments : List ArgumentBinder) (operation : Operation type) (allocation : Allocation) :
    Noted (Except ConfigError OperationDescriptor) :=
  match type.describe.classify with
  | .error refusal => pure (.error refusal)
  | .ok shape =>
    match CompiledAdapter.compile type shape with
    | .error refusal => pure (.error refusal)
    | .ok adapter => do
      logEvent .debug logTarget "compiled subscription adapter"
        [("operation", .text name), ("declared", .text type.describe.display),
          ("shape", .text shape.display), ("adapter", .text adapter.kind.name)] none
      return .ok
        { allocation
          name
          declared := type.describe
          shape
          adapter := adapter.kind
          receiver
          arguments
          label := operation.label
          call := callThrough adapter operation }

def arity (descriptor : OperationDescriptor) : Nat :=
  descriptor.arguments.length

/-! ## Binding -/

/-- Evaluates the binders of the arguments from position `index` on, up to the first that fails. -/
def bindArguments (label : String) (call : Nat) (ctx : RequestContext) :
    Nat → List ArgumentBinder → Noted (Except FieldError (List SourceValue))
  | _, [] => pure (.ok [])
  | index, binder :: binders => do
    match ← binder.bind label call ctx index with
    | .error error => return .error error
    | .ok value => return (← bindArguments label call ctx (index + 1) binders).map (value :: ·)

/-- Evaluates the receiver and then the arguments, up to the first binder that fails. -/
def bindCall (descriptor : OperationDescriptor) (call : Nat) (ctx : RequestContext) :
    Noted (Except FieldError (SourceValue × List SourceValue)) := do
  match ← descriptor.receiver.bind descriptor.label call ctx with
  | .error error => return .error error
  | .ok receiver =>
    return (← bindArguments descriptor.label call ctx 0 descriptor.arguments).map (receiver, ·)

/-- Binds the call numbered `call` and, if that succeeds, calls the operation. -/
def subscribe (descriptor : OperationDescriptor) (call : Nat) (ctx : RequestContext) :
    Noted SubscriptionHandle := do
  match ← descriptor.bindCall call ctx with
  | .error error => return .completed (.error error)
  | .ok (receiver, arguments) => descriptor.call receiver arguments

/-- The value that a field has in a context: the context's source, unchanged. It is asked for with
the context of each delivered event. -/
def resolveValue (_ : OperationDescriptor) (ctx : RequestContext) : SourceValue :=
  ctx.source

/-- The inspection text of a descriptor; the binders and the operation have none. -/
def inspect (descriptor : OperationDescriptor) : String :=
  "OperationDescriptor \x7b name: " ++ Text.quote descriptor.name ++
    ", declared: " ++ Text.quote descriptor.declared.display ++
    ", shape: " ++ descriptor.shape.inspect ++
    ", adapter: " ++ descriptor.adapter.name ++
    ", arity: " ++ toString descriptor.arity ++ ", .. \x7d"

/-- The inspection text of a field's resolver, which holds nothing but the descriptor. -/
def inspectResolver (descriptor : OperationDescriptor) : String :=
  inspectRecord "SubscriptionResolver" [("descriptor", descriptor.inspect)]

end OperationDescriptor

end SubscriptionFields
