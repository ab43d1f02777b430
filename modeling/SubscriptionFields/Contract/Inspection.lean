import SubscriptionFields.Contract.Shape
import SubscriptionFields.Text.Quoted

/-!
# Inspection texts of types and shapes

Besides the short text of messages, types, shapes and refusals have an inspection text that
spells out every field by name. Identities of types differ from run to run; one number stands for
all of them.
-/

set_option autoImplicit false

namespace SubscriptionFields

/-- A record in inspection form: its name and its fields in braces. -/
def inspectRecord (name : String) (fields : List (String × String)) : String :=
  let shown := fields.map fun field => field.1 ++ ": " ++ field.2
  name ++ " \x7b " ++ ", ".intercalate shown ++ " \x7d"

/-- A constructor with one argument in inspection form. -/
def inspectWrapped (name argument : String) : String :=
  name ++ "(" ++ argument ++ ")"

def TypeKind.inspect : TypeKind → String
  | .reference => "Reference"
  | .value => "Value"

def NamedType.inspect (type : NamedType) : String :=
  inspectRecord "NamedType"
    [("name", Text.quote type.name), ("type_id", "TypeId(0x0)"), ("kind", type.kind.inspect)]

def TypeDescription.inspect : TypeDescription → String
  | .object => "Object"
  | .named type => inspectWrapped "Named" type.inspect
  | .list inner => inspectWrapped "List" inner.inspect
  | .stream element => inspectWrapped "Stream" element.inspect
  | .async inner => inspectWrapped "Async" inner.inspect

def ElementType.inspect (element : ElementType) : String :=
  inspectRecord "ElementType" [("named", element.type.inspect)]

def Shape.inspect : Shape → String
  | .direct => "DirectCanonical"
  | .async element => inspectWrapped "AsyncGeneric" element.inspect
  | .sync element => inspectWrapped "SyncGeneric" element.inspect

def ConfigError.inspect : ConfigError → String
  | .unrecognizedShape declared =>
    inspectRecord "UnrecognizedShape" [("declared", Text.quote declared)]
  | .valueTypeElement declared element =>
    inspectRecord "ValueTypeElement"
      [("declared", Text.quote declared), ("element", Text.quote element)]

def inspectClassification : Except ConfigError Shape → String
  | .ok shape => inspectWrapped "Ok" shape.inspect
  | .error refusal => inspectWrapped "Err" refusal.inspect

end SubscriptionFields
