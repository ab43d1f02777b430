/-!
# Well-known type names

A few types are told apart by their full names: the erased object, which has a text of its own and
may be stored inside an object, and the type of texts, which some binders store themselves.
-/

set_option autoImplicit false

namespace SubscriptionFields

def objectTypeName : String := "subfield_core::types::Object"

def textTypeName : String := "alloc::string::String"

end SubscriptionFields
