/-!
# The width of a text

Texts are stored in bytes, and a character takes between one and four of them.
-/

set_option autoImplicit false

namespace SubscriptionFields.Text

def width : List Char → Nat
  | [] => 0
  | c :: text => c.utf8Size + width text

end SubscriptionFields.Text
