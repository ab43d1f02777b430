/-!
# Blank characters

A blank leaves white space on paper: the plain space, the separators of other widths, and the
controls that move to another column or line.
-/

set_option autoImplicit false

namespace SubscriptionFields.Text

/-- The ranges of the code points of blanks, ends included. -/
def blankRanges : List (Nat × Nat) :=
  [(0x9, 0xD), (0x20, 0x20), (0x85, 0x85), (0xA0, 0xA0), (0x1680, 0x1680), (0x2000, 0x200A),
   (0x2028, 0x2029), (0x202F, 0x202F), (0x205F, 0x205F), (0x3000, 0x3000)]

def isBlank (c : Char) : Bool :=
  blankRanges.any fun range => range.1 ≤ c.toNat && c.toNat ≤ range.2

end SubscriptionFields.Text
