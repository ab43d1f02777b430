/-!
# Concealed numbers

Identities of types and addresses of objects differ from run to run. Inspection texts show them in
hexadecimal after the marker `0x`. Where texts of different runs are to be compared, everything of
that form is concealed.
-/

set_option autoImplicit false

namespace SubscriptionFields.Text

/-- Whether a character is a hexadecimal digit. -/
def isHexadecimal (c : Char) : Bool :=
  c.isDigit || ('a' ≤ c && c ≤ 'f') || ('A' ≤ c && c ≤ 'F')

/-- The characters of a text, with one sign in place of the digits behind each marker. -/
def concealNumbers (text : List Char) : List Char :=
  match text with
  | [] => []
  | '0' :: 'x' :: rest => '0' :: 'x' :: '_' :: concealNumbers (rest.dropWhile isHexadecimal)
  | c :: rest => c :: concealNumbers rest
termination_by text.length
decreasing_by
  · have := (List.dropWhile_suffix isHexadecimal (l := rest)).length_le
    simp only [List.length_cons]
    omega
  · simp

/-- A text with its hexadecimal numbers concealed. -/
def conceal (text : String) : String :=
  String.ofList (concealNumbers text.toList)

end SubscriptionFields.Text
