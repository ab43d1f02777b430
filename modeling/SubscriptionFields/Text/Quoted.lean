import SubscriptionFields.Text.CharacterClass

/-!
# Quoted text

Developer-facing output shows a text between double quotes. The quote and the backslash are
escaped, the four common controls have short escapes, and any other character that would be
invisible, or would merge with the character before it, is written by its code point in
hexadecimal.
-/

set_option autoImplicit false

namespace SubscriptionFields.Text

/-- A number in lower-case hexadecimal, without leading zeros. -/
def hexadecimal (n : Nat) : String :=
  String.ofList (Nat.toDigits 16 n)

def escape (c : Char) : String :=
  match c with
  | '\x00' => "\\0"
  | '\t' => "\\t"
  | '\r' => "\\r"
  | '\n' => "\\n"
  | '"' => "\\\""
  | '\\' => "\\\\"
  | c =>
    if isCombining c || isInvisible c then "\\u\x7b" ++ hexadecimal c.toNat ++ "\x7d"
    else String.singleton c

def quote (text : String) : String :=
  "\"" ++ String.join (text.toList.map escape) ++ "\""

end SubscriptionFields.Text
