/-!
# Numbers as values

A directive may ask for a value that is a number. Such a value is compared as a number and not as
a pattern, so that a sign may stand in front of it.
-/

set_option autoImplicit false

namespace SubscriptionFields.Telemetry

def unsigned : List Char → List Char
  | '+' :: text | '-' :: text => text
  | text => text

/-- Whether a text is nothing, or a power of ten at the end of a number. -/
def isPower : List Char → Bool
  | [] => true
  | e :: text =>
    (e = 'e' || e = 'E') && unsigned text ≠ [] && (unsigned text).all Char.isDigit

/-- Whether a text is a number: digits with a point among them or around them and a power of ten
behind them, or the name of a value that has no digits. -/
def isNumber (text : List Char) : Bool :=
  let text := unsigned text
  let rest := text.dropWhile Char.isDigit
  let fraction := if rest.head? = some '.' then rest.drop 1 else []
  let power := if rest.head? = some '.' then fraction.dropWhile Char.isDigit else rest
  ["inf", "infinity", "nan"].any (fun name => name.toList = text.map Char.toLower) ||
    ((text.takeWhile Char.isDigit ++ fraction.takeWhile Char.isDigit) ≠ [] && isPower power)

end SubscriptionFields.Telemetry
