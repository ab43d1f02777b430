import SubscriptionFields.Settings.Magnitude

/-!
# Decimal text of a magnitude

A magnitude is written with as few digits as will tell it from every other magnitude. The numbers
that round to a magnitude form an interval around it, which reaches half way to its neighbours; the
ends belong to it if the mantissa is even. The text is the multiple of the greatest possible power
of ten inside this interval, and the nearer one if there are two.
-/

set_option autoImplicit false

namespace SubscriptionFields.Settings

/-- The number `digits * 10 ^ exponent`. -/
structure Decimal where
  digits : Nat
  exponent : Int
  deriving DecidableEq, Repr

namespace Magnitude

/-- The distance from a magnitude to the lower end of its interval, in quarters of the last bit.
Below a power of two the neighbours are twice as close. -/
def quartersBelow (m : Magnitude) : Nat :=
  if m.mantissa = fullMantissa ∧ leastExponent < m.exponent then 1 else 2

/-- Whether `digits * 10 ^ exponent` rounds to a magnitude. All three numbers are compared as
multiples of one unit. -/
def isWrittenBy (m : Magnitude) (decimal : Decimal) : Bool :=
  let unit := wholePower 2 (m.exponent - 2) * wholePower 10 (-decimal.exponent)
  let written := decimal.digits * wholePower 10 decimal.exponent * wholePower 2 (2 - m.exponent)
  let low := (4 * m.mantissa - m.quartersBelow) * unit
  let high := (4 * m.mantissa + 2) * unit
  if m.mantissa % 2 = 0 then low ≤ written ∧ written ≤ high else low < written ∧ written < high

/-- The multiple of `10 ^ exponent` that is nearest to a magnitude among those that round to it. -/
def writtenAt? (m : Magnitude) (exponent : Int) : Option Decimal :=
  let n := m.numerator * wholePower 10 (-exponent)
  let d := m.denominator * wholePower 10 exponent
  let near := nearest n d
  let far := if near = n / d then near + 1 else near - 1
  [near, far].findSome? fun digits =>
    let decimal : Decimal := { digits, exponent }
    if digits ≠ 0 ∧ m.isWrittenBy decimal then some decimal else none

/-- The powers of ten that the last digit may stand for, by their exponents, greatest first. -/
def lastPlaces : List Int :=
  (List.range 634).map fun (n : Nat) => 309 - (n : Int)

/-- The shortest decimal of a finite magnitude. -/
def shortest (m : Magnitude) : Decimal :=
  (lastPlaces.findSome? m.writtenAt?).getD { digits := 0, exponent := 0 }

end Magnitude

namespace Decimal

def zeros (n : Nat) : String := String.ofList (List.replicate n '0')

/-- The power of ten at the end of a number; its sign is always written. -/
def powerText (power : Int) : String :=
  "e" ++ (if power < 0 then "-" else "+") ++ toString power.natAbs

/-- A decimal as text. Numbers that are neither very large nor very small are written out; the
others have one digit in front of the point and the power of ten at the end. -/
def text (decimal : Decimal) : String :=
  let digits := toString decimal.digits
  let length := digits.length
  let point := (length : Int) + decimal.exponent
  if 0 ≤ decimal.exponent ∧ point ≤ 16 then
    digits ++ zeros decimal.exponent.toNat ++ ".0"
  else if 0 < point ∧ point ≤ 16 then
    (digits.take point.toNat).toString ++ "." ++ (digits.drop point.toNat).toString
  else if -5 < point ∧ point ≤ 0 then
    "0." ++ zeros (-point).toNat ++ digits
  else
    let power := powerText (point - 1)
    if length = 1 then digits ++ power
    else (digits.take 1).toString ++ "." ++ (digits.drop 1).toString ++ power

end Decimal

/-- A magnitude as text; it always shows that it need not be a whole number. -/
def Magnitude.text (m : Magnitude) : String :=
  if m.isZero then "0.0" else m.shortest.text

end SubscriptionFields.Settings
