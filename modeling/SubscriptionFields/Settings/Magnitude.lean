/-!
# Rounded magnitudes

Numbers with a fraction or an exponent are kept with fifty-three significant bits. A magnitude is
such a number without its sign: a natural number times a power of two. The quotient of two natural
numbers is rounded to the nearest magnitude, and to the even one if two are equally near. Products
and quotients of magnitudes are rounded in the same way.

A magnitude has no upper bound here; `isFinite` tells those that fit into sixty-four bits.
-/

set_option autoImplicit false

namespace SubscriptionFields.Settings

/-- A power, or one if the exponent is negative. -/
def wholePower (base : Nat) (exponent : Int) : Nat := base.pow exponent.toNat

/-- The number `mantissa * 2 ^ exponent`. -/
structure Magnitude where
  mantissa : Nat
  exponent : Int
  deriving DecidableEq, Repr

namespace Magnitude

/-- The exponent of the smallest magnitudes; the spacing of magnitudes gets no finer. -/
def leastExponent : Int := -1074

def zero : Magnitude where
  mantissa := 0
  exponent := leastExponent

/-- The least mantissa that takes all fifty-three bits. -/
def fullMantissa : Nat := Nat.pow 2 52

/-- Whether a magnitude fits into sixty-four bits together with a sign. -/
def isFinite (m : Magnitude) : Bool := m.exponent ≤ 971

def isZero (m : Magnitude) : Bool := m.mantissa = 0

/-- A magnitude as a fraction: the number above the line. -/
def numerator (m : Magnitude) : Nat := m.mantissa * wholePower 2 m.exponent

/-- A magnitude as a fraction: the number below the line. -/
def denominator (m : Magnitude) : Nat := wholePower 2 (-m.exponent)

/-! ## Rounding -/

/-- The natural number nearest to `n / d`, and the even one if two are equally near. -/
def nearest (n d : Nat) : Nat :=
  let floor := n / d
  let twice := 2 * (n % d)
  if twice < d ∨ (twice = d ∧ floor % 2 = 0) then floor else floor + 1

/-- The greatest power of two that is not above `n / d`, by its exponent; both are positive. -/
def binaryOrder (n d : Nat) : Int :=
  let guess := (n.log2 : Int) - d.log2
  if d * wholePower 2 guess ≤ n * wholePower 2 (-guess) then guess else guess - 1

/-- The magnitude nearest to `n / d`. A mantissa that is rounded up to one bit too many is
halved. -/
def round (n d : Nat) : Magnitude :=
  if n = 0 then zero
  else
    let exponent := max leastExponent (binaryOrder n d - 52)
    let mantissa := nearest (n * wholePower 2 (-exponent)) (d * wholePower 2 exponent)
    if mantissa = 2 * fullMantissa then { mantissa := fullMantissa, exponent := exponent + 1 }
    else { mantissa, exponent }

def ofNat (n : Nat) : Magnitude := round n 1

def times (a b : Magnitude) : Magnitude :=
  round (a.numerator * b.numerator) (a.denominator * b.denominator)

/-- The rounded quotient by a magnitude that is not zero. -/
def dividedBy (a b : Magnitude) : Magnitude :=
  round (a.numerator * b.denominator) (a.denominator * b.numerator)

/-! ## Powers of ten -/

/-- The greatest power of ten that fits into sixty-four bits, by its exponent. -/
def greatestPower : Nat := 308

def tenTo (n : Nat) : Magnitude := ofNat (Nat.pow 10 n)

/-- The magnitude divided by `10 ^ n`, in steps of the greatest power; zero stays as it is. -/
def overTenTo (m : Magnitude) (n : Nat) : Magnitude :=
  if n ≤ greatestPower then m.dividedBy (tenTo n)
  else if m.isZero then m
  else overTenTo (m.dividedBy (tenTo greatestPower)) (n - greatestPower)
termination_by n
decreasing_by
  simp only [greatestPower] at *
  omega

/-- The magnitude multiplied by `10 ^ n`, if the result is finite. -/
def timesTenTo? (m : Magnitude) (n : Nat) : Option Magnitude :=
  if n ≤ greatestPower then
    let product := m.times (tenTo n)
    if product.isFinite then some product else none
  else if m.isZero then some m
  else none

/-- The number `significand * 10 ^ exponent`, rounded at every step, if it is finite. -/
def ofDecimal? (significand : Nat) : (exponent : Int) → Option Magnitude
  | .ofNat n => (ofNat significand).timesTenTo? n
  | .negSucc n => some ((ofNat significand).overTenTo (n + 1))

end Magnitude

end SubscriptionFields.Settings
