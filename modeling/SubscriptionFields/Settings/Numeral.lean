import SubscriptionFields.Settings.Decimal
import SubscriptionFields.Settings.Scan

/-!
# Numerals

A numeral has a sign, whole digits, and perhaps a fraction and a power of ten. Scanning it takes it
apart; valuing it says which number it is. A numeral without fraction and power that fits into
sixty-four bits is an integer. Every other one is rounded, from the digits that fit into a
significand of sixty-four bits, and is a fault if it is too large.
-/

set_option autoImplicit false

namespace SubscriptionFields.Settings

/-- A numeral, taken apart. -/
structure Numeral where
  negative : Bool
  /-- The digits in front of the point. -/
  whole : List Nat
  /-- The digits behind the point; there are none exactly if there is no point. -/
  fraction : List Nat
  /-- The power of ten, if there is one. -/
  power : Option Int
  deriving DecidableEq, Repr

/-! ## Scanning -/

def digitValue? (c : Char) : Option Nat :=
  if '0' ≤ c ∧ c ≤ '9' then some (c.toNat - '0'.toNat) else none

/-- The digits at the beginning of a text, and the rest. -/
def digits : List Char → List Nat × List Char
  | [] => ([], [])
  | c :: text =>
    match digitValue? c with
    | some value => (value :: (digits text).1, (digits text).2)
    | none => ([], c :: text)

def someDigits (text : List Char) : Scanned (List Nat) :=
  match digits text with
  | ([], []) => .error .truncated
  | ([], _ :: _) => .error .malformed
  | (value :: values, rest) => .ok (value :: values, rest)

/-- Reads the digits in front of the point. A zero in front of another digit is a fault. -/
def wholeDigits (text : List Char) : Scanned (List Nat) :=
  match someDigits text with
  | .ok (0 :: _ :: _, _) => .error .malformed
  | other => other

def fractionDigits : List Char → Scanned (List Nat)
  | '.' :: text => someDigits text
  | text => .ok ([], text)

/-- The number that a list of digits stands for. -/
def ofDigits (values : List Nat) : Nat :=
  values.foldl (fun number value => 10 * number + value) 0

def signedPower : List Char → Scanned Int
  | '-' :: text => converted (fun values => -(ofDigits values : Int)) (someDigits text)
  | '+' :: text => converted (fun values => (ofDigits values : Int)) (someDigits text)
  | text => converted (fun values => (ofDigits values : Int)) (someDigits text)

def power : List Char → Scanned (Option Int)
  | 'e' :: text => converted some (signedPower text)
  | 'E' :: text => converted some (signedPower text)
  | text => .ok (none, text)

def unsigned (negative : Bool) (text : List Char) : Except ReadError (Numeral × List Char) := do
  let (whole, text) ← wholeDigits text
  let (fraction, text) ← fractionDigits text
  let (power, text) ← power text
  return ({ negative, whole, fraction, power }, text)

def numeral : List Char → Scanned Numeral
  | '-' :: text => unsigned true text
  | text => unsigned false text

/-- Skips a numeral. A numeral that breaks off counts as malformed here. -/
def skipNumeral (text : List Char) : Except ReadError (List Char) :=
  match numeral text with
  | .ok (_, rest) => .ok rest
  | .error _ => .error .malformed

/-! ## Values -/

/-- A number. -/
inductive Number where
  /-- A natural number of at most sixty-four bits. -/
  | natural (value : Nat)
  /-- A natural number below zero, of at most sixty-three bits or their greatest power of two. -/
  | negative (value : Nat)
  /-- A rounded number. -/
  | rounded (negative : Bool) (magnitude : Magnitude)
  deriving DecidableEq, Repr

def greatestSignificand : Nat := Nat.pow 2 64 - 1

/-- The significand after further digits, and how many digits no longer fit. The first digit that
does not fit ends the significand. -/
def extend (significand : Nat) : List Nat → Nat × Nat
  | [] => (significand, 0)
  | value :: values =>
    if 10 * significand + value ≤ greatestSignificand then extend (10 * significand + value) values
    else (significand, (value :: values).length)

def Number.round (negative : Bool) (significand : Nat) (power : Int) : Except ReadError Number :=
  match Magnitude.ofDecimal? significand power with
  | some magnitude => .ok (.rounded negative magnitude)
  | none => .error .malformed

/-- The number that a numeral stands for. The digits of a fraction may still find room in the
significand where the whole digits did not. A negative zero, or an integer that is too large, is
rounded. -/
def Numeral.value (n : Numeral) : Except ReadError Number :=
  let (whole, dropped) := extend 0 n.whole
  if n.fraction = [] ∧ n.power = none ∧ dropped = 0 then
    if ¬ n.negative then .ok (.natural whole)
    else if 0 < whole ∧ whole ≤ Nat.pow 2 63 then .ok (.negative whole)
    else Number.round true whole 0
  else
    let (significand, unused) := extend whole n.fraction
    Number.round n.negative significand
      ((dropped : Int) - (n.fraction.length - unused : Nat) + n.power.getD 0)

def number (text : List Char) : Except ReadError (Number × List Char) := do
  let (numeral, rest) ← numeral text
  return (← numeral.value, rest)

/-! ## How much is left -/

theorem length_of_digits (text : List Char) :
    text.length = (digits text).1.length + (digits text).2.length := by
  induction text with
  | nil => rfl
  | cons c text ih =>
    simp only [digits]
    split
    · simp only [List.length_cons]
      omega
    · simp

theorem length_of_someDigits {text rest : List Char} {values : List Nat}
    (read : someDigits text = .ok (values, rest)) : rest.length < text.length := by
  have whole := length_of_digits text
  unfold someDigits at read
  split at read
  · cases read
  · cases read
  · next found =>
    cases read
    simp only [found, List.length_cons] at whole
    omega

theorem length_of_wholeDigits {text rest : List Char} {values : List Nat}
    (read : wholeDigits text = .ok (values, rest)) : rest.length < text.length := by
  unfold wholeDigits at read
  split at read
  · cases read
  · exact length_of_someDigits read

theorem length_of_fractionDigits {text rest : List Char} {values : List Nat}
    (read : fractionDigits text = .ok (values, rest)) : rest.length ≤ text.length := by
  unfold fractionDigits at read
  split at read
  · have := length_of_someDigits read
    simp only [List.length_cons]
    omega
  · simp only [Except.ok.injEq, Prod.mk.injEq] at read
    simp [← read.2]

theorem length_of_signedPower {text rest : List Char} {value : Int}
    (read : signedPower text = .ok (value, rest)) : rest.length < text.length := by
  unfold signedPower at read
  split at read <;> obtain ⟨values, found⟩ := ok_of_converted read <;>
    have := length_of_someDigits found <;> grind

theorem length_of_power {text rest : List Char} {value : Option Int}
    (read : power text = .ok (value, rest)) : rest.length ≤ text.length := by
  unfold power at read
  split at read
  · obtain ⟨signed, found⟩ := ok_of_converted read
    have := length_of_signedPower found
    simp only [List.length_cons]
    omega
  · obtain ⟨signed, found⟩ := ok_of_converted read
    have := length_of_signedPower found
    simp only [List.length_cons]
    omega
  · simp only [Except.ok.injEq, Prod.mk.injEq] at read
    simp [← read.2]

theorem length_of_unsigned {text rest : List Char} {negative : Bool} {n : Numeral}
    (read : unsigned negative text = .ok (n, rest)) : rest.length < text.length := by
  obtain ⟨⟨whole, behindWhole⟩, first, read⟩ := ok_of_bind read
  obtain ⟨⟨fraction, behindFraction⟩, second, read⟩ := ok_of_bind read
  obtain ⟨⟨exponent, behindPower⟩, third, read⟩ := ok_of_bind read
  have one := length_of_wholeDigits first
  have two := length_of_fractionDigits second
  have three := length_of_power third
  cases read
  omega

theorem length_of_numeral {text rest : List Char} {n : Numeral}
    (read : numeral text = .ok (n, rest)) : rest.length < text.length := by
  unfold numeral at read
  split at read
  · have shorter := length_of_unsigned read
    simp only [List.length_cons]
    omega
  · exact length_of_unsigned read

theorem length_of_skipNumeral {text rest : List Char}
    (read : skipNumeral text = .ok rest) : rest.length < text.length := by
  unfold skipNumeral at read
  split at read
  · next found =>
    cases read
    exact length_of_numeral found
  · cases read

end SubscriptionFields.Settings
