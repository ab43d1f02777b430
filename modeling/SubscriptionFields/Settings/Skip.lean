import SubscriptionFields.Settings.Numeral

/-!
# Skipping values

A setting that nobody asks for is skipped together with its value, however deeply the value is
nested. The skipper walks along the text once and remembers the brackets that are open. Values are
checked for their form only: a numeral may be too large and a text may hold any surrogates.
-/

set_option autoImplicit false

namespace SubscriptionFields.Settings

/-- A bracket that is open around a value. -/
inductive Bracket where
  | list
  | map
  deriving DecidableEq, Repr

def Bracket.closing : Bracket → Char
  | .list => ']'
  | .map => '\x7d'

/-- What is to be skipped next. -/
inductive Awaited where
  /-- A value. -/
  | value
  /-- The key and the value of an entry of a map. -/
  | entry
  /-- What follows a value inside the innermost open bracket. -/
  | continuation
  deriving DecidableEq, Repr

/-- What may come after a comma inside a bracket. -/
def Bracket.awaited : Bracket → Awaited
  | .list => .value
  | .map => .entry

/-! ## Single values -/

/-- Whether a numeral may begin with a character. -/
def beginsNumeral (c : Char) : Bool := c = '-' || (digitValue? c).isSome

/-- Skips a value without parts, which begins with the first character. -/
def skipScalar : List Char → Except ReadError (List Char)
  | [] => .error .truncated
  | c :: text =>
    if c = 'n' then word "ull".toList text
    else if c = 't' then word "rue".toList text
    else if c = 'f' then word "alse".toList text
    else if c = '"' then skipQuoted text
    else if beginsNumeral c then skipNumeral (c :: text)
    else .error .malformed

theorem length_of_skipScalar {text rest : List Char} (read : skipScalar text = .ok rest) :
    rest.length < text.length := by
  cases text with
  | nil => cases read
  | cons c text =>
    rw [List.length_cons]
    simp only [skipScalar] at read
    split at read
    · have := length_of_word read
      omega
    split at read
    · have := length_of_word read
      omega
    split at read
    · have := length_of_word read
      omega
    split at read
    · have := length_of_skipQuoted read
      omega
    split at read
    · exact length_of_skipNumeral read
    · cases read

/-! ## Keys -/

/-- Skips the colon between a key and its value. -/
def skipColon (text : List Char) : Except ReadError (List Char) :=
  word [':'] (skipSpaces text)

theorem length_of_skipColon {text rest : List Char} (read : skipColon text = .ok rest) :
    rest.length < text.length := by
  have behind := length_of_word read
  have spaces := length_skipSpaces_le text
  rw [List.length_singleton] at behind
  omega

def skipKey (text : List Char) : Except ReadError (List Char) := do
  let text ← word ['"'] (skipSpaces text)
  let text ← skipQuoted text
  skipColon text

theorem length_of_skipKey {text rest : List Char} (read : skipKey text = .ok rest) :
    rest.length < text.length := by
  obtain ⟨behindQuote, first, read⟩ := ok_of_bind read
  obtain ⟨behindKey, second, read⟩ := ok_of_bind read
  have spaces := length_skipSpaces_le text
  have one := length_of_word first
  have two := length_of_skipQuoted second
  have three := length_of_skipColon read
  omega

/-! ## Nested values -/

/-- Skips what is awaited, and all that belongs to the brackets open around it. -/
def skipFrom (awaited : Awaited) (around : List Bracket) (text : List Char) :
    Except ReadError (List Char) :=
  match awaited, around with
  | .continuation, [] => .ok text
  | .continuation, bracket :: outer =>
    match _spaces : skipSpaces text with
    | [] => .error .truncated
    | c :: rest =>
      if c = ',' then skipFrom bracket.awaited (bracket :: outer) rest
      else if c = bracket.closing then skipFrom .continuation outer rest
      else .error .malformed
  | .entry, around =>
    match _read : skipKey text with
    | .error fault => .error fault
    | .ok rest => skipFrom .value around rest
  | .value, around =>
    match _spaces : skipSpaces text with
    | [] => .error .truncated
    | '[' :: rest =>
      match _inner : skipSpaces rest with
      | ']' :: behind => skipFrom .continuation around behind
      | _ => skipFrom .value (.list :: around) rest
    | '\x7b' :: rest =>
      match _inner : skipSpaces rest with
      | '\x7d' :: behind => skipFrom .continuation around behind
      | _ => skipFrom .entry (.map :: around) rest
    | scalar =>
      match _read : skipScalar scalar with
      | .error fault => .error fault
      | .ok rest => skipFrom .continuation around rest
termination_by text.length
decreasing_by
  all_goals have bound := length_skipSpaces_le text
  · rw [_spaces, List.length_cons] at bound
    omega
  · rw [_spaces, List.length_cons] at bound
    omega
  · exact length_of_skipKey _read
  · have inner := length_skipSpaces_le rest
    rw [_spaces, List.length_cons] at bound
    rw [_inner, List.length_cons] at inner
    omega
  · rw [_spaces, List.length_cons] at bound
    omega
  · have inner := length_skipSpaces_le rest
    rw [_spaces, List.length_cons] at bound
    rw [_inner, List.length_cons] at inner
    omega
  · rw [_spaces, List.length_cons] at bound
    omega
  · have shorter := length_of_skipScalar _read
    rw [← _spaces] at shorter
    omega

def skipValue (text : List Char) : Except ReadError (List Char) :=
  skipFrom .value [] text

/-- Skipping takes something from the text, unless it only awaits what may not be there. -/
theorem length_of_skipFrom {awaited : Awaited} {around : List Bracket} {text rest : List Char}
    (read : skipFrom awaited around text = .ok rest) :
    rest.length ≤ text.length ∧ (awaited ≠ .continuation → rest.length < text.length) := by
  fun_induction skipFrom awaited around text generalizing rest
  case case7 text around behind key ih =>
    have := length_of_skipKey key
    grind
  case case14 text around behind _ _ _ scalar ih =>
    have := length_of_skipScalar scalar
    have := length_skipSpaces_le text
    grind
  all_goals grind [length_skipSpaces_le]

theorem length_of_skipValue {text rest : List Char} (read : skipValue text = .ok rest) :
    rest.length < text.length :=
  (length_of_skipFrom read).2 (by simp)

end SubscriptionFields.Settings
