import SubscriptionFields.Text.Width

/-!
# Scanning

Settings are read from a text character by character, from left to right, and the first fault ends
the reading. Every scanner returns what it read together with the rest of the text. This module has
the scanners for spaces, for single characters and words, and for the texts between double quotes.

A text between quotes is read in two ways. Where its content matters, an escaped pair of surrogates
stands for one character, and a surrogate outside of such a pair is a fault. Where the content does
not matter, surrogates go unchecked.
-/

set_option autoImplicit false

namespace SubscriptionFields.Settings

/-- Why settings cannot be read. -/
inductive ReadError where
  /-- The text is not well formed. -/
  | malformed
  /-- The text ends too early. -/
  | truncated
  /-- The text is well formed but does not have the form of the settings. -/
  | mismatch (message : String)
  deriving DecidableEq, Repr

/-- What a scanner read, with the rest of the text. -/
abbrev Scanned (α : Type) := Except ReadError (α × List Char)

def converted {α β : Type} (convert : α → β) : Scanned α → Scanned β
  | .ok (value, rest) => .ok (convert value, rest)
  | .error fault => .error fault

theorem ok_of_converted {α β : Type} {convert : α → β} {scanned : Scanned α} {result : β}
    {rest : List Char} (read : converted convert scanned = .ok (result, rest)) :
    ∃ value, scanned = .ok (value, rest) := by
  cases scanned with
  | error fault => cases read
  | ok pair =>
    cases read
    exact ⟨pair.1, rfl⟩

/-- A reading in two parts succeeds only if its first part does. -/
theorem ok_of_bind {α β : Type} {first : Except ReadError α} {next : α → Except ReadError β}
    {result : β} (read : (first >>= next) = .ok result) :
    ∃ value, first = .ok value ∧ next value = .ok result := by
  cases first with
  | error fault => cases read
  | ok value => exact ⟨value, rfl, read⟩

/-- A reading that ends with a value leaves the text that it ends with. -/
theorem rest_of_pure {α : Type} {value result : α} {behind rest : List Char}
    (read : (pure (value, behind) : Except ReadError (α × List Char)) = .ok (result, rest)) :
    behind = rest := by
  cases read
  rfl

/-! ## Spaces and words -/

/-- Whether a character may stand between the parts of a text. -/
def isSpace (c : Char) : Bool :=
  c = ' ' || c = '\n' || c = '\t' || c = '\r'

def skipSpaces (text : List Char) : List Char :=
  text.dropWhile isSpace

def word : List Char → List Char → Except ReadError (List Char)
  | [], text => .ok text
  | _ :: _, [] => .error .truncated
  | letter :: letters, c :: text => if c = letter then word letters text else .error .malformed

/-! ## Escapes -/

def hexValue? (c : Char) : Option Nat :=
  if '0' ≤ c ∧ c ≤ '9' then some (c.toNat - '0'.toNat)
  else if 'a' ≤ c ∧ c ≤ 'f' then some (c.toNat - 'a'.toNat + 10)
  else if 'A' ≤ c ∧ c ≤ 'F' then some (c.toNat - 'A'.toNat + 10)
  else none

/-- The number that four hexadecimal digits stand for. -/
def codeUnit? (a b c d : Char) : Option Nat := do
  return 4096 * (← hexValue? a) + 256 * (← hexValue? b) + 16 * (← hexValue? c) + (← hexValue? d)

/-- Reads four hexadecimal digits. A text ends too early for them if it has less than four
bytes left. -/
def codeUnit (text : List Char) : Scanned Nat :=
  if Text.width (text.take 4) < 4 then .error .truncated
  else
    match text with
    | a :: b :: c :: d :: rest =>
      match codeUnit? a b c d with
      | some unit => .ok (unit, rest)
      | none => .error .malformed
    | _ => .error .malformed

/-- Whether a code unit is the first of a pair. -/
def isLeadingSurrogate (unit : Nat) : Bool := 0xD800 ≤ unit && unit ≤ 0xDBFF

/-- Whether a code unit is the second of a pair. -/
def isTrailingSurrogate (unit : Nat) : Bool := 0xDC00 ≤ unit && unit ≤ 0xDFFF

def ofSurrogates (leading trailing : Nat) : Char :=
  Char.ofNat (0x10000 + (leading - 0xD800) * 0x400 + (trailing - 0xDC00))

/-- Reads the character of one code unit or of a pair. -/
def escapedUnits (text : List Char) : Except ReadError (Char × List Char) := do
  let (unit, text) ← codeUnit text
  if isTrailingSurrogate unit then
    .error .malformed
  else if isLeadingSurrogate unit then
    let text ← word ['\\', 'u'] text
    let (second, text) ← codeUnit text
    if isTrailingSurrogate second then return (ofSurrogates unit second, text)
    else .error .malformed
  else
    return (Char.ofNat unit, text)

/-- The character that a single letter stands for after a backslash. -/
def escapeLetter? (c : Char) : Option Char :=
  match c with
  | '"' => some '"'
  | '\\' => some '\\'
  | '/' => some '/'
  | 'b' => some '\x08'
  | 'f' => some '\x0c'
  | 'n' => some '\n'
  | 'r' => some '\r'
  | 't' => some '\t'
  | _ => none

def escaped : List Char → Scanned Char
  | [] => .error .truncated
  | c :: text =>
    if c = 'u' then escapedUnits text
    else
      match escapeLetter? c with
      | some meant => .ok (meant, text)
      | none => .error .malformed

/-- Reads what follows a backslash, without a look at surrogates. -/
def skipEscaped : List Char → Except ReadError (List Char)
  | [] => .error .truncated
  | c :: text =>
    if c = 'u' then do
      let (_, rest) ← codeUnit text
      return rest
    else if (escapeLetter? c).isSome then .ok text
    else .error .malformed

/-- Whether a character may not stand between quotes as it is. -/
def isControl (c : Char) : Bool := c.toNat < 0x20

/-! ## How much is left -/

theorem length_skipSpaces_le (text : List Char) : (skipSpaces text).length ≤ text.length :=
  (List.dropWhile_suffix isSpace).length_le

theorem length_of_word {letters text rest : List Char} (read : word letters text = .ok rest) :
    text.length = letters.length + rest.length := by
  induction letters generalizing text with
  | nil =>
    simp only [word, Except.ok.injEq] at read
    simp [read]
  | cons letter letters ih =>
    cases text with
    | nil => simp [word] at read
    | cons c text =>
      simp only [word] at read
      split at read
      · simp only [List.length_cons, ih read]
        omega
      · simp at read

theorem length_of_codeUnit {text rest : List Char} {unit : Nat}
    (read : codeUnit text = .ok (unit, rest)) : rest.length < text.length := by
  unfold codeUnit at read
  split at read
  · cases read
  split at read
  · split at read
    · cases read
      simp only [List.length_cons]
      omega
    · cases read
  · cases read

theorem length_of_escapedUnits {text rest : List Char} {c : Char}
    (read : escapedUnits text = .ok (c, rest)) : rest.length < text.length := by
  obtain ⟨⟨unit, behindUnit⟩, first, read⟩ := ok_of_bind read
  have shorter := length_of_codeUnit first
  dsimp only at read
  split at read
  · cases read
  split at read
  · obtain ⟨behindMark, second, read⟩ := ok_of_bind read
    obtain ⟨⟨trailing, behindPair⟩, third, read⟩ := ok_of_bind read
    have mark := length_of_word second
    have pair := length_of_codeUnit third
    dsimp only at read
    split at read
    · rw [← rest_of_pure read]
      omega
    · cases read
  · rw [← rest_of_pure read]
    exact shorter

theorem length_of_escaped {text rest : List Char} {c : Char}
    (read : escaped text = .ok (c, rest)) : rest.length < text.length := by
  cases text with
  | nil => cases read
  | cons first text =>
    simp only [escaped] at read
    split at read
    · have shorter := length_of_escapedUnits read
      simp only [List.length_cons]
      omega
    split at read
    · cases read
      simp
    · cases read

theorem length_of_skipEscaped {text rest : List Char}
    (read : skipEscaped text = .ok rest) : rest.length < text.length := by
  cases text with
  | nil => cases read
  | cons first text =>
    simp only [skipEscaped] at read
    split at read
    · obtain ⟨⟨unit, behind⟩, found, read⟩ := ok_of_bind read
      have shorter := length_of_codeUnit found
      cases read
      simp only [List.length_cons]
      omega
    split at read
    · cases read
      simp
    · cases read

/-! ## Texts between quotes -/

/-- Reads a text up to the closing quote; the opening one is behind. -/
def quoted (text : List Char) : Scanned (List Char) :=
  match text with
  | [] => .error .truncated
  | '"' :: rest => .ok ([], rest)
  | '\\' :: rest =>
    match _read : escaped rest with
    | .error fault => .error fault
    | .ok (c, afterEscape) => converted (c :: ·) (quoted afterEscape)
  | c :: rest =>
    if isControl c then .error .malformed
    else converted (c :: ·) (quoted rest)
termination_by text.length
decreasing_by
  · have := length_of_escaped _read
    simp only [List.length_cons]
    omega
  · simp

/-- Skips a text up to the closing quote; the opening one is behind. -/
def skipQuoted (text : List Char) : Except ReadError (List Char) :=
  match text with
  | [] => .error .truncated
  | '"' :: rest => .ok rest
  | '\\' :: rest =>
    match _read : skipEscaped rest with
    | .error fault => .error fault
    | .ok afterEscape => skipQuoted afterEscape
  | c :: rest => if isControl c then .error .malformed else skipQuoted rest
termination_by text.length
decreasing_by
  · have := length_of_skipEscaped _read
    simp only [List.length_cons]
    omega
  · simp

theorem length_of_quoted {text rest content : List Char}
    (read : quoted text = .ok (content, rest)) : rest.length < text.length := by
  fun_induction quoted text generalizing content rest with
  | case1 => simp at read
  | case2 => simp_all
  | case3 => simp at read
  | case4 text c afterEscape shorter ih =>
    have escape := length_of_escaped shorter
    obtain ⟨inner, found⟩ := ok_of_converted read
    have := ih found
    simp only [List.length_cons]
    omega
  | case5 => simp at read
  | case6 c text notQuote notBackslash notControl ih =>
    obtain ⟨inner, found⟩ := ok_of_converted read
    have := ih found
    simp only [List.length_cons]
    omega

theorem length_of_skipQuoted {text rest : List Char}
    (read : skipQuoted text = .ok rest) : rest.length < text.length := by
  fun_induction skipQuoted text generalizing rest with
  | case1 => simp at read
  | case2 => simp_all
  | case3 => simp at read
  | case4 text afterEscape shorter ih =>
    have escape := length_of_skipEscaped shorter
    have inner := ih read
    simp only [List.length_cons]
    omega
  | case5 => simp at read
  | case6 c text notQuote notBackslash notControl ih =>
    have inner := ih read
    simp only [List.length_cons]
    omega

end SubscriptionFields.Settings
