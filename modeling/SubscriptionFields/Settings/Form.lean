import SubscriptionFields.Settings.Skip
import SubscriptionFields.Text.Quoted

/-!
# Forms

A form is a list of named settings with the values they have by default. A text fills it in either
as a map from names to values, or as a list of values in the order of the form. Settings that are
left out keep their defaults. A map may hold further names, whose values are skipped, but no setting
twice; a list may not hold further values.
-/

set_option autoImplicit false

namespace SubscriptionFields.Settings

/-! ## Values of another form -/

/-- What was found in place of a value of the right form. -/
inductive Found where
  | null
  | flag (value : Bool)
  | number (value : Number)
  | text (value : String)
  | list
  | map
  deriving DecidableEq, Repr

def Number.display : Number → String
  | .natural value => "integer `" ++ toString value ++ "`"
  | .negative value => "integer `-" ++ toString value ++ "`"
  | .rounded below magnitude =>
    "floating point `" ++ (if below then "-" else "") ++ magnitude.text ++ "`"

def Found.display : Found → String
  | .null => "null"
  | .flag value => "boolean `" ++ toString value ++ "`"
  | .number value => value.display
  | .text value => "string " ++ Text.quote value
  | .list => "sequence"
  | .map => "map"

/-- The value at the beginning of a text. Only values without parts are looked at as a whole. -/
def found : List Char → Except ReadError Found
  | [] => .error .truncated
  | c :: text =>
    if c = 'n' then (word "ull".toList text).map fun _ => .null
    else if c = 't' then (word "rue".toList text).map fun _ => .flag true
    else if c = 'f' then (word "alse".toList text).map fun _ => .flag false
    else if c = '"' then (quoted text).map fun read => .text (String.ofList read.1)
    else if c = '[' then .ok .list
    else if c = '\x7b' then .ok .map
    else if beginsNumeral c then (number (c :: text)).map fun read => .number read.1
    else .error .malformed

/-- The fault of a text that has something else where a certain value is expected. -/
def unexpected (expected : String) (text : List Char) : ReadError :=
  match found text with
  | .ok other => .mismatch ("invalid type: " ++ other.display ++ ", expected " ++ expected)
  | .error fault => fault

/-! ## Settings -/

/-- A named setting of a form, with the way in which its value is written into the form. -/
inductive Setting (σ : Type) where
  | flag (name : String) (write : Bool → σ → σ)
  | text (name : String) (write : String → σ → σ)

/-- A form: its name, its settings in order, and the values that it has by default. -/
structure Form (σ : Type) where
  name : String
  settings : List (Setting σ)
  default : σ

variable {σ : Type}

def Setting.name : Setting σ → String
  | .flag name _ => name
  | .text name _ => name

def readFlag (text : List Char) : Except ReadError (Bool × List Char) :=
  match skipSpaces text with
  | 't' :: rest => do return (true, ← word "rue".toList rest)
  | 'f' :: rest => do return (false, ← word "alse".toList rest)
  | other => .error (unexpected "a boolean" other)

def readText (text : List Char) : Scanned String :=
  match skipSpaces text with
  | '"' :: rest => converted String.ofList (quoted rest)
  | other => .error (unexpected "a string" other)

def Setting.read (setting : Setting σ) (values : σ) (text : List Char) : Scanned σ :=
  match setting with
  | .flag _ write => converted (fun value => write value values) (readFlag text)
  | .text _ write => converted (fun value => write value values) (readText text)

theorem length_of_readFlag {text rest : List Char} {value : Bool}
    (read : readFlag text = .ok (value, rest)) : rest.length < text.length := by
  have spaces := length_skipSpaces_le text
  unfold readFlag at read
  split at read
  · next start =>
    obtain ⟨behind, found, read⟩ := ok_of_bind read
    have := length_of_word found
    rw [start, List.length_cons] at spaces
    cases read
    omega
  · next start =>
    obtain ⟨behind, found, read⟩ := ok_of_bind read
    have := length_of_word found
    rw [start, List.length_cons] at spaces
    cases read
    omega
  · cases read

theorem length_of_readText {text rest : List Char} {value : String}
    (read : readText text = .ok (value, rest)) : rest.length < text.length := by
  have spaces := length_skipSpaces_le text
  unfold readText at read
  split at read
  · next start =>
    obtain ⟨content, found⟩ := ok_of_converted read
    have := length_of_quoted found
    rw [start, List.length_cons] at spaces
    omega
  · cases read

theorem Setting.length_of_read {setting : Setting σ} {values result : σ} {text rest : List Char}
    (read : setting.read values text = .ok (result, rest)) : rest.length < text.length := by
  unfold Setting.read at read
  split at read
  · obtain ⟨value, after⟩ := ok_of_converted read
    exact length_of_readFlag after
  · obtain ⟨value, after⟩ := ok_of_converted read
    exact length_of_readText after

/-! ## Lists -/

/-- Reads the end of a list that has no room for more values. -/
def closeList (text : List Char) : Except ReadError (List Char) :=
  word [']'] (skipSpaces text)

/-- Reads the values of the remaining settings up to the end of the list. Every value but the first
comes after a comma. -/
def elements (first : Bool) (values : σ) (text : List Char) : List (Setting σ) → Scanned σ
  | [] => (closeList text).map fun rest => (values, rest)
  | setting :: settings =>
    let read (text : List Char) : Scanned σ :=
      match setting.read values text with
      | .error fault => .error fault
      | .ok (values, rest) => elements false values rest settings
    match skipSpaces text with
    | [] => .error .truncated
    | ']' :: rest => .ok (values, rest)
    | c :: rest =>
      if first then read (c :: rest)
      else if c = ',' then
        match skipSpaces rest with
        | ']' :: _ => .error .malformed
        | rest => read rest
      else .error .malformed

/-! ## Maps -/

/-- How a map goes on. -/
inductive MapTail where
  | key (rest : List Char)
  | finished (rest : List Char)

/-- Reads how a map goes on. Every key but the first comes after a comma. -/
def mapTail (first : Bool) (text : List Char) : Except ReadError MapTail :=
  match skipSpaces text with
  | [] => .error .truncated
  | '\x7d' :: rest => .ok (.finished rest)
  | c :: rest =>
    if first then do return .key (← word ['"'] (c :: rest))
    else if c = ',' then do return .key (← word ['"'] (skipSpaces rest))
    else .error .malformed

def Form.setting? (form : Form σ) (name : String) : Option (Setting σ) :=
  form.settings.find? fun setting => setting.name = name

/-- A form that is being filled in: the settings that have been read, and the values. -/
structure Filling (σ : Type) where
  seen : List String
  values : σ

/-- Reads an entry of a map, whose opening quote is behind. A setting that comes a second time is
a fault before its value is looked at. -/
def entry (form : Form σ) (filling : Filling σ) (text : List Char) :
    Except ReadError (Filling σ × List Char) := do
  let (key, text) ← quoted text
  let name := String.ofList key
  match form.setting? name with
  | some setting =>
    if filling.seen.contains name then
      .error (.mismatch ("duplicate field `" ++ name ++ "`"))
    else
      let text ← skipColon text
      let (values, rest) ← setting.read filling.values text
      return ({ seen := name :: filling.seen, values }, rest)
  | none =>
    let text ← skipColon text
    let rest ← skipValue text
    return (filling, rest)

theorem length_of_mapTail {first : Bool} {text rest : List Char}
    (read : mapTail first text = .ok (.key rest)) : rest.length < text.length := by
  have spaces := length_skipSpaces_le text
  unfold mapTail at read
  split at read
  · cases read
  · cases read
  · next c behind _ start =>
    have inner := length_skipSpaces_le behind
    rw [start] at spaces
    split at read
    · obtain ⟨behindQuote, found, read⟩ := ok_of_bind read
      have := length_of_word found
      rw [List.length_singleton] at this
      cases read
      omega
    split at read
    · obtain ⟨behindQuote, found, read⟩ := ok_of_bind read
      have := length_of_word found
      rw [List.length_cons] at spaces
      cases read
      omega
    · cases read

theorem length_of_entry {form : Form σ} {filling filled : Filling σ} {text rest : List Char}
    (read : entry form filling text = .ok (filled, rest)) : rest.length < text.length := by
  obtain ⟨⟨key, behindKey⟩, first, read⟩ := ok_of_bind read
  have one := length_of_quoted first
  dsimp only at read
  split at read
  · split at read
    · cases read
    obtain ⟨behindColon, second, read⟩ := ok_of_bind read
    obtain ⟨⟨values, behindValue⟩, third, read⟩ := ok_of_bind read
    have two := length_of_skipColon second
    have three := Setting.length_of_read third
    have same := rest_of_pure read
    dsimp only at same
    subst same
    omega
  · obtain ⟨behindColon, second, read⟩ := ok_of_bind read
    obtain ⟨behindValue, third, read⟩ := ok_of_bind read
    have two := length_of_skipColon second
    have three := length_of_skipValue third
    have same := rest_of_pure read
    subst same
    omega

def entries (form : Form σ) (first : Bool) (filling : Filling σ) (text : List Char) : Scanned σ :=
  match _tail : mapTail first text with
  | .error fault => .error fault
  | .ok (.finished rest) => .ok (filling.values, rest)
  | .ok (.key behindQuote) =>
    match _entry : entry form filling behindQuote with
    | .error fault => .error fault
    | .ok (filling, rest) => entries form false filling rest
termination_by text.length
decreasing_by
  have := length_of_mapTail _tail
  have := length_of_entry _entry
  omega

/-! ## Whole texts -/

/-- Reads a filled-in form from a text that holds nothing else. -/
def Form.read (form : Form σ) (text : String) : Except ReadError σ := do
  let (values, rest) ← match skipSpaces text.toList with
    | '[' :: rest => elements true form.default rest form.settings
    | '\x7b' :: rest => entries form true { seen := [], values := form.default } rest
    | other => .error (unexpected ("struct " ++ form.name) other)
  if skipSpaces rest = [] then return values
  else .error .malformed

end SubscriptionFields.Settings
