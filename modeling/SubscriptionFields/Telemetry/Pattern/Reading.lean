import SubscriptionFields.Telemetry.Pattern.Nesting
import SubscriptionFields.Text.Blank
import SubscriptionFields.Text.Letter

/-!
# Reading a pattern

A directive may ask for a value that fits a pattern. A pattern is a text with groups between
parentheses, alternatives, repetitions and classes between brackets, and a backslash takes the
meaning from a sign. Patterns are compared with the values of spans only, so that it matters here
whether they are well formed and nothing else does.

A machine walks along the pattern once. It knows at which place it is, which groups and classes are
open, and how high their content is. A character may depend on those that come next; these are at
hand in each step and are passed over later if they belong to it.
-/

set_option autoImplicit false

namespace SubscriptionFields.Telemetry.Pattern

/-! ## The machine -/

/-- Where a character with a backslash in front of it stands. -/
inductive Spot where
  /-- Outside classes. -/
  | outside
  /-- In a class, where it may begin a range. -/
  | low
  /-- At the end of a range that begins with the given character. -/
  | high (first : Char)
  deriving DecidableEq, Repr

/-- Where the machine is. -/
inductive Place where
  /-- Outside classes, in front of an item. -/
  | sequence
  /-- Behind a backslash. -/
  | escape (spot : Spot)
  /-- In front of hexadecimal digits, with the value of those before; two digits give a byte. -/
  | digits (left : Nat) (value : Nat) (asByte : Bool) (spot : Spot)
  /-- Behind an opening parenthesis. -/
  | group
  /-- Behind the question mark that follows an opening parenthesis. -/
  | extension
  /-- In front of the angle that begins the name of a group. -/
  | angle
  /-- In the name of a group, behind the given letters, the last one first. -/
  | name (letters : List Char)
  /-- In the flags of a group, behind the given letters, the last one first. -/
  | flags (letters : List Char)
  /-- Behind the opening bracket of a class. -/
  | opened
  /-- Behind the caret that makes a class one of all other characters. -/
  | negated
  /-- In a class, behind dashes that come first; they stand for themselves. -/
  | dashes
  /-- In a class, in front of a member. -/
  | member
  /-- Behind a member that may begin a range if it is the given character. -/
  | low (first : Option Char)
  /-- Behind the dash of a range that begins with the given character. -/
  | high (first : Char)
  deriving DecidableEq, Repr

/-- The machine between two characters. -/
structure Reading where
  place : Place := .sequence
  /-- How many of the next characters belong to the one before. -/
  passing : Nat := 0
  /-- Whether a comment is open, which ends with the line. -/
  inComment : Bool := false
  /-- The names of groups so far. -/
  names : List (List Char) := []
  /-- The innermost group that is open, or the whole pattern. -/
  scope : Scope := {}
  /-- The groups around it, and around them the whole pattern. -/
  outer : List Scope := []
  /-- The classes that are open, the innermost one first. -/
  classes : List Members := []
  deriving DecidableEq, Repr

/-! ## Items and members -/

/-- Adds an item of the given height, outside classes. -/
def Reading.add (reading : Reading) (height : Nat) : Reading :=
  { reading with place := .sequence, scope := reading.scope.add height }

/-- Adds a member of the given height to the innermost class. -/
def Reading.addMember (reading : Reading) (height : Nat) : Reading :=
  match reading.classes with
  | [] => reading
  | members :: classes =>
    { reading with place := .member, classes := members.add height :: classes }

def Reading.openGroup (reading : Reading) (flags : Flags) : Reading :=
  { reading with place := .sequence, scope := { flags }, outer := reading.scope :: reading.outer }

/-- Closes the innermost group; the flags are again those around it. -/
def Reading.closeGroup (reading : Reading) : Option Reading :=
  match reading.outer with
  | [] => none
  | scope :: outer =>
    some ({ reading with scope, outer }.add (reading.scope.height + 1))

def Reading.openClass (reading : Reading) : Reading :=
  { reading with place := .opened, classes := {} :: reading.classes }

/-- Closes the innermost class, which is a member of the class around it or an item. -/
def Reading.closeClass (reading : Reading) : Option Reading :=
  match reading.classes with
  | [] => none
  | [members] => some ({ reading with classes := [] }.add (members.height + 1))
  | members :: classes => some ({ reading with classes }.addMember (members.height + 1))

/-- Puts an operator into the innermost class; its sign is twice the same character. -/
def Reading.operator (reading : Reading) : Reading :=
  match reading.classes with
  | [] => reading
  | members :: classes =>
    { reading with place := .member, passing := 1, classes := members.operator :: classes }

/-! ## Characters that stand for others -/

/-- Puts a character that stands for itself at a spot. A range must not run backwards. -/
def Reading.literal (reading : Reading) (spot : Spot) (literal : Literal) : Option Reading :=
  let flags := reading.scope.flags
  match spot with
  | .outside => if flags.allowsLiteral literal then some (reading.add 0) else none
  | .low =>
    if flags.allowsMember literal then some { reading with place := .low (some literal.c) }
    else none
  | .high first =>
    if flags.allowsMember literal ∧ first ≤ literal.c then some (reading.addMember 0) else none

/-- Puts the short form of a class at a spot. It can neither begin nor end a range. -/
def Reading.shorthand (reading : Reading) (spot : Spot) (negated : Bool) : Option Reading :=
  if reading.scope.flags.allowsShorthand negated then
    match spot with
    | .outside => some (reading.add 0)
    | .low => some { reading with place := .low none }
    | .high _ => none
  else none

/-- Puts the edge of a text or word at a spot. It cannot stand in a class. -/
def Reading.edge (reading : Reading) (spot : Spot) (allowed : Bool) : Option Reading :=
  if spot = .outside ∧ allowed then some (reading.add 0) else none

/-- What a letter with a backslash in front of it stands for, if it stands for a control. -/
def control? : Char → Option Char
  | 'a' => some '\x07'
  | 'f' => some '\x0c'
  | 'n' => some '\n'
  | 'r' => some '\r'
  | 't' => some '\t'
  | 'v' => some '\x0b'
  | _ => none

/-- Puts what a backslash makes of a character at a spot. No letters but these have a meaning. A
class of characters with a property needs a table of them. -/
def Reading.escape (reading : Reading) (spot : Spot) (c : Char) : Option Reading :=
  if c = 'x' then some { reading with place := .digits 2 0 true spot }
  else if c = 'u' then some { reading with place := .digits 4 0 false spot }
  else if c = 'U' then some { reading with place := .digits 8 0 false spot }
  else if c ∈ ['d', 's', 'w'] then reading.shorthand spot false
  else if c ∈ ['D', 'S', 'W'] then reading.shorthand spot true
  else if c ∈ ['A', 'z'] then reading.edge spot true
  else if c ∈ ['b', 'B', '<', '>'] then reading.edge spot reading.scope.flags.allowsWordEdge
  else
    match control? c with
    | some control => reading.literal spot { c := control }
    | none => if isNarrow c && !c.isAlphanum then reading.literal spot { c } else none

def digitValue? (c : Char) : Option Nat :=
  if c.isDigit then some (c.toNat - '0'.toNat)
  else if 'a' ≤ c ∧ c ≤ 'f' then some (c.toNat - 'a'.toNat + 10)
  else if 'A' ≤ c ∧ c ≤ 'F' then some (c.toNat - 'A'.toNat + 10)
  else none

/-- Reads a hexadecimal digit. With the last one, their value is put at a spot as the character that
has this number. -/
def Reading.digit (reading : Reading) (left value : Nat) (asByte : Bool) (spot : Spot) (c : Char) :
    Option Reading := do
  let value := 16 * value + (← digitValue? c)
  if 1 < left then some { reading with place := .digits (left - 1) value asByte spot }
  else if value.isValidChar then reading.literal spot { c := Char.ofNat value, asByte }
  else none

/-! ## Outside classes -/

/-- Reads a character in front of an item. A count of repetitions would need a closing brace, which
a directive leaves no room for, so that no opening brace is well formed. A question mark behind a
repetition belongs to it. -/
def Reading.item (reading : Reading) (c : Char) (rest : List Char) : Option Reading :=
  match c with
  | '(' => some { reading with place := .group }
  | ')' => reading.closeGroup
  | '|' => some { reading with place := .sequence, scope := reading.scope.alternative }
  | '[' => some reading.openClass
  | '?' | '*' | '+' => do
    let sequence ← reading.scope.sequence.repeatLast?
    return { reading with
      scope := { reading.scope with sequence }
      passing := if rest.head? = some '?' then 1 else 0 }
  | '\x7b' => none
  | '\\' => some { reading with place := .escape .outside }
  | '.' => if reading.scope.flags.allowsAny then some (reading.add 0) else none
  | '^' | '$' => some (reading.add 0)
  | c => reading.literal .outside { c }

/-- Reads a character in the name of a group. A name begins with a letter or a low line, and no two
groups have the same name. -/
def Reading.nameLetter (reading : Reading) (letters : List Char) (c : Char) : Option Reading :=
  if c = '>' then
    if letters = [] ∨ letters ∈ reading.names then none
    else some ({ reading with names := letters :: reading.names }.openGroup reading.scope.flags)
  else if c = '_' ∨ Text.isLetter c ∨
      letters ≠ [] ∧ (Text.isLetterOrNumber c ∨ c ∈ ['.', '[', ']']) then
    some { reading with place := .name (c :: letters) }
  else none

/-- Reads a character in the flags of a group. Flags without a group hold from there on in the group
around them. -/
def Reading.flagLetter (reading : Reading) (letters : List Char) (c : Char) : Option Reading :=
  let flags := reading.scope.flags.switchAll true letters.reverse
  if c = ':' then
    if letters.head? = some '-' then none else some (reading.openGroup flags)
  else if c = ')' then
    if letters = [] ∨ letters.head? = some '-' then none
    else
      some { reading with
        place := .sequence
        scope := { reading.scope with flags, sequence := reading.scope.sequence.addSwitch } }
  else if c ∈ flagLetters ∧ c ∉ letters then
    some { reading with place := .flags (c :: letters) }
  else none

/-! ## Classes -/

/-- The names of classes among the first 128 characters. -/
def classNames : List String :=
  ["alnum", "alpha", "ascii", "blank", "cntrl", "digit", "graph", "lower", "print", "punct",
    "space", "upper", "word", "xdigit"]

/-- Whether the class that is named behind a bracket is one of all other characters, and how many
characters its name takes with all signs; there may be no such name. -/
def named? : List Char → Option (Bool × Nat)
  | ':' :: text =>
    let negated := text.head? = some '^'
    let text := if negated then text.drop 1 else text
    let name := text.takeWhile (· ≠ ':')
    if String.ofList name ∈ classNames ∧ [':', ']'].isPrefixOf (text.drop name.length) then
      some (negated, (if negated then 4 else 3) + name.length)
    else none
  | _ => none

/-- The first character of a text that is no blank; the sign that begins a comment counts as one,
the first time. -/
def visible? (commented : Bool) : List Char → Option Char
  | [] => none
  | c :: text =>
    if Text.isBlank c then visible? commented text
    else if c = '#' ∧ ¬ commented then visible? true text
    else some c

/-- The character in front of which a dash may make a range. -/
def Reading.ahead (reading : Reading) (rest : List Char) : Option Char :=
  if reading.scope.flags.ignoresBlanks then (visible? false rest).or rest.head? else rest.head?

/-- Reads a character in front of a member of a class. -/
def Reading.member (reading : Reading) (c : Char) (rest : List Char) : Option Reading :=
  if c = '[' then
    match named? rest with
    | some (negated, length) =>
      if reading.scope.flags.allowsNamed negated then
        some { reading.addMember 0 with passing := length }
      else none
    | none => some reading.openClass
  else if c = ']' then reading.closeClass
  else if c ∈ ['&', '-', '~'] ∧ rest.head? = some c then some reading.operator
  else if c = '\\' then some { reading with place := .escape .low }
  else reading.literal .low { c }

/-- Reads a character that stands for itself at the beginning of a class, and what comes next is at
the given place. -/
def Reading.leading (reading : Reading) (c : Char) (next : Place) : Option Reading :=
  if reading.scope.flags.allowsMember { c } then some { reading.addMember 0 with place := next }
  else none

/-- Reads a character behind a member of a class. A dash makes a range unless the class ends behind
it or it is the first half of an operator. -/
def Reading.behindMember (reading : Reading) (first : Option Char) (c : Char) (rest : List Char) :
    Option Reading :=
  if c = '-' ∧ reading.ahead rest ∉ [some ']', some '-'] then
    first.map fun first => { reading with place := .high first }
  else (reading.addMember 0).member c rest

/-! ## Walking -/

/-- Whether blanks and comments may stand at a place. -/
def Place.allowsBlanks : Place → Bool
  | .escape _ | .extension | .angle | .name _ | .flags _ => false
  | _ => true

/-- Reads a character that means something where it stands. -/
def Reading.read (reading : Reading) (c : Char) (rest : List Char) : Option Reading :=
  match reading.place with
  | .sequence => reading.item c rest
  | .escape spot => reading.escape spot c
  | .digits left value asByte spot => reading.digit left value asByte spot c
  | .group =>
    if c = '?' then some { reading with place := .extension }
    else (reading.openGroup reading.scope.flags).item c rest
  | .extension =>
    if c = 'P' then some { reading with place := .angle }
    else if c = '<' then some { reading with place := .name [] }
    else reading.flagLetter [] c
  | .angle => if c = '<' then some { reading with place := .name [] } else none
  | .name letters => reading.nameLetter letters c
  | .flags letters => reading.flagLetter letters c
  | .opened =>
    if c = '^' then
      if reading.scope.flags.allowsComplement then some { reading with place := .negated } else none
    else if c = '-' then reading.leading c .dashes
    else if c = ']' then reading.leading c .member
    else reading.member c rest
  | .negated =>
    if c = '-' then reading.leading c .dashes
    else if c = ']' then reading.leading c .member
    else reading.member c rest
  | .dashes => if c = '-' then reading.leading c .dashes else reading.member c rest
  | .member => reading.member c rest
  | .low first => reading.behindMember first c rest
  | .high first =>
    if c = '\\' then some { reading with place := .escape (.high first) }
    else reading.literal (.high first) { c }

/-- One step of the machine, along a character with the given ones behind it. -/
def Reading.step (reading : Reading) (c : Char) (rest : List Char) : Option Reading :=
  let ignoresBlanks := reading.scope.flags.ignoresBlanks && reading.place.allowsBlanks
  if 0 < reading.passing then some { reading with passing := reading.passing - 1 }
  else if reading.inComment then some { reading with inComment := c ≠ '\n' }
  else if ignoresBlanks && Text.isBlank c then some reading
  else if ignoresBlanks && c = '#' then some { reading with inComment := true }
  else reading.read c rest

def Reading.run (reading : Reading) : List Char → Option Reading
  | [] => some reading
  | c :: text => (reading.step c text).bind fun reading => reading.run text

def Reading.isFinal (reading : Reading) : Bool :=
  reading.place = .sequence ∧ reading.outer = [] ∧ reading.scope.height ≤ greatestHeight

def isWellFormed (text : List Char) : Bool :=
  ((({} : Reading).run text).map Reading.isFinal).getD false

end SubscriptionFields.Telemetry.Pattern
