import SubscriptionFields.Journal.Note
import SubscriptionFields.Telemetry.Number
import SubscriptionFields.Telemetry.Pattern.Reading
import SubscriptionFields.Text.Blank
import SubscriptionFields.Text.Letter

/-!
# Directives

A directive says how much a log lets through. It is a level by itself, or it says which records it
is about and, behind an equals sign, the level for them. Records are chosen by the beginning of
their target and, in brackets behind it, by the name of a span around them and a field in braces. A
directive that names records but no level lets everything through.

A directive is read from left to right by a machine that knows in which part it is and where that
part began. Blanks around a directive are passed over on this walk, but the parts are cut out of
the whole text, by the places that the walk found; so behind blanks no part is what it seems.
-/

set_option autoImplicit false

namespace SubscriptionFields

/-- How many levels there are up to this one, from the most serious on. -/
def Level.verbosity : Level → Nat
  | .error => 1
  | .warn => 2
  | .info => 3
  | .debug => 4
  | .trace => 5

namespace Telemetry

/-! ## Levels -/

/-- The names of the thresholds, from nothing to everything. -/
def thresholdNames : List String :=
  ["off", "error", "warn", "info", "debug", "trace"]

/-- The threshold that lets everything through. -/
def everything : Nat := 5

/-- The natural number that a text of digits stands for; a plus sign may stand in front. -/
def natural? (text : List Char) : Option Nat :=
  let digits := match text with
    | '+' :: rest => rest
    | other => other
  if digits ≠ [] ∧ digits.all Char.isDigit then
    some (digits.foldl (fun number digit => 10 * number + (digit.toNat - '0'.toNat)) 0)
  else none

/-- The threshold under a name, in letters of any case. -/
def named? (text : List Char) : Option Nat :=
  thresholdNames.findIdx? fun name => name.toList = text.map Char.toLower

/-- The threshold that a text names or numbers. -/
def threshold? (text : List Char) : Option Nat :=
  match natural? text with
  | some number => if number ≤ everything then some number else none
  | none => named? text

/-! ## Fields -/

/-- What a directive asks of the fields of a record or span: there is a field of a certain name,
and it has a certain value if one is given. -/
structure FieldTest where
  name : String
  value : Option String
  deriving DecidableEq, Repr

/-- The test in a text. The name ends at the first equals sign and the value at the second; the
value is a number or a well-formed pattern. -/
def FieldTest.parse? (text : List Char) : Option FieldTest :=
  match text.span (· ≠ '=') with
  | ([], []) => none
  | (name, []) => some { name := String.ofList name, value := none }
  | (name, _ :: rest) =>
    let value := rest.takeWhile (· ≠ '=')
    if isNumber value || Pattern.isWellFormed value then
      some { name := String.ofList name, value := some (String.ofList value) }
    else none

/-! ## Reading -/

/-- What a filter says about some records. -/
structure Directive where
  /-- How the targets of the records begin. -/
  target : Option String := none
  /-- The span that the records are in. -/
  span : Option String := none
  /-- The field that the records, or the spans around them, have. -/
  field : Option FieldTest := none
  /-- How many levels it lets through, from the most serious on. -/
  threshold : Nat := everything
  deriving DecidableEq, Repr

/-- What is being read, and where it began. -/
inductive Part where
  /-- Nothing has been read. -/
  | start
  /-- A level by itself, or a target. -/
  | target (first : Nat)
  /-- The name of a span, behind a bracket. -/
  | span (first : Nat)
  /-- A field, behind a brace. -/
  | field (first : Nat)
  /-- The bracket behind a closing brace. -/
  | bracket
  /-- The equals sign behind a closing bracket; there need not be one. -/
  | equals
  /-- A level, behind an equals sign. -/
  | level (first : Nat)
  deriving DecidableEq, Repr

/-- A directive that has been read up to some place. -/
structure Reading where
  part : Part
  directive : Directive
  deriving DecidableEq, Repr

/-- The characters of a text with the places where they begin, counted in bytes. -/
def placed (place : Nat) : List Char → List (Char × Nat)
  | [] => []
  | c :: text => (c, place) :: placed (place + c.utf8Size) text

def dropTo : Nat → List Char → List Char
  | 0, text => text
  | _, [] => []
  | place + 1, c :: text => dropTo (place + 1 - c.utf8Size) text

def takeTo : Nat → List Char → List Char
  | 0, _ => []
  | _, [] => []
  | place + 1, c :: text => c :: takeTo (place + 1 - c.utf8Size) text

/-- The part of a text from a place up to another one. -/
def slice (text : List Char) (first last : Nat) : List Char :=
  takeTo (last - first) (dropTo first text)

/-- Whether a directive may begin with a character, unless it begins with a bracket. -/
def beginsDirective (c : Char) : Bool :=
  Text.isLetterOrNumber c || c = '-' || c = ':' || c = '_'

/-- The character at a place is read; the parts of the directive are cut out of the text. -/
def Reading.step (text : List Char) (reading : Reading) (read : Char × Nat) : Option Reading :=
  let (c, place) := read
  let directive := reading.directive
  match reading.part with
  | .start =>
    if c = '[' then some { reading with part := .span (place + 1) }
    else if beginsDirective c then some { reading with part := .target place }
    else none
  | .target first =>
    let named := { directive with target := some (String.ofList (slice text first place)) }
    if c = '=' then some { part := .level (place + 1), directive := named }
    else if c = '[' then some { part := .span (place + 1), directive := named }
    else some reading
  | .span first =>
    let name := slice text first place
    let named := { directive with span := some (String.ofList name) }
    if c = ']' then some { part := .equals, directive := named }
    else if c = '\x7b' then
      some { part := .field (place + 1), directive := if name = [] then directive else named }
    else some reading
  | .field first =>
    if c = '\x7d' then do
      let field ← FieldTest.parse? (slice text first place)
      return { part := .bracket, directive := { directive with field := some field } }
    else some reading
  | .bracket => if c = ']' then some { reading with part := .equals } else none
  | .equals => if c = '=' then some { reading with part := .level (place + 1) } else none
  | .level _ => some reading

/-- The directive when all of a text has been read. -/
def Reading.finish? (text : List Char) (reading : Reading) : Option Directive :=
  match reading.part with
  | .target first =>
    let whole := dropTo first text
    match threshold? whole with
    | some threshold => some { reading.directive with threshold }
    | none => some { reading.directive with target := some (String.ofList whole) }
  | .level first =>
    let level := dropTo first text
    if level = [] then some reading.directive
    else (threshold? level).map fun threshold => { reading.directive with threshold }
  | .equals => some reading.directive
  | _ => none

def trimmed (text : List Char) : List Char :=
  ((text.dropWhile Text.isBlank).reverse.dropWhile Text.isBlank).reverse

/-- The directive in a text, if it is well formed. -/
def Directive.parse? (text : List Char) : Option Directive := do
  let reading ← (placed 0 (trimmed text)).foldlM (Reading.step text)
    { part := .start, directive := {} }
  reading.finish? text

/-! ## Choosing records -/

/-- Whether a directive is about records whatever span they are in. One that names a span, or asks
for the value of a field, is about the inside of certain spans. -/
def Directive.isUnconditional (directive : Directive) : Bool :=
  directive.span.isNone && (directive.field.bind FieldTest.value).isNone

/-- Whether a directive is about a record outside all spans, which has the given fields. -/
def Directive.concerns (directive : Directive) (target : String) (fields : List String) : Bool :=
  directive.isUnconditional &&
    (match directive.target with
    | none => true
    | some beginning => beginning.toList.isPrefixOf target.toList) &&
    (match directive.field with
    | none => true
    | some field => fields.contains field.name)

/-- How special a directive is. A longer target counts for more than a field; a directive for all
targets is the least special one. -/
def Directive.weight (directive : Directive) : Nat :=
  let target := match directive.target with
    | none => 0
    | some beginning => beginning.length + 1
  2 * target + (if directive.field.isSome then 1 else 0)

end Telemetry

end SubscriptionFields
