import SubscriptionFields.Telemetry.Directive

/-!
# Log filters

A filter is a list of directives between commas. The most special directive that is about a record
decides about it. Of two directives that are equally special, the later one counts. A record that
no directive is about is not let through, so that a filter without directives lets nothing through.
-/

set_option autoImplicit false

namespace SubscriptionFields.Telemetry

/-- A log filter. -/
structure Filter where
  directives : List Directive
  deriving DecidableEq, Repr

/-! ## Reading -/

def pieces : List Char → List (List Char)
  | [] => [[]]
  | c :: text =>
    if c = ',' then [] :: pieces text
    else
      match pieces text with
      | [] => [[c]]
      | piece :: others => (c :: piece) :: others

/-- The filter in a text, if all its directives are well formed. Empty pieces are passed over. -/
def Filter.parse? (text : String) : Option Filter := do
  return { directives := ← ((pieces text.toList).filter (· ≠ [])).mapM Directive.parse? }

/-! ## Decisions -/

/-- The directive that decides about a record outside all spans. -/
def Filter.deciding? (filter : Filter) (target : String) (fields : List String) :
    Option Directive :=
  filter.directives.foldl
    (fun best directive =>
      if directive.concerns target fields ∧
          (best.map Directive.weight).getD 0 ≤ directive.weight then
        some directive
      else best)
    none

/-- Whether a filter lets a record through that is outside all spans. -/
def Filter.admits (filter : Filter) (target : String) (fields : List String) (level : Level) :
    Bool :=
  match filter.deciding? target fields with
  | some directive => level.verbosity ≤ directive.threshold
  | none => false

end SubscriptionFields.Telemetry
