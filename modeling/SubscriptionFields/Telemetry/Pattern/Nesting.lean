import SubscriptionFields.Telemetry.Pattern.Flags

/-!
# Nesting of a pattern

The parts of a pattern lie inside each other: a group around its content, a repetition around what
is repeated, alternatives and sequences around their items, a class around its members, an operator
of classes around its operands. The height of a part is how many parts lie inside each other on the
longest way down from it; a single character has height zero. A sequence or union of one item is
this item.
-/

set_option autoImplicit false

namespace SubscriptionFields.Telemetry.Pattern

def greatestHeight : Nat := 250

/-! ## Sequences -/

/-- A sequence of items, or a union of members, that has been read so far. -/
structure Sequence where
  items : Nat := 0
  /-- The greatest height of an item. -/
  highest : Nat := 0
  /-- The height of the last item, if it can be repeated. -/
  last : Option Nat := none
  deriving DecidableEq, Repr

def Sequence.add (sequence : Sequence) (height : Nat) : Sequence where
  items := sequence.items + 1
  highest := max sequence.highest height
  last := some height

/-- A sequence with a change of flags at the end, which cannot be repeated. -/
def Sequence.addSwitch (sequence : Sequence) : Sequence :=
  { sequence with items := sequence.items + 1, last := none }

def Sequence.repeatLast? (sequence : Sequence) : Option Sequence :=
  sequence.last.map fun height =>
    { sequence with highest := max sequence.highest (height + 1), last := some (height + 1) }

def Sequence.height (sequence : Sequence) : Nat :=
  if sequence.items ≤ 1 then sequence.highest else sequence.highest + 1

/-! ## Groups -/

/-- The content of a group that is open, or of the whole pattern. -/
structure Scope where
  flags : Flags := {}
  /-- The greatest height of an alternative in front, if there is one. -/
  alternatives : Option Nat := none
  sequence : Sequence := {}
  deriving DecidableEq, Repr

def Scope.add (scope : Scope) (height : Nat) : Scope :=
  { scope with sequence := scope.sequence.add height }

/-- A scope behind the sign that begins another alternative. -/
def Scope.alternative (scope : Scope) : Scope where
  flags := scope.flags
  alternatives := some (max (scope.alternatives.getD 0) scope.sequence.height)

def Scope.height (scope : Scope) : Nat :=
  match scope.alternatives with
  | none => scope.sequence.height
  | some highest => max highest scope.sequence.height + 1

/-! ## Classes -/

/-- The content of a class that is open. -/
structure Members where
  /-- The height of what is left of the last operator, if there is one. -/
  left : Option Nat := none
  union : Sequence := {}
  deriving DecidableEq, Repr

def Members.add (members : Members) (height : Nat) : Members :=
  { members with union := members.union.add height }

/-- The height of what is in a class. All operators bind alike, and to the left. -/
def Members.height (members : Members) : Nat :=
  match members.left with
  | none => members.union.height
  | some left => max left members.union.height + 1

def Members.operator (members : Members) : Members where
  left := some members.height

end SubscriptionFields.Telemetry.Pattern
