import SubscriptionFields.Journal.Note

/-!
# Noted computations

`Noted α` is a value together with the notes of the computation that led to it. Running one noted
computation after another appends their notes, so the notes of a whole run are in the order in
which things happened.
-/

set_option autoImplicit false

namespace SubscriptionFields

/-- A value with the notes of the computation that led to it. -/
structure Noted (α : Type) where
  value : α
  notes : List Note

namespace Noted

variable {α β : Type}

/-- Doing nothing leaves no note; doing two things one after the other appends their notes. -/
instance : Monad Noted where
  pure value := { value, notes := [] }
  bind first next :=
    let rest := next first.value
    { value := rest.value, notes := first.notes ++ rest.notes }

def observations (noted : Noted α) : List Observation :=
  noted.notes.filterMap Note.observation?

def records (noted : Noted α) : List LogRecord :=
  noted.notes.filterMap Note.record?

/-- The effects that the expressions of callers have had. -/
def effects (noted : Noted α) : List String :=
  noted.notes.filterMap Note.effect?

@[simp] theorem value_pure (value : α) : (pure value : Noted α).value = value := rfl

@[simp] theorem notes_pure (value : α) : (pure value : Noted α).notes = [] := rfl

@[simp] theorem value_bind (first : Noted α) (next : α → Noted β) :
    (first >>= next).value = (next first.value).value := rfl

@[simp] theorem notes_bind (first : Noted α) (next : α → Noted β) :
    (first >>= next).notes = first.notes ++ (next first.value).notes := rfl

end Noted

def observe (observation : Observation) : Noted Unit :=
  { value := (), notes := [.observed observation] }

def log (record : LogRecord) : Noted Unit :=
  { value := (), notes := [.logged record] }

/-- Logs an event inside the given span, or outside of all spans. -/
def logEvent (level : Level) (target message : String) (fields : List LogField)
    (span : Option Span) : Noted Unit :=
  log (.event level target (fields ++ [("message", .text message)]) span)

/-- Records a value on a span. Nothing is recorded outside of all spans, nor on a span that was
not declared with that field. -/
def recordOn (span : Option Span) (field : LogField) : Noted Unit :=
  match span with
  | some span => if field.1 ∈ span.declared then log (.recorded span field) else pure ()
  | none => pure ()

/-! ## What is observed -/

namespace Noted

variable {α β : Type}

@[simp] theorem observations_pure (value : α) : (pure value : Noted α).observations = [] := rfl

@[simp] theorem observations_bind (first : Noted α) (next : α → Noted β) :
    (first >>= next).observations = first.observations ++ (next first.value).observations :=
  List.filterMap_append

@[simp] theorem observations_observe (observation : Observation) :
    (observe observation).observations = [observation] := rfl

@[simp] theorem observations_log (record : LogRecord) : (log record).observations = [] := rfl

@[simp] theorem observations_logEvent (level : Level) (target message : String)
    (fields : List LogField) (span : Option Span) :
    (logEvent level target message fields span).observations = [] := rfl

@[simp] theorem observations_recordOn (span : Option Span) (field : LogField) :
    (recordOn span field).observations = [] := by
  unfold recordOn
  split
  · split <;> rfl
  · rfl

end Noted

end SubscriptionFields
