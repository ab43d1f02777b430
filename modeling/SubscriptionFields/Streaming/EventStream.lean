import SubscriptionFields.Journal.Noted

/-!
# Streams and handles

A stream and a handle are state machines that advance one step per poll. What a stream will do is
the list of its steps; after the last one every poll finds the end. A handle is pending for a
number of polls and then resolves, to an error or to a value; it may also stay pending forever.

Polling returns the answer together with the machine as it is afterwards. A handle that resolved
is gone, so its answer comes without a machine. Every poll, and the end of every machine, is noted
under the label of the operation that made it.
-/

set_option autoImplicit false

namespace SubscriptionFields

/-! ## Streams -/

/-- What a stream does at one poll. -/
inductive StreamStep (α : Type) where
  /-- Nothing is ready yet. -/
  | pending
  /-- An element. -/
  | item (value : α)
  /-- A failure among the elements. -/
  | failure (error : FieldError)
  /-- The end of the stream; it may go on when polled again. -/
  | finish

/-- A stream of elements: the operation that made it and the steps that are left. -/
structure EventStream (α : Type) where
  op : String
  steps : List (StreamStep α)

/-- What a poll of a stream finds. -/
inductive StreamAnswer (α : Type) where
  | pending
  | item (value : α)
  | failure (error : FieldError)
  | ended

def StreamAnswer.map {α β : Type} (convert : α → β) : StreamAnswer α → StreamAnswer β
  | .pending => .pending
  | .item value => .item (convert value)
  | .failure error => .failure error
  | .ended => .ended

namespace EventStream

variable {α : Type}

/-- What the next poll finds, and the stream after it. -/
def next (stream : EventStream α) : StreamAnswer α × EventStream α :=
  match stream.steps with
  | [] => (.ended, stream)
  | step :: steps =>
    let after := { stream with steps }
    match step with
    | .pending => (.pending, after)
    | .item value => (.item value, after)
    | .failure error => (.failure error, after)
    | .finish => (.ended, after)

def poll (stream : EventStream α) : Noted (StreamAnswer α × EventStream α) := do
  observe (.streamPolled stream.op)
  return stream.next

/-- The end of a stream that nobody will poll again. -/
def drop (stream : EventStream α) : Noted Unit :=
  observe (.streamDropped stream.op)

end EventStream

/-! ## Handles -/

/-- What becomes of a handle once it stops being pending. -/
inductive HandleOutcome (α : Type) where
  | never
  | failed (error : FieldError)
  | resolved (value : α)

/-- An asynchronous handle: the operation that made it, the polls for which it is still pending,
and what becomes of it then. -/
structure Handle (α : Type) where
  op : String
  pending : Nat
  outcome : HandleOutcome α

/-- What a poll finds: a machine that is still pending, or an answer. -/
inductive Progress (σ α : Type) where
  | pending (machine : σ)
  | ready (answer : α)

/-- What was found with the machine converted, and the answer too. -/
def Progress.map {σ τ α β : Type} (machine : σ → τ) (answer : α → β) :
    Progress σ α → Progress τ β
  | .pending state => .pending (machine state)
  | .ready result => .ready (answer result)

namespace Handle

variable {α : Type}

def next (handle : Handle α) : Progress (Handle α) (Except FieldError α) :=
  match handle.outcome, handle.pending with
  | .never, _ => .pending handle
  | _, pending + 1 => .pending { handle with pending }
  | .failed error, 0 => .ready (.error error)
  | .resolved value, 0 => .ready (.ok value)

/-- The end of a handle that nobody will poll again. -/
def drop (handle : Handle α) : Noted Unit :=
  observe (.handleDropped handle.op)

/-- One poll of a handle to a stream. The stream comes into being as the handle resolves, and the
handle ends with that poll. -/
def poll (handle : Handle (EventStream α)) :
    Noted (Progress (Handle (EventStream α)) (Except FieldError (EventStream α))) := do
  observe (.handlePolled handle.op)
  match handle.next with
  | .pending handle => return .pending handle
  | .ready (.error error) =>
    handle.drop
    return .ready (.error error)
  | .ready (.ok stream) =>
    observe (.streamBuilt stream.op)
    handle.drop
    return .ready (.ok stream)

end Handle

end SubscriptionFields
