import SubscriptionFields.Contract.ReturnType

/-!
# Canonical streams and handles

Whatever a field's operation returns, a subscriber sees a handle that resolves to a stream of
optional objects. A canonical stream is the operation's own stream of objects, or a stream of
shared pointers whose elements are passed on as objects one at a time. A canonical handle is the
operation's own handle, a handle whose stream will be passed on in that way, or an outcome that is
there already.

No machine below polls ahead: one poll of the canonical stream or handle is at most one poll of
what the operation returned.
-/

set_option autoImplicit false

namespace SubscriptionFields

/-- The elements that can be passed on as objects without a copy. -/
inductive Element where
  | object
  | shared (payload : String)
  deriving DecidableEq, Repr

namespace Element

@[reducible] def returnType : Element → ReturnType
  | .object => .object
  | .shared payload => .shared payload

@[reducible] def Item (element : Element) : Type := element.returnType.Result

/-- An element passed on as an optional object. An object stays what it is, even if its payload is
an object itself. -/
def upcast : (element : Element) → element.Item → SourceValue
  | .object, value => value
  | .shared _, pointer => pointer.map Shared.upcast

end Element

/-! ## Streams of objects -/

/-- A stream of optional objects. -/
inductive SubscriptionStream where
  /-- The operation's own stream of objects. -/
  | direct (inner : EventStream SourceValue)
  /-- The operation's stream, each element passed on as an object. -/
  | upcast (element : Element) (inner : EventStream element.Item)

namespace SubscriptionStream

/-- The label of the operation behind a stream. -/
def op : SubscriptionStream → String
  | .direct inner => inner.op
  | .upcast _ inner => inner.op

/-- What the next poll finds, and the stream after it. -/
def next : SubscriptionStream → StreamAnswer SourceValue × SubscriptionStream
  | .direct inner => (inner.next.1, .direct inner.next.2)
  | .upcast element inner => (inner.next.1.map element.upcast, .upcast element inner.next.2)

/-- The number of steps that are left before only the end can be found. -/
def remaining : SubscriptionStream → Nat
  | .direct inner => inner.steps.length
  | .upcast _ inner => inner.steps.length

/-- One poll of a stream, which is one poll of the stream inside. -/
def poll : SubscriptionStream → Noted (StreamAnswer SourceValue × SubscriptionStream)
  | .direct inner => do
    let found ← inner.poll
    return (found.1, .direct found.2)
  | .upcast element inner => do
    let found ← inner.poll
    return (found.1.map element.upcast, .upcast element found.2)

/-- The end of a stream that nobody will poll again. -/
def drop : SubscriptionStream → Noted Unit
  | .direct inner => inner.drop
  | .upcast _ inner => inner.drop

/-- What a poll of a stream finds is its next step. -/
theorem value_poll (stream : SubscriptionStream) : stream.poll.value = stream.next := by
  cases stream <;> rfl

/-- A poll that finds anything but the end uses up a step. -/
theorem remaining_next (stream : SubscriptionStream) (h : stream.next.1 ≠ .ended) :
    stream.next.2.remaining < stream.remaining := by
  cases stream with
  | direct inner =>
    obtain ⟨op, steps⟩ := inner
    cases steps with
    | nil => exact absurd rfl h
    | cons step steps => cases step <;> simp [next, EventStream.next, remaining]
  | upcast element inner =>
    obtain ⟨op, steps⟩ := inner
    cases steps with
    | nil => exact absurd rfl h
    | cons step steps => cases step <;> simp [next, EventStream.next, remaining]

end SubscriptionStream

/-! ## Handles to streams of objects -/

/-- A handle that resolves to a stream of optional objects. -/
inductive SubscriptionHandle where
  /-- The operation's own handle. -/
  | direct (inner : Handle (EventStream SourceValue))
  /-- The operation's handle, whose stream will be passed on as a stream of objects. -/
  | awaiting (element : Element) (inner : Handle (EventStream element.Item))
  /-- An outcome that is there before the first poll. -/
  | completed (outcome : Except FieldError SubscriptionStream)

namespace SubscriptionHandle

abbrev Found := Progress SubscriptionHandle (Except FieldError SubscriptionStream)

/-- One poll of a handle, which polls the operation's handle if there is one. -/
def poll : SubscriptionHandle → Noted Found
  | .direct inner => do
    return (← inner.poll).map .direct (Except.map .direct)
  | .awaiting element inner => do
    return (← inner.poll).map (.awaiting element) (Except.map (.upcast element))
  | .completed outcome => return .ready outcome

/-- The end of a handle that nobody will poll again, and of the stream that it holds already. -/
def drop : SubscriptionHandle → Noted Unit
  | .direct inner => inner.drop
  | .awaiting _ inner => inner.drop
  | .completed (.ok stream) => stream.drop
  | .completed (.error _) => pure ()

end SubscriptionHandle

end SubscriptionFields
