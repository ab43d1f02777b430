import SubscriptionFields.Session.Script

/-!
# Trials of an adapter

A trial runs one scripted result through the adapter of its type and polls what comes out, first
the handle and then the stream, a limited number of times. What is left at the end is dropped.
-/

set_option autoImplicit false

namespace SubscriptionFields

/-- What one poll of a subscription finds; `ε` is the error of a handle that failed. -/
inductive PollAnswer (ε : Type) where
  | handlePending
  | handleReady
  | handleFailed (error : ε)
  | pending
  | item (value : SourceValue)
  | failure (error : FieldError)
  | ended
  | closed

/-- What a poll of a stream finds, as an answer of a subscription. -/
def PollAnswer.ofStream {ε : Type} : StreamAnswer SourceValue → PollAnswer ε
  | .pending => .pending
  | .item value => .item value
  | .failure error => .failure error
  | .ended => .ended

/-- What is left of an adapted result. -/
inductive Adapted where
  | handle (handle : SubscriptionHandle)
  | stream (stream : SubscriptionStream)
  | over

namespace Adapted

/-- Polls what is left up to `count` times. A handle that fails ends the trial, and so does the
end of the stream unless polling is to go on past it. -/
def pollMany (pastEnd : Bool) : Nat → Adapted → Noted (List (PollAnswer FieldError) × Adapted)
  | 0, left => pure ([], left)
  | _, .over => pure ([], .over)
  | count + 1, .handle waiting => do
    match ← waiting.poll with
    | .pending next =>
      let (answers, left) ← pollMany pastEnd count (.handle next)
      return (.handlePending :: answers, left)
    | .ready (.error error) => return ([.handleFailed error], .over)
    | .ready (.ok opened) =>
      let (answers, left) ← pollMany pastEnd count (.stream opened)
      return (.handleReady :: answers, left)
  | count + 1, .stream current => do
    match ← current.poll with
    | (.ended, next) =>
      if pastEnd then
        let (answers, left) ← pollMany pastEnd count (.stream next)
        return (.ended :: answers, left)
      else
        return ([.ended], .stream next)
    | (answer, next) =>
      let (answers, left) ← pollMany pastEnd count (.stream next)
      return (.ofStream answer :: answers, left)

def drop : Adapted → Noted Unit
  | .handle waiting => waiting.drop
  | .stream current => current.drop
  | .over => pure ()

end Adapted

/-- What a trial finds. -/
structure TrialReport where
  /-- Whether the operation's own handle came out; asked only of the strategy that promises it. -/
  sameHandle : Option Bool
  answers : List (PollAnswer FieldError)

/-- Whether a canonical handle is an operation's own handle. -/
def SubscriptionHandle.isDirect : SubscriptionHandle → Bool
  | .direct _ => true
  | _ => false

/-- One script through the adapter of its type, polled up to `count` times. -/
def CompiledAdapter.trial {type : ReturnType} (adapter : CompiledAdapter type) (label : String)
    (script : Script) (pastEnd : Bool) (count : Nat) : Noted TrialReport := do
  let result := script.result label none [] type
  type.announce result
  let handle := adapter.convert result
  let (answers, left) ← Adapted.pollMany pastEnd count (.handle handle)
  left.drop
  return { sameHandle := if adapter.kind = .identity then some handle.isDirect else none, answers }

end SubscriptionFields
