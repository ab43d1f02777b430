import SubscriptionFields.Proofs.AdapterSelection
import SubscriptionFields.Proofs.Polling
import SubscriptionFields.Proofs.StreamSteps

/-!
# What a result comes to

An operation returns a stream or a handle to one. Which stream its result comes to, if to any, can
be read off the result (`ReturnType.opened?`), and so can the error that its handle fails with and
the number of polls for which it is pending. The adapted handle takes the course of the result: it
resolves to the stream with the elements passed on, fails with the error, or is pending forever
(`course_convert`). It finds no other stream (`opened_of_ready`).
-/

set_option autoImplicit false

namespace SubscriptionFields

variable {α : Type}

/-! ## Handles of operations -/

/-- What becomes of a handle that answers so. -/
def HandleOutcome.ofAnswer : Except FieldError α → HandleOutcome α
  | .error error => .failed error
  | .ok value => .resolved value

namespace Handle

/-- The value that a handle resolves to, if it does. -/
def value? (handle : Handle α) : Option α :=
  match handle.outcome with
  | .resolved value => some value
  | _ => none

/-- The error that a handle fails with, if it does. -/
def error? (handle : Handle α) : Option FieldError :=
  match handle.outcome with
  | .failed error => some error
  | _ => none

/-- What a poll finds is what the handle comes to next. -/
theorem value_poll (handle : Handle (EventStream α)) : handle.poll.value = handle.next := by
  simp only [poll, Noted.value_bind]
  cases handle.next with
  | pending waiting => rfl
  | ready answer => cases answer <;> rfl

/-- A handle is pending for as many polls as it says. -/
theorem answersAfter {handle : Handle (EventStream α)} {answer : Except FieldError (EventStream α)}
    (becomes : handle.outcome = .ofAnswer answer) :
    AnswersAfter poll handle handle.pending answer := by
  obtain ⟨op, pending, outcome⟩ := handle
  cases becomes
  induction pending with
  | zero =>
    refine answersAfter_of_ready ?_
    cases answer <;> rfl
  | succ pending ih =>
    refine answersAfter_of_pending ?_ ih
    cases answer <;> rfl

/-- A handle that never resolves is pending for good. -/
theorem pending_of_never {handle : Handle (EventStream α)} (becomes : handle.outcome = .never)
    (count : Nat) : (pollUpTo poll count handle).value = .pending handle := by
  have first : handle.poll.value = .pending handle := by
    rw [value_poll, next, becomes]
  induction count with
  | zero => rfl
  | succ count ih =>
    rw [pollUpTo_of_pending first]
    exact ih

end Handle

/-! ## Adapted handles -/

namespace SubscriptionHandle

/-- A handle of objects is polled as the operation's own. -/
theorem poll_direct (inner : Handle (EventStream SourceValue)) :
    (direct inner).poll = inner.poll.map (Progress.map direct (Except.map .direct)) :=
  Noted.bind_pure_eq_map _ inner.poll

/-- A handle of shared elements is polled as the operation's own, and its stream converted. -/
theorem poll_awaiting (element : Element) (inner : Handle (EventStream element.Item)) :
    (awaiting element inner).poll =
      inner.poll.map (Progress.map (awaiting element) (Except.map (.upcast element))) :=
  Noted.bind_pure_eq_map _ inner.poll

end SubscriptionHandle

/-- A canonical stream passes a stream of an operation on: step for step it is that stream, with
the elements passed on as objects. -/
def Element.PassesOn (element : Element) (own : EventStream element.Item)
    (stream : SubscriptionStream) : Prop :=
  stream.steps = own.steps.map (.map element.upcast)

/-- A stream of objects is passed on as it is. -/
theorem Element.object_passesOn_direct (own : EventStream SourceValue) :
    Element.object.PassesOn own (.direct own) := by
  have same : StreamStep.map Element.object.upcast = id := by
    funext step
    cases step <;> rfl
  show own.steps = own.steps.map _
  rw [same, List.map_id]

/-- A stream of shared elements is passed on element by element. -/
theorem Element.passesOn_upcast (element : Element) (own : EventStream element.Item) :
    element.PassesOn own (.upcast element own) := rfl

/-! ## Results -/

namespace ReturnType

/-- The stream that a result is or resolves to, with the element that is passed on. -/
def opened? :
    (type : ReturnType) → type.Result → Option (Σ element : Element, EventStream element.Item)
  | .stream .object, own => some ⟨.object, own⟩
  | .stream (.shared payload), own => some ⟨.shared payload, own⟩
  | .async (.stream .object), own => own.value?.map fun stream => ⟨.object, stream⟩
  | .async (.stream (.shared payload)), own =>
    own.value?.map fun stream => ⟨.shared payload, stream⟩
  | _, _ => none

/-- A stream that is returned at once is the stream that the result opens. -/
theorem opened?_stream (element : Element) (own : EventStream element.Item) :
    (ReturnType.stream element.returnType).opened? own = some ⟨element, own⟩ := by
  cases element <;> rfl

/-- A handle opens the stream that it resolves to. -/
theorem opened?_async (element : Element) (own : Handle (EventStream element.Item)) :
    (ReturnType.async (.stream element.returnType)).opened? own =
      own.value?.map fun stream => ⟨element, stream⟩ := by
  cases element <;> rfl

/-- For how many polls a result is awaited. A stream is there at once. -/
def waits : (type : ReturnType) → type.Result → Nat
  | .async _, handle => handle.pending
  | _, _ => 0

/-- The error that the handle of a result fails with, if it does. -/
def failed? : (type : ReturnType) → type.Result → Option FieldError
  | .async _, handle => handle.error?
  | _, _ => none

/-- What becomes of the adapted handle of a result. -/
inductive Course (type : ReturnType) (result : type.Result) (handle : SubscriptionHandle) : Prop
  /-- It resolves to the stream of the result, passed on. -/
  | opens (element : Element) (own : EventStream element.Item) (stream : SubscriptionStream)
      (opened : type.opened? result = some ⟨element, own⟩) (unfailed : type.failed? result = none)
      (passes : element.PassesOn own stream) (same : stream.op = own.op)
      (answers : AnswersAfter SubscriptionHandle.poll handle (type.waits result) (.ok stream))
  /-- It fails. -/
  | fails (error : FieldError) (unopened : type.opened? result = none)
      (failed : type.failed? result = some error)
      (answers : AnswersAfter SubscriptionHandle.poll handle (type.waits result) (.error error))
  /-- It is pending forever. -/
  | hangs (unopened : type.opened? result = none) (unfailed : type.failed? result = none)
      (pending : ∀ count, ∃ waiting,
        (pollUpTo SubscriptionHandle.poll count handle).value = .pending waiting)

/-- A handle around the operation's own one that passes on what every poll of that one finds takes
the course of the operation's handle. -/
theorem course_of_poll (element : Element)
    {machine : Handle (EventStream element.Item) → SubscriptionHandle}
    {opened : EventStream element.Item → SubscriptionStream}
    (agree : ∀ inner, (machine inner).poll =
      inner.poll.map (Progress.map machine (Except.map opened)))
    (passes : ∀ own, element.PassesOn own (opened own)) (same : ∀ own, (opened own).op = own.op)
    (inner : Handle (EventStream element.Item)) :
    (ReturnType.async (.stream element.returnType)).Course inner (machine inner) := by
  have alike : ∀ count, (pollUpTo SubscriptionHandle.poll count (machine inner)).value =
      (pollUpTo Handle.poll count inner).value.map machine (Except.map opened) := by
    intro count
    rw [pollUpTo_map agree, Noted.value_map]
  cases becomes : inner.outcome with
  | never =>
    refine .hangs ?_ ?_ fun count => ?_
    · rw [opened?_async, Handle.value?, becomes]
      rfl
    · rw [failed?, Handle.error?, becomes]
    · rw [alike, Handle.pending_of_never becomes]
      exact ⟨machine inner, rfl⟩
  | failed error =>
    have answers : AnswersAfter Handle.poll inner inner.pending (.error error) :=
      Handle.answersAfter becomes
    refine .fails error ?_ ?_ (answers.map alike)
    · rw [opened?_async, Handle.value?, becomes]
      rfl
    · rw [failed?, Handle.error?, becomes]
  | resolved own =>
    have answers : AnswersAfter Handle.poll inner inner.pending (.ok own) :=
      Handle.answersAfter becomes
    refine .opens element own (opened own) ?_ ?_ (passes own) (same own) (answers.map alike)
    · rw [opened?_async, Handle.value?, becomes]
      rfl
    · rw [failed?, Handle.error?, becomes]

/-- The adapted handle of a result takes the course of the result. -/
theorem course_convert {type : ReturnType} {adapter : CompiledAdapter type}
    (found : type.returnAdapter = some adapter) (result : type.Result) :
    type.Course result (adapter.convert result) := by
  cases selects_of_returnAdapter found with
  | canonical =>
    exact course_of_poll .object SubscriptionHandle.poll_direct Element.object_passesOn_direct
      (fun _ => rfl) result
  | awaited payload =>
    exact course_of_poll (.shared payload) (SubscriptionHandle.poll_awaiting (.shared payload))
      (Element.passesOn_upcast (.shared payload)) (fun _ => rfl) result
  | completed element =>
    exact .opens element result (.upcast element result) (opened?_stream element result) rfl
      (element.passesOn_upcast result) rfl (answersAfter_of_ready rfl)

/-- An adapted handle resolves to nothing but the stream of its result, passed on. -/
theorem opened_of_ready {type : ReturnType} {adapter : CompiledAdapter type}
    (found : type.returnAdapter = some adapter) {result : type.Result} {count : Nat}
    {stream : SubscriptionStream}
    (ready : (pollUpTo SubscriptionHandle.poll count (adapter.convert result)).value =
      .ready (.ok stream)) :
    ∃ element own, type.opened? result = some ⟨element, own⟩ ∧ element.PassesOn own stream := by
  cases course_convert found result with
  | opens element own other opened unfailed passes same answers =>
    cases (answers.eq_of_ready ready).2
    exact ⟨element, own, opened, passes⟩
  | fails error unopened failed answers => cases (answers.eq_of_ready ready).2
  | hangs unopened unfailed pending =>
    obtain ⟨waiting, never⟩ := pending count
    rw [never] at ready
    cases ready

end ReturnType

end SubscriptionFields
