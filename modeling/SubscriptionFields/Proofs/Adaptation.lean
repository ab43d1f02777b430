import Mathlib.Data.List.Forall2
import SubscriptionFields.Proofs.AdapterSelection
import SubscriptionFields.Proofs.Polling

/-!
# Adaptation is a simulation

An adapted result is a canonical handle around what the operation returned. Polling it is compared
here with polling the operation's own result: any number of polls of the one and the same number of
polls of the other leave the same notes, so that no poll is added, left out or made early, and they
find corresponding answers. Since this holds of every number of polls, it holds of each single one.

An adapted stream answers as the operation's stream does; an element is carried over as an object
in the same allocation (`Element.Carries`). A handle of the operation is polled once with each poll
of the adapted handle, up to the one that resolves both. A stream that is returned at once is not
touched by the handle around it.
-/

set_option autoImplicit false

namespace SubscriptionFields

/-! ## Corresponding answers -/

/-- How a value carries an element. An object is carried as it is. A pointer is carried as an
object in the same allocation, from which the pointer itself can be recovered; where there is no
pointer there is no object. -/
def Element.Carries : (element : Element) → element.Item → SourceValue → Prop
  | .object, item, value => value = item
  | .shared _, none, value => value = none
  | .shared payload, some pointer, value => ∃ object, value = some object ∧
      object.allocation = pointer.object.allocation ∧ object.downcast payload = .ok pointer

/-- Corresponding answers of two streams: the second one has for every element of the first a value
that carries it, and everything else unchanged. -/
inductive Element.Answers (element : Element) :
    StreamAnswer element.Item → StreamAnswer SourceValue → Prop
  | pending : Answers element .pending .pending
  | item (item : element.Item) (value : SourceValue) (carried : element.Carries item value) :
      Answers element (.item item) (.item value)
  | failure (error : FieldError) : Answers element (.failure error) (.failure error)
  | ended : Answers element .ended .ended

/-- An adapted stream simulates the operation's own one: any number of polls of it are that many
polls of the own stream and find the corresponding answers, past the end as well. -/
structure Element.StreamSimulates (element : Element) (own : EventStream element.Item)
    (adapted : SubscriptionStream) : Prop where
  notes_eq : ∀ count, (pollTimes SubscriptionStream.poll count adapted).notes =
    (pollTimes EventStream.poll count own).notes
  polled_once : ∀ count, (pollTimes SubscriptionStream.poll count adapted).observations =
    List.replicate count (.streamPolled own.op)
  answers : ∀ count, List.Forall₂ element.Answers (pollTimes EventStream.poll count own).value.1
    (pollTimes SubscriptionStream.poll count adapted).value.1

/-- What polling an adapted handle finds where polling the operation's own one finds `own`. -/
inductive Element.Finds (element : Element) :
    Progress (Handle (EventStream element.Item)) (Except FieldError (EventStream element.Item)) →
      SubscriptionHandle.Found → Prop
  | pending (own : Handle (EventStream element.Item)) (adapted : SubscriptionHandle) :
      Finds element (.pending own) (.pending adapted)
  | failed (error : FieldError) :
      Finds element (.ready (.error error)) (.ready (.error error))
  | resolved (own : EventStream element.Item) (adapted : SubscriptionStream)
      (simulates : element.StreamSimulates own adapted) :
      Finds element (.ready (.ok own)) (.ready (.ok adapted))

/-- An adapted handle simulates the operation's own one: any number of polls, up to the one that
resolves it, are that many polls of the own handle and find it pending, failed or resolved as
those do. -/
structure Element.HandleSimulates (element : Element) (own : Handle (EventStream element.Item))
    (adapted : SubscriptionHandle) : Prop where
  notes_eq : ∀ count, (pollUpTo SubscriptionHandle.poll count adapted).notes =
    (pollUpTo Handle.poll count own).notes
  polled_once : ∀ count waiting,
    (pollUpTo SubscriptionHandle.poll count adapted).value = .pending waiting →
      (pollUpTo SubscriptionHandle.poll count adapted).observations =
        List.replicate count (.handlePolled own.op)
  finds : ∀ count, element.Finds (pollUpTo Handle.poll count own).value
    (pollUpTo SubscriptionHandle.poll count adapted).value

/-- A completed handle around a stream that was returned at once: its first poll resolves it and
does nothing else, so that the stream is still unpolled. -/
def Element.Completes (element : Element) (own : EventStream element.Item)
    (adapted : SubscriptionHandle) : Prop :=
  ∃ opened, adapted.poll = pure (.ready (.ok opened)) ∧ element.StreamSimulates own opened

/-- How the adapted handle of an accepted return type goes with the operation's result, for each of
the strategies. -/
def ReturnType.Simulates :
    (type : ReturnType) → AdapterKind → type.Result → SubscriptionHandle → Prop
  | .async (.stream .object), .identity, own, adapted =>
    adapted = .direct own ∧ Element.object.HandleSimulates own adapted
  | .async (.stream (.shared payload)), .awaitThenUpcast, own, adapted =>
    (Element.shared payload).HandleSimulates own adapted
  | .stream .object, .wrapAsCompleted, own, adapted => Element.object.Completes own adapted
  | .stream (.shared payload), .wrapAsCompleted, own, adapted =>
    (Element.shared payload).Completes own adapted
  | _, _, _, _ => False

/-! ## Streams -/

/-- An element that is passed on is carried. -/
theorem Element.carries_upcast (element : Element) (item : element.Item) :
    element.Carries item (element.upcast item) := by
  cases element with
  | object => exact rfl
  | shared payload =>
    cases item with
    | none => exact rfl
    | some pointer => exact ⟨pointer.upcast, rfl, rfl, pointer.downcast_upcast⟩

/-- An answer with its element passed on corresponds to the answer. -/
theorem Element.answers_map (element : Element) (answer : StreamAnswer element.Item) :
    element.Answers answer (answer.map element.upcast) := by
  cases answer with
  | pending => exact .pending
  | item item => exact .item item _ (element.carries_upcast item)
  | failure error => exact .failure error
  | ended => exact .ended

namespace EventStream

variable {α : Type}

/-- Polling a stream some number of times is observed so many times. -/
theorem observations_pollTimes (count : Nat) (stream : EventStream α) :
    (pollTimes poll count stream).observations =
      List.replicate count (.streamPolled stream.op) := by
  induction count generalizing stream with
  | zero => rfl
  | succ count ih =>
    have same : stream.next.2.op = stream.op := by
      obtain ⟨op, steps⟩ := stream
      cases steps with
      | nil => rfl
      | cons step steps => cases step <;> rfl
    have rest := ih stream.next.2
    rw [same] at rest
    rw [List.replicate_succ, ← rest]
    simp [pollTimes, poll, observe, Noted.observations, Note.observation?]

end EventStream

/-- A machine around a stream that converts what every poll of the stream finds simulates it, if
converted answers correspond. -/
theorem Element.simulates_of_poll (element : Element)
    {machine : EventStream element.Item → SubscriptionStream}
    {convert : StreamAnswer element.Item → StreamAnswer SourceValue}
    (agree : ∀ own, (machine own).poll = own.poll.map (Prod.map convert machine))
    (carried : ∀ answer, element.Answers answer (convert answer))
    (own : EventStream element.Item) : element.StreamSimulates own (machine own) := by
  have agreeTimes (count : Nat) := pollTimes_map agree count own
  refine ⟨fun count => ?_, fun count => ?_, fun count => ?_⟩
  · rw [agreeTimes]
    rfl
  · rw [agreeTimes]
    exact own.observations_pollTimes count
  · rw [agreeTimes]
    exact List.forall₂_map_right_iff.2 (List.forall₂_same.2 fun answer _ => carried answer)

/-- A stream whose elements are passed on simulates the stream inside. -/
theorem Element.upcast_simulates (element : Element) (own : EventStream element.Item) :
    element.StreamSimulates own (.upcast element own) :=
  element.simulates_of_poll (fun own => Noted.bind_pure_eq_map _ own.poll) element.answers_map own

/-- The operation's own stream of objects simulates itself. -/
theorem Element.direct_simulates (own : EventStream SourceValue) :
    Element.object.StreamSimulates own (.direct own) := by
  have agree (own : EventStream SourceValue) :
      (SubscriptionStream.direct own).poll = own.poll.map (Prod.map id .direct) :=
    Noted.bind_pure_eq_map _ own.poll
  refine Element.object.simulates_of_poll agree (fun answer => ?_) own
  cases answer with
  | pending => exact .pending
  | item item => exact .item item _ rfl
  | failure error => exact .failure error
  | ended => exact .ended

/-! ## Handles -/

namespace Handle

variable {α : Type}

/-- A poll that finds a handle pending does nothing else, and leaves the handle of the same
operation. -/
theorem poll_of_pending {handle next : Handle (EventStream α)}
    (found : handle.poll.value = .pending next) :
    handle.poll.observations = [.handlePolled handle.op] ∧ next.op = handle.op := by
  obtain ⟨op, pending, outcome⟩ := handle
  cases outcome with
  | never =>
    cases found
    exact ⟨rfl, rfl⟩
  | failed error =>
    cases pending with
    | zero => cases found
    | succ pending =>
      cases found
      exact ⟨rfl, rfl⟩
  | resolved stream =>
    cases pending with
    | zero => cases found
    | succ pending =>
      cases found
      exact ⟨rfl, rfl⟩

/-- A handle that still waits was polled at every poll and did nothing else. -/
theorem observations_pollUpTo {handle waiting : Handle (EventStream α)} {count : Nat}
    (found : (pollUpTo poll count handle).value = .pending waiting) :
    (pollUpTo poll count handle).observations =
      List.replicate count (.handlePolled handle.op) := by
  induction count generalizing handle with
  | zero => rfl
  | succ count ih =>
    cases first : handle.poll.value with
    | ready answer =>
      rw [pollUpTo_of_ready first] at found
      cases found
    | pending next =>
      rw [pollUpTo_of_pending first] at found ⊢
      obtain ⟨seen, same⟩ := poll_of_pending first
      have rest := ih found
      rw [same] at rest
      rw [List.replicate_succ, ← rest]
      simp only [Noted.observations, List.filterMap_append]
      exact congrArg (· ++ _) seen

end Handle

/-- A machine around a handle that passes on what every poll of the handle finds simulates it, if
the streams that it resolves to simulate the handle's. -/
theorem Element.handleSimulates_of_poll (element : Element)
    {machine : Handle (EventStream element.Item) → SubscriptionHandle}
    {opened : EventStream element.Item → SubscriptionStream}
    (agree : ∀ own, (machine own).poll = own.poll.map (Progress.map machine (Except.map opened)))
    (simulates : ∀ own, element.StreamSimulates own (opened own))
    (own : Handle (EventStream element.Item)) : element.HandleSimulates own (machine own) := by
  have agreeTimes (count : Nat) := pollUpTo_map agree count own
  refine ⟨fun count => ?_, fun count waiting found => ?_, fun count => ?_⟩
  · rw [agreeTimes]
    rfl
  · rw [agreeTimes] at found ⊢
    cases inner : (pollUpTo Handle.poll count own).value with
    | pending next => exact Handle.observations_pollUpTo inner
    | ready answer =>
      rw [Noted.value_map, inner] at found
      cases found
  · rw [agreeTimes, Noted.value_map]
    cases (pollUpTo Handle.poll count own).value with
    | pending next => exact .pending next (machine next)
    | ready answer =>
      cases answer with
      | error error => exact .failed error
      | ok stream => exact .resolved stream (opened stream) (simulates stream)

/-- The operation's own handle simulates itself. -/
theorem Element.direct_handleSimulates (own : Handle (EventStream SourceValue)) :
    Element.object.HandleSimulates own (.direct own) :=
  Element.object.handleSimulates_of_poll (fun own => Noted.bind_pure_eq_map _ own.poll)
    Element.direct_simulates own

/-- An awaited handle simulates the handle inside. -/
theorem Element.awaiting_handleSimulates (element : Element)
    (own : Handle (EventStream element.Item)) :
    element.HandleSimulates own (.awaiting element own) :=
  element.handleSimulates_of_poll (fun own => Noted.bind_pure_eq_map _ own.poll)
    element.upcast_simulates own

/-- A stream in a completed handle is there at the first poll, and still unpolled. -/
theorem Element.completed_completes (element : Element) (own : EventStream element.Item) :
    element.Completes own (.completed (.ok (.upcast element own))) :=
  ⟨.upcast element own, rfl, element.upcast_simulates own⟩

/-! ## Adapted results -/

/-- The adapter of a return type turns every result into a handle that simulates it. -/
theorem ReturnType.simulates_convert {type : ReturnType} {adapter : CompiledAdapter type}
    (found : type.returnAdapter = some adapter) (result : type.Result) :
    type.Simulates adapter.kind result (adapter.convert result) := by
  cases selects_of_returnAdapter found with
  | canonical => exact ⟨rfl, Element.direct_handleSimulates result⟩
  | awaited payload => exact (Element.shared payload).awaiting_handleSimulates result
  | completed element =>
    cases element with
    | object => exact Element.object.completed_completes result
    | shared payload => exact (Element.shared payload).completed_completes result

/-- An accepted return type compiles, and whatever its operation returns, the adapted handle
simulates it poll for poll: the operation's own handle is passed through, an awaited one is polled
once with each poll until both resolve, and a stream that is there at once is handed out unpolled
by the first poll. -/
theorem adapted_result_simulates (type : ReturnType) (shape : Shape)
    (accepted : type.describe.classify = .ok shape) (result : type.Result) :
    ∃ adapter, CompiledAdapter.compile type shape = .ok adapter ∧
      type.Simulates adapter.kind result (adapter.convert result) := by
  obtain ⟨adapter, found, kind⟩ := ReturnType.exists_returnAdapter_of_classify accepted
  exact ⟨adapter, CompiledAdapter.compile_eq_ok_iff.2 ⟨found, kind⟩,
    ReturnType.simulates_convert found result⟩

/-- A handle that is pending once and then resolves to a stream of one pointer, whose payload is an
object itself. -/
def nestedObjectHandle : Handle (EventStream (Option (Shared objectTypeName))) where
  op := "nested"
  pending := 1
  outcome := .resolved
    { op := "nested"
      steps := [.item (some
        { object := .boxed (.entry 1) (.plain (.entry 0) textTypeName (.single (.text "payload")))
          typed := rfl })] }

/-- An object inside an object is adapted like any other payload. -/
theorem adapted_result_simulates_nested_object :
    (ReturnType.async (.stream (.shared objectTypeName))).describe.classify =
        .ok (.async { type := .erased }) ∧
      ∃ adapter,
        CompiledAdapter.compile (.async (.stream (.shared objectTypeName)))
            (.async { type := .erased }) = .ok adapter ∧
          (ReturnType.async (.stream (.shared objectTypeName))).Simulates adapter.kind
            nestedObjectHandle (adapter.convert nestedObjectHandle) :=
  ⟨rfl, adapted_result_simulates (.async (.stream (.shared objectTypeName)))
    (.async { type := .erased }) rfl nestedObjectHandle⟩

end SubscriptionFields
