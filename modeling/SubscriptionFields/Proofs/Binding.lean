import SubscriptionFields.Field.Descriptor

/-!
# What a call binds

The binders of a call are evaluated in the midst of everything else that a subscription does. Here
they are looked at alone. Each binder answers for itself, at its own place and on the context of the
request; the call binds the values that they answer, or fails with the first error among the
answers, and the binders behind the first error are not evaluated. `value_bindCall` and
`notes_bindCall` say that binding comes to this: what it leaves are the notes of those evaluations,
one after the other, and what is observed of it (`observations_bindCall`) are their beginnings.
`subscribe_of_bound_ok` and `subscribe_of_bound_error` say what a subscription does afterwards.
-/

set_option autoImplicit false

namespace SubscriptionFields

/-- Whether something happens to the binders or the operation of a call. -/
def Observation.ofCall : Observation → Bool
  | .bindReceiver _ => true
  | .bindArgument _ _ => true
  | .invoked _ _ _ => true
  | _ => false

/-- Whether an operation is called. -/
def Observation.isInvocation : Observation → Bool
  | .invoked _ _ _ => true
  | _ => false

/-! ## One evaluation -/

namespace Evaluation

variable (evaluation : Evaluation) (begins : Observation)

/-- The effects of a caller's expression are seen by nobody but the caller. -/
theorem filterMap_caused {γ : Type} (kind : Note → Option γ)
    (unseen : ∀ effect, kind (.caused effect) = none) (effects : List String) :
    (effects.map Note.caused).filterMap kind = [] := by
  simp [List.filterMap_map, unseen]

/-- An evaluation is observed to begin. -/
@[simp] theorem observations_carryOut :
    (evaluation.carryOut begins).observations = [begins] :=
  congrArg (begins :: ·) (filterMap_caused Note.observation? (fun _ => rfl) evaluation.effects)

/-- An evaluation logs nothing. -/
@[simp] theorem records_carryOut : (evaluation.carryOut begins).records = [] :=
  filterMap_caused Note.record? (fun _ => rfl) evaluation.effects

end Evaluation

namespace ReceiverBinder

variable (binder : ReceiverBinder) (label : String) (call : Nat) (ctx : RequestContext)

/-- Evaluating the receiver gives the binder's answer. -/
@[simp] theorem value_bind :
    (binder.bind label call ctx).value = binder.evaluate { call, position := 0 } ctx := rfl

/-- Evaluating the receiver is observed once. -/
@[simp] theorem observations_bind :
    (binder.bind label call ctx).observations = [.bindReceiver label] :=
  Evaluation.observations_carryOut _ _

/-- Evaluating the receiver logs nothing. -/
@[simp] theorem records_bind : (binder.bind label call ctx).records = [] :=
  Evaluation.records_carryOut _ _

end ReceiverBinder

namespace ArgumentBinder

variable (binder : ArgumentBinder) (label : String) (call : Nat) (ctx : RequestContext)
  (index : Nat)

/-- Evaluating an argument gives the binder's answer. -/
@[simp] theorem value_bind :
    (binder.bind label call ctx index).value =
      binder.evaluate { call, position := index + 1 } ctx := rfl

/-- Evaluating an argument is observed once. -/
@[simp] theorem observations_bind :
    (binder.bind label call ctx index).observations = [.bindArgument label index] :=
  Evaluation.observations_carryOut _ _

/-- Evaluating an argument logs nothing. -/
@[simp] theorem records_bind : (binder.bind label call ctx index).records = [] :=
  Evaluation.records_carryOut _ _

end ArgumentBinder

namespace Binding

/-! ## Answers -/

/-- The answers of argument binders of which the first stands at the given index. -/
def argumentAnswers (call : Nat) (ctx : RequestContext) (arguments : List ArgumentBinder)
    (index : Nat) : List (Except FieldError SourceValue) :=
  (arguments.zipIdx index).map fun entry =>
    entry.1.evaluate { call, position := entry.2 + 1 } ctx

/-- The values that a call binds, or the error of the first binder that fails. -/
def outcome (receiver : ReceiverBinder) (arguments : List ArgumentBinder) (call : Nat)
    (ctx : RequestContext) : Except FieldError (SourceValue × List SourceValue) := do
  let receiver ← receiver.evaluate { call, position := 0 } ctx
  let arguments ← (argumentAnswers call ctx arguments 0).mapM id
  return (receiver, arguments)

/-- The answers of all binders of a call, the receiver's first. -/
def answers (receiver : ReceiverBinder) (arguments : List ArgumentBinder) (call : Nat)
    (ctx : RequestContext) : List (Except FieldError SourceValue) :=
  receiver.evaluate { call, position := 0 } ctx :: argumentAnswers call ctx arguments 0

/-- Converting what was found adds no error and removes none. -/
theorem return_eq_error_iff {α β : Type} {error : FieldError} (found : Except FieldError α)
    (convert : α → β) : (do return convert (← found)) = .error error ↔ found = .error error := by
  cases found with
  | error first =>
    constructor
    · intro same
      cases same
      rfl
    · intro same
      cases same
      rfl
  | ok value => exact iff_of_false nofun nofun

/-- Answers fail with one of them if it is an error and those in front of it are not. -/
theorem mapM_id_eq_error_iff {error : FieldError} (answers : List (Except FieldError SourceValue)) :
    answers.mapM id = .error error ↔
      ∃ before after, answers = before ++ .error error :: after ∧
        ∀ answer ∈ before, answer.isOk := by
  induction answers with
  | nil =>
    refine iff_of_false nofun ?_
    rintro ⟨before, after, split, -⟩
    cases before <;> cases split
  | cons answer answers ih =>
    rw [List.mapM_cons]
    cases answer with
    | error first =>
      constructor
      · intro failed
        cases failed
        exact ⟨[], answers, rfl, nofun⟩
      · rintro ⟨before, after, split, succeed⟩
        cases before with
        | nil =>
          cases split
          rfl
        | cons found before =>
          -- the first answer is an error, so none can be in front of it
          cases split
          cases succeed _ List.mem_cons_self
    | ok value =>
      refine (return_eq_error_iff (answers.mapM id) (value :: ·)).trans (ih.trans ?_)
      constructor
      · rintro ⟨before, after, rfl, succeed⟩
        refine ⟨.ok value :: before, after, rfl, ?_⟩
        intro answer listed
        rcases List.mem_cons.1 listed with rfl | behind
        · rfl
        · exact succeed answer behind
      · rintro ⟨before, after, split, succeed⟩
        cases before with
        | nil => cases split
        | cons found before =>
          cases split
          exact ⟨before, after, rfl, fun answer listed =>
            succeed answer (List.mem_cons_of_mem _ listed)⟩

/-- A call fails with the error of the first binder that fails. -/
theorem outcome_eq_error_iff {receiver : ReceiverBinder} {arguments : List ArgumentBinder}
    {call : Nat} {ctx : RequestContext} {error : FieldError} :
    outcome receiver arguments call ctx = .error error ↔
      ∃ before after, answers receiver arguments call ctx = before ++ .error error :: after ∧
        ∀ answer ∈ before, answer.isOk := by
  rw [← mapM_id_eq_error_iff, answers, List.mapM_cons, outcome]
  cases receiver.evaluate { call, position := 0 } ctx with
  | error first =>
    constructor
    · intro same
      cases same
      rfl
    · intro same
      cases same
      rfl
  | ok value =>
    -- a receiver in front fails with the arguments, whether it is paired with them or listed
    exact (return_eq_error_iff _ (value, ·)).trans (return_eq_error_iff _ (value :: ·)).symm

/-! ## Traces -/

/-- The part of a trace, with one entry for every answer, that belongs to the answers up to the
first error. -/
def upToError {α : Type} (trace : List α) (answers : List (Except FieldError SourceValue)) :
    List α :=
  trace.take ((answers.takeWhile Except.isOk).length + 1)

/-- What the binders of a call are observed to do: they are evaluated from left to right, the
receiver first, up to the first that fails. -/
def trace (label : String) (receiver : ReceiverBinder) (arguments : List ArgumentBinder)
    (call : Nat) (ctx : RequestContext) : List Observation :=
  upToError (.bindReceiver label :: (List.range arguments.length).map (.bindArgument label))
    (receiver.evaluate { call, position := 0 } ctx :: argumentAnswers call ctx arguments 0)

/-- The evaluations of argument binders of which the first stands at the given index. -/
def argumentEvaluations (label : String) (call : Nat) (ctx : RequestContext)
    (arguments : List ArgumentBinder) (index : Nat) :
    List (Noted (Except FieldError SourceValue)) :=
  (arguments.zipIdx index).map fun entry => entry.1.bind label call ctx entry.2

/-- The evaluations of all binders of a call, the receiver's first. -/
def evaluations (label : String) (receiver : ReceiverBinder) (arguments : List ArgumentBinder)
    (call : Nat) (ctx : RequestContext) : List (Noted (Except FieldError SourceValue)) :=
  receiver.bind label call ctx :: argumentEvaluations label call ctx arguments 0

/-- Each evaluation has its binder's answer. -/
theorem map_value_evaluations (label : String) (receiver : ReceiverBinder)
    (arguments : List ArgumentBinder) (call : Nat) (ctx : RequestContext) :
    (evaluations label receiver arguments call ctx).map Noted.value =
      answers receiver arguments call ctx := by
  simp only [evaluations, argumentEvaluations, answers, argumentAnswers, List.map_cons,
    List.map_map]
  rfl

/-- The binders of a call as they are seen to be evaluated, from the first to the last. -/
def order (label : String) (arity : Nat) : List Observation :=
  .bindReceiver label :: (List.range arity).map (.bindArgument label)

/-- Each evaluation is observed once, as that of its binder. -/
theorem map_observations_evaluations (label : String) (receiver : ReceiverBinder)
    (arguments : List ArgumentBinder) (call : Nat) (ctx : RequestContext) :
    (evaluations label receiver arguments call ctx).map Noted.observations =
      (order label arguments.length).map fun seen => [seen] := by
  have places : List.range arguments.length = arguments.zipIdx.map Prod.snd := by
    rw [List.zipIdx_map_snd, List.range_eq_range']
  simp only [order, evaluations, argumentEvaluations, List.map_cons, List.map_map, places,
    ReceiverBinder.observations_bind]
  congr 1
  exact List.map_congr_left fun entry _ => entry.1.observations_bind label call ctx entry.2

/-- What is observed of the first evaluations, with all the notes that they leave, is that their
binders are evaluated. -/
theorem filterMap_take_evaluations (label : String) (receiver : ReceiverBinder)
    (arguments : List ArgumentBinder) (call : Nat) (ctx : RequestContext) (count : Nat) :
    (((evaluations label receiver arguments call ctx).take count).flatMap Noted.notes).filterMap
        Note.observation? =
      (order label arguments.length).take count := by
  rw [List.filterMap_flatMap, List.flatMap_def]
  show (List.map Noted.observations _).flatten = _
  rw [List.map_take, map_observations_evaluations, ← List.map_take, ← List.flatMap_def,
    List.flatMap_singleton']

/-- A value does not end a trace. -/
theorem upToError_ok {α : Type} (entry : α) (trace : List α) (value : SourceValue)
    (answers : List (Except FieldError SourceValue)) :
    upToError (entry :: trace) (.ok value :: answers) = entry :: upToError trace answers := rfl

/-- Nothing but binders is seen while a call is bound. -/
theorem mem_trace {label : String} {receiver : ReceiverBinder} {arguments : List ArgumentBinder}
    {call : Nat} {ctx : RequestContext} {seen : Observation}
    (observed : seen ∈ trace label receiver arguments call ctx) :
    seen = .bindReceiver label ∨ ∃ index < arguments.length, seen = .bindArgument label index := by
  rcases List.mem_cons.1 (List.mem_of_mem_take observed) with receiver | argument
  · exact .inl receiver
  · obtain ⟨index, within, rfl⟩ := List.mem_map.1 argument
    exact .inr ⟨index, List.mem_range.1 within, rfl⟩

end Binding

namespace OperationDescriptor

open Binding

/-! ## Binding -/

/-- Arguments are bound to what their binders answer, up to the first error. -/
theorem value_bindArguments (label : String) (call : Nat) (ctx : RequestContext)
    (arguments : List ArgumentBinder) (index : Nat) :
    (bindArguments label call ctx index arguments).value =
      (argumentAnswers call ctx arguments index).mapM id := by
  induction arguments generalizing index with
  | nil => rfl
  | cons binder binders ih =>
    -- the binders behind the first stand one place further
    have rest := ih (index + 1)
    unfold argumentAnswers at rest ⊢
    rw [List.zipIdx_cons, List.map_cons, List.mapM_cons, ← rest]
    simp only [bindArguments, Noted.value_bind, ArgumentBinder.value_bind, id_eq]
    cases binder.evaluate { call, position := index + 1 } ctx with
    | error error => rfl
    | ok value =>
      simp only [Noted.value_bind, Noted.value_pure]
      cases (bindArguments label call ctx (index + 1) binders).value <;> rfl

/-- Binding arguments carries their evaluations out in order, up to the first that fails, and does
nothing else. -/
theorem notes_bindArguments (label : String) (call : Nat) (ctx : RequestContext)
    (arguments : List ArgumentBinder) (index : Nat) :
    (bindArguments label call ctx index arguments).notes =
      (upToError (argumentEvaluations label call ctx arguments index)
        (argumentAnswers call ctx arguments index)).flatMap Noted.notes := by
  induction arguments generalizing index with
  | nil => rfl
  | cons binder binders ih =>
    have rest := ih (index + 1)
    unfold argumentAnswers argumentEvaluations at rest ⊢
    rw [List.zipIdx_cons, List.map_cons, List.map_cons]
    simp only [bindArguments, Noted.notes_bind, ArgumentBinder.value_bind]
    cases binder.evaluate { call, position := index + 1 } ctx with
    | error error => rfl
    | ok value =>
      rw [upToError_ok, List.flatMap_cons, ← rest]
      simp

variable (descriptor : OperationDescriptor) (call : Nat) (ctx : RequestContext)

/-- A call binds what its binders answer, up to the first error. -/
theorem value_bindCall :
    (descriptor.bindCall call ctx).value =
      outcome descriptor.receiver descriptor.arguments call ctx := by
  simp only [bindCall, outcome, Noted.value_bind, ReceiverBinder.value_bind]
  cases descriptor.receiver.evaluate { call, position := 0 } ctx with
  | error error => rfl
  | ok receiver =>
    simp only [Noted.value_bind, Noted.value_pure, value_bindArguments]
    cases (argumentAnswers call ctx descriptor.arguments 0).mapM id <;> rfl

/-- Binding a call carries the evaluations of its binders out in order, up to the first that fails,
and does nothing else. -/
theorem notes_bindCall :
    (descriptor.bindCall call ctx).notes =
      (upToError (evaluations descriptor.label descriptor.receiver descriptor.arguments call ctx)
        (answers descriptor.receiver descriptor.arguments call ctx)).flatMap Noted.notes := by
  simp only [bindCall, evaluations, answers, Noted.notes_bind, ReceiverBinder.value_bind]
  cases descriptor.receiver.evaluate { call, position := 0 } ctx with
  | error error => rfl
  | ok receiver =>
    rw [upToError_ok, List.flatMap_cons, ← notes_bindArguments]
    simp

/-- What is observed of binding a call is that its binders are evaluated in order, up to the first
that fails. -/
theorem observations_bindCall :
    (descriptor.bindCall call ctx).observations =
      trace descriptor.label descriptor.receiver descriptor.arguments call ctx := by
  rw [Noted.observations, notes_bindCall]
  exact filterMap_take_evaluations descriptor.label descriptor.receiver descriptor.arguments call
    ctx _

/-- The effects that binding a call has are those of the evaluations that are carried out. -/
theorem effects_bindCall :
    (descriptor.bindCall call ctx).effects =
      (upToError (evaluations descriptor.label descriptor.receiver descriptor.arguments call ctx)
        (answers descriptor.receiver descriptor.arguments call ctx)).flatMap Noted.effects := by
  rw [Noted.effects, notes_bindCall, List.filterMap_flatMap]
  rfl

/-! ## Subscribing -/

variable {descriptor call ctx}

/-- Where a binder fails, the evaluations have left all the notes that there are. -/
theorem notes_subscribe_of_bound_error {error : FieldError}
    (failed : outcome descriptor.receiver descriptor.arguments call ctx = .error error) :
    (descriptor.subscribe call ctx).notes = (descriptor.bindCall call ctx).notes := by
  rw [← value_bindCall] at failed
  simp [subscribe, failed]

/-- Where no binder fails, the notes of the call follow those of the evaluations. -/
theorem notes_subscribe_of_bound_ok {receiver : SourceValue} {arguments : List SourceValue}
    (bound : outcome descriptor.receiver descriptor.arguments call ctx =
      .ok (receiver, arguments)) :
    (descriptor.subscribe call ctx).notes =
      (descriptor.bindCall call ctx).notes ++ (descriptor.call receiver arguments).notes := by
  rw [← value_bindCall] at bound
  simp [subscribe, bound]

/-- Where a binder fails, nothing is called and the handle has the binder's error already. -/
theorem subscribe_of_bound_error {error : FieldError}
    (failed : outcome descriptor.receiver descriptor.arguments call ctx = .error error) :
    (descriptor.subscribe call ctx).value = .completed (.error error) ∧
      (descriptor.subscribe call ctx).observations =
        trace descriptor.label descriptor.receiver descriptor.arguments call ctx := by
  constructor
  · rw [← value_bindCall] at failed
    simp [subscribe, failed]
  · rw [Noted.observations, notes_subscribe_of_bound_error failed]
    exact observations_bindCall descriptor call ctx

/-- Where no binder fails, the operation is called with what was bound. -/
theorem subscribe_of_bound_ok {receiver : SourceValue} {arguments : List SourceValue}
    (bound : outcome descriptor.receiver descriptor.arguments call ctx =
      .ok (receiver, arguments)) :
    (descriptor.subscribe call ctx).value = (descriptor.call receiver arguments).value ∧
      (descriptor.subscribe call ctx).observations =
        trace descriptor.label descriptor.receiver descriptor.arguments call ctx ++
          (descriptor.call receiver arguments).observations := by
  constructor
  · rw [← value_bindCall] at bound
    simp [subscribe, bound]
  · rw [Noted.observations, notes_subscribe_of_bound_ok bound, List.filterMap_append]
    exact congrArg (· ++ _) (observations_bindCall descriptor call ctx)

end OperationDescriptor

end SubscriptionFields
