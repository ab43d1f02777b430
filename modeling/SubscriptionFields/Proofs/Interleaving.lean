import SubscriptionFields.Proofs.Permanence

/-!
# What one step of a shared registry can do

Callers that share a registry take their steps in an arbitrary order. `SharedRegistry.step_outcome`
lists once what the next step of a caller does, by how far the caller has come: a registration is
refused or prepared first and is published later, any other call is performed at once, and a call
that has returned does nothing. No later file looks into the steps again.

Two consequences hold for every schedule. To the registry a step does what some call would do, so
the registry only grows (`extends_run`) and keeps its invariant (`invariant_of_run`). And every turn
of a caller brings its own call forward and no other one (`turnsLeft_of_run`), so that a caller with
two turns has its answer.
-/

set_option autoImplicit false

namespace SubscriptionFields

namespace CallProgress

/-- The answer that a call has come to. A registration that is refused while it is prepared has its
answer then; the step that is left to its caller changes nothing. -/
def answer? : CallProgress → Option CallResult
  | .finished result => some result
  | .prepared (.error error) => some (.registered (.error error))
  | _ => none

/-- For how many more steps of its caller a call goes on. -/
def turnsLeft : CallProgress → Nat
  | .waiting (.register _) => 2
  | .waiting _ => 1
  | .prepared _ => 1
  | .finished _ => 0

/-- A call without further steps has returned. -/
theorem exists_finished_of_turnsLeft {progress : CallProgress} (done : progress.turnsLeft = 0) :
    ∃ result, progress = .finished result := by
  unfold turnsLeft at done
  split at done
  · omega
  · omega
  · omega
  · rename_i result
    exact ⟨result, rfl⟩

end CallProgress

namespace Registry

/-- How the first phase of a registration ends. -/
theorem prepare_outcome (registry : Registry) (registration : Registration) :
    (∃ error, (registry.prepare registration).value = .error error ∧
      (registry.perform (.register registration)).value =
        (registry, .registered (.error error))) ∨
    (∃ descriptor, (registry.prepare registration).value = .ok descriptor ∧
      registration.compile.value = .ok descriptor) := by
  cases prepared : (registry.prepare registration).value with
  | error error =>
    refine .inl ⟨error, rfl, ?_⟩
    simp [perform, register, prepared, commit]
  | ok descriptor =>
    refine .inr ⟨descriptor, rfl, ?_⟩
    unfold prepare at prepared
    split at prepared
    · cases prepared
    · cases compiles : registration.compile.value with
      | error reason => simp [compiles] at prepared
      | ok compiled =>
        simp only [Noted.value_bind, compiles, Noted.value_pure] at prepared
        exact congrArg _ (Except.ok.inj prepared)

end Registry

namespace SharedRegistry

/-- A shared registry after a step of one caller. -/
def moved (state : SharedRegistry) (caller : Nat) (registry : Registry) (progress : CallProgress) :
    SharedRegistry where
  registry
  callers := state.callers.set caller progress

/-! ## One step -/

/-- How a step of a caller goes. -/
inductive StepOutcome (state : SharedRegistry) (caller : Nat) : SharedRegistry → Prop
  /-- There is no such caller. -/
  | absent (here : state.callers[caller]? = none) : StepOutcome state caller state
  /-- A registration is refused while it is prepared. -/
  | refused (registration : Registration) (error : RegistryError)
      (here : state.callers[caller]? = some (.waiting (.register registration)))
      (performed : (state.registry.perform (.register registration)).value =
        (state.registry, .registered (.error error))) :
      StepOutcome state caller (state.moved caller state.registry (.prepared (.error error)))
  /-- A registration is prepared. -/
  | prepared (registration : Registration) (descriptor : OperationDescriptor)
      (here : state.callers[caller]? = some (.waiting (.register registration)))
      (compiled : registration.compile.value = .ok descriptor) :
      StepOutcome state caller (state.moved caller state.registry (.prepared (.ok descriptor)))
  /-- Any other call is performed at once. -/
  | performed (call : RegistryCall) (here : state.callers[caller]? = some (.waiting call))
      (single : (CallProgress.waiting call).turnsLeft = 1) :
      StepOutcome state caller
        (state.moved caller (state.registry.perform call).value.1
          (.finished (state.registry.perform call).value.2))
  /-- A registration that is prepared is published. -/
  | committed (descriptor : OperationDescriptor)
      (here : state.callers[caller]? = some (.prepared (.ok descriptor))) :
      StepOutcome state caller
        (state.moved caller (state.registry.insert descriptor).value.1
          (.finished (.registered (state.registry.insert descriptor).value.2)))
  /-- A registration that was refused returns. -/
  | returned (error : RegistryError)
      (here : state.callers[caller]? = some (.prepared (.error error))) :
      StepOutcome state caller
        (state.moved caller state.registry (.finished (.registered (.error error))))
  /-- A call that has returned does nothing. -/
  | idle (result : CallResult) (here : state.callers[caller]? = some (.finished result)) :
      StepOutcome state caller (state.moved caller state.registry (.finished result))

/-- A step of a caller moves that caller on from the registry as it is found. -/
theorem value_step_of_some {state : SharedRegistry} {caller : Nat} {progress : CallProgress}
    (here : state.callers[caller]? = some progress) :
    (state.step caller).value =
      state.moved caller (advance state.registry progress).value.1
        (advance state.registry progress).value.2 := by
  simp only [step, here]
  rfl

/-- A step ends in one of the ways of its caller's progress. -/
theorem step_outcome (state : SharedRegistry) (caller : Nat) :
    StepOutcome state caller (state.step caller).value := by
  cases here : state.callers[caller]? with
  | none =>
    have stays : (state.step caller).value = state := by simp only [step, here, Noted.value_pure]
    rw [stays]
    exact .absent here
  | some progress =>
    rw [value_step_of_some here]
    cases progress with
    | waiting call =>
      cases call with
      | register registration =>
        rcases state.registry.prepare_outcome registration with
          ⟨error, prepared, performed⟩ | ⟨descriptor, prepared, compiled⟩
        · simpa [advance, prepared] using StepOutcome.refused registration error here performed
        · simpa [advance, prepared] using
            StepOutcome.prepared registration descriptor here compiled
      | insert descriptor => exact .performed (.insert descriptor) here rfl
      | freeze => exact .performed .freeze here rfl
    | prepared answer =>
      cases answer with
      | error error => exact .returned error here
      | ok descriptor => exact .committed descriptor here
    | finished result => exact .idle result here

/-! ## Callers -/

/-- Moving one caller leaves all others where they are. -/
theorem callers_moved {state : SharedRegistry} {caller : Nat} {progress : CallProgress}
    (here : state.callers[caller]? = some progress) (registry : Registry) (next : CallProgress)
    (other : Nat) :
    (state.moved caller registry next).callers[other]? =
      if caller = other then some next else state.callers[other]? := by
  have within : caller < state.callers.length := (List.getElem?_eq_some_iff.1 here).1
  show (state.callers.set caller next)[other]? = _
  rw [List.getElem?_set, if_pos within]

/-- A step brings its own caller one turn forward and no other one. -/
theorem turnsLeft_of_step {state : SharedRegistry} {other : Nat} {progress : CallProgress}
    (there : state.callers[other]? = some progress) (caller : Nat) :
    ∃ next, (state.step caller).value.callers[other]? = some next ∧
      next.turnsLeft = progress.turnsLeft - if caller = other then 1 else 0 := by
  have path := state.step_outcome caller
  generalize (state.step caller).value = after at path ⊢
  have moves {old next : CallProgress} (registry : Registry)
      (here : state.callers[caller]? = some old) (less : next.turnsLeft = old.turnsLeft - 1) :
      ∃ found, (state.moved caller registry next).callers[other]? = some found ∧
        found.turnsLeft = progress.turnsLeft - if caller = other then 1 else 0 := by
    rw [callers_moved here]
    by_cases same : caller = other
    · rw [same, there] at here
      cases here
      exact ⟨next, if_pos same, by rw [if_pos same, less]⟩
    · exact ⟨progress, by rw [if_neg same, there], by rw [if_neg same]; omega⟩
  cases path with
  | absent here =>
    have different : caller ≠ other := by
      intro same
      rw [same, there] at here
      cases here
    exact ⟨progress, there, by rw [if_neg different]; omega⟩
  | refused registration error here performed => exact moves _ here rfl
  | prepared registration descriptor here compiled => exact moves _ here rfl
  | performed call here single => exact moves _ here (by rw [single]; rfl)
  | committed descriptor here => exact moves _ here rfl
  | returned error here => exact moves _ here rfl
  | idle result here => exact moves _ here rfl

/-! ## Schedules -/

/-- A run goes on from where its first step leads. -/
@[simp] theorem run_cons (state : SharedRegistry) (caller : Nat) (schedule : List Nat) :
    (state.run (caller :: schedule)).value = ((state.step caller).value.run schedule).value := rfl

/-- A schedule may be run in two parts. -/
theorem run_append (state : SharedRegistry) (earlier later : List Nat) :
    (state.run (earlier ++ later)).value = ((state.run earlier).value.run later).value := by
  induction earlier generalizing state with
  | nil => rfl
  | cons caller earlier ih =>
    rw [List.cons_append, run_cons, run_cons, ih]

/-- A call loses one of its further steps whenever its caller is scheduled. -/
theorem turnsLeft_of_run (schedule : List Nat) {state : SharedRegistry} {caller : Nat}
    {progress : CallProgress} (here : state.callers[caller]? = some progress) :
    ∃ next, (state.run schedule).value.callers[caller]? = some next ∧
      next.turnsLeft = progress.turnsLeft - schedule.count caller := by
  induction schedule generalizing state progress with
  | nil => exact ⟨progress, here, by simp⟩
  | cons first schedule ih =>
    obtain ⟨middle, moved, less⟩ := turnsLeft_of_step here first
    obtain ⟨next, found, rest⟩ := ih moved
    refine ⟨next, found, ?_⟩
    rw [rest, less, List.count_cons]
    simp only [beq_iff_eq]
    omega

/-- A call whose caller has had two turns has returned. -/
theorem exists_finished_of_count {registry : Registry} {calls : List RegistryCall} {caller : Nat}
    {schedule : List Nat} (within : caller < calls.length) (turns : 2 ≤ schedule.count caller) :
    ∃ result, ((start registry calls).run schedule).value.callers[caller]? =
      some (.finished result) := by
  have here : (start registry calls).callers[caller]? = some (.waiting calls[caller]) := by
    simp [start, within]
  have most : (CallProgress.waiting calls[caller]).turnsLeft ≤ 2 := by
    cases calls[caller] <;> simp [CallProgress.turnsLeft]
  obtain ⟨next, found, left⟩ := turnsLeft_of_run schedule here
  have none_left : next.turnsLeft = 0 := by omega
  obtain ⟨result, rfl⟩ := CallProgress.exists_finished_of_turnsLeft none_left
  exact ⟨result, found⟩

/-! ## The registry -/

/-- One step of a caller has at most one effect on the registry. -/
theorem step_effect (state : SharedRegistry) (caller : Nat) :
    Registry.Effect state.registry (state.step caller).value.registry := by
  have path := state.step_outcome caller
  generalize (state.step caller).value = after at path ⊢
  cases path with
  | absent here => exact .none rfl
  | refused registration error here performed => exact .none rfl
  | prepared registration descriptor here compiled => exact .none rfl
  | performed call here single => exact state.registry.perform_effect call
  | committed descriptor here => exact state.registry.insert_effect descriptor
  | returned error here => exact .none rfl
  | idle result here => exact .none rfl

/-- A schedule never takes anything away from the registry. -/
theorem extends_run (schedule : List Nat) (state : SharedRegistry) :
    state.registry.Extends (state.run schedule).value.registry := by
  induction schedule generalizing state with
  | nil => exact Registry.Extends.refl state.registry
  | cons caller schedule ih =>
    exact (Registry.extends_of_effect (state.step_effect caller)).trans (ih _)

/-- The invariant of the registry is kept by every schedule. -/
theorem invariant_of_run (schedule : List Nat) {state : SharedRegistry}
    (holds : state.registry.Invariant) : (state.run schedule).value.registry.Invariant := by
  induction schedule generalizing state with
  | nil => exact holds
  | cons caller schedule ih =>
    exact ih (Registry.invariant_of_effect holds (state.step_effect caller))

/-- Along a schedule the registry only grows. -/
theorem extends_of_prefix {earlier schedule : List Nat} (state : SharedRegistry)
    (before : earlier <+: schedule) :
    (state.run earlier).value.registry.Extends (state.run schedule).value.registry := by
  obtain ⟨later, rfl⟩ := before
  rw [run_append]
  exact extends_run later (state.run earlier).value

end SharedRegistry

end SubscriptionFields
