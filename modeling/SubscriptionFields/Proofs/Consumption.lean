import SubscriptionFields.Proofs.DeliverySteps
import SubscriptionFields.Proofs.GivingUp

/-!
# How a delivery uses up its stream

A delivery that may be given up after any number of polls leaves a trace of what it does to its
stream and to its sink. `Consumption` lists the traces that are possible, along the steps that the
stream has: every poll of the stream finds the next step, a value is taken before the stream is
polled again, and after the end, a failure or a refusal the stream is dropped and never polled
again. Wherever the delivery is given up, the stream is dropped at that point.

The statement is about a delivery that is about to poll its stream. For the induction it is said of
a delivery that waits for its sink as well (`Delivery.Leaves`). One step leaves the first part of a
trace (`leaves_step`), hence so does one poll (`leaves_poll`) and any number of them
(`leaves_pollOrDrop`).
-/

set_option autoImplicit false

namespace SubscriptionFields

/-! ## Traces -/

/-- What kind of thing happens. -/
inductive ObservationKind where
  | bound
  | invoked
  | handlePolled
  | handleDropped
  | streamBuilt
  | streamPolled
  | streamDropped
  | published
  | refused
  | reported
  deriving DecidableEq

def Observation.kind : Observation → ObservationKind
  | .bindReceiver _ => .bound
  | .bindArgument _ _ => .bound
  | .invoked _ _ _ => .invoked
  | .handlePolled _ => .handlePolled
  | .handleDropped _ => .handleDropped
  | .streamBuilt _ => .streamBuilt
  | .streamPolled _ => .streamPolled
  | .streamDropped _ => .streamDropped
  | .published _ => .published
  | .refused _ => .refused
  | .reported _ => .reported

/-- What may be observed of a stream with these steps that is delivered to a sink. -/
inductive Consumption (op : String) : List (StreamStep SourceValue) → List Observation → Prop
  /-- The delivery is given up. -/
  | givenUp (steps : List (StreamStep SourceValue)) : Consumption op steps [.streamDropped op]
  | waited (rest : List (StreamStep SourceValue)) (later : List Observation)
      (goesOn : Consumption op rest later) :
      Consumption op (.pending :: rest) (.streamPolled op :: later)
  | took (value : SourceValue) (rest : List (StreamStep SourceValue)) (later : List Observation)
      (goesOn : Consumption op rest later) :
      Consumption op (.item value :: rest) (.streamPolled op :: .published value :: later)
  | refused (value : SourceValue) (rest : List (StreamStep SourceValue)) :
      Consumption op (.item value :: rest)
        [.streamPolled op, .refused value, .streamDropped op]
  /-- The delivery is given up while the sink keeps it waiting with a value. -/
  | withheld (value : SourceValue) (rest : List (StreamStep SourceValue)) :
      Consumption op (.item value :: rest) [.streamPolled op, .streamDropped op]
  | failed (error : FieldError) (rest : List (StreamStep SourceValue)) :
      Consumption op (.failure error :: rest)
        [.streamPolled op, .reported error, .streamDropped op]
  /-- The delivery is given up while the sink keeps it waiting with a failure. -/
  | unheard (error : FieldError) (rest : List (StreamStep SourceValue)) :
      Consumption op (.failure error :: rest) [.streamPolled op, .streamDropped op]
  | ended (rest : List (StreamStep SourceValue)) :
      Consumption op (.finish :: rest) [.streamPolled op, .streamDropped op]
  | exhausted : Consumption op [] [.streamPolled op, .streamDropped op]

/-- Polls of a stream and values that the sink takes, possibly a refusal or the report of a failure,
and the drop of the stream. -/
def Consumed (kinds : List ObservationKind) : Prop :=
  ∃ before last, kinds = before ++ (last ++ [.streamDropped]) ∧
    (∀ kind ∈ before, kind ∈ [.streamPolled, .published]) ∧
    last ∈ [[], [.refused], [.reported]]

/-- The number of polls by which a stream has come to its first failure or its end. -/
def StreamStep.pollsToEnd {α : Type} : List (StreamStep α) → Nat
  | [] => 1
  | .pending :: steps => pollsToEnd steps + 1
  | .item _ :: steps => pollsToEnd steps + 1
  | .failure _ :: _ => 1
  | .finish :: _ => 1

namespace Consumption

variable {op : String} {steps : List (StreamStep SourceValue)} {observed : List Observation}

/-- A delivery polls its stream no more than it takes to come to the first failure or the end. -/
theorem polls_le (consumption : Consumption op steps observed) :
    (observed.map Observation.kind).count .streamPolled ≤ StreamStep.pollsToEnd steps := by
  induction consumption with
  | givenUp steps => exact Nat.zero_le _
  | waited rest later goesOn ih =>
    rw [List.map_cons, Observation.kind, List.count_cons_self]
    exact Nat.succ_le_succ ih
  | took value rest later goesOn ih =>
    rw [List.map_cons, Observation.kind, List.count_cons_self, List.map_cons, Observation.kind,
      List.count_cons_of_ne (by decide)]
    exact Nat.succ_le_succ ih
  | refused value rest => exact Nat.le_add_left 1 _
  | withheld value rest => exact Nat.le_add_left 1 _
  | failed error rest => exact Nat.le_refl 1
  | unheard error rest => exact Nat.le_refl 1
  | ended rest => exact Nat.le_refl 1
  | exhausted => exact Nat.le_refl 1

/-- A stream of which this is left is consumed. -/
theorem consumed (consumption : Consumption op steps observed) :
    Consumed (observed.map Observation.kind) := by
  induction consumption with
  | givenUp steps => exact ⟨[], [], rfl, by simp, by simp⟩
  | waited rest later goesOn ih =>
    obtain ⟨before, last, kinds, only, ends⟩ := ih
    refine ⟨.streamPolled :: before, last, ?_, by simpa using only, ends⟩
    rw [List.map_cons, kinds]
    rfl
  | took value rest later goesOn ih =>
    obtain ⟨before, last, kinds, only, ends⟩ := ih
    refine ⟨.streamPolled :: .published :: before, last, ?_, by simpa using only, ends⟩
    rw [List.map_cons, List.map_cons, kinds]
    rfl
  | refused value rest => exact ⟨[.streamPolled], [.refused], rfl, by simp, by simp⟩
  | withheld value rest => exact ⟨[.streamPolled], [], rfl, by simp, by simp⟩
  | failed error rest => exact ⟨[.streamPolled], [.reported], rfl, by simp, by simp⟩
  | unheard error rest => exact ⟨[.streamPolled], [], rfl, by simp, by simp⟩
  | ended rest => exact ⟨[.streamPolled], [], rfl, by simp, by simp⟩
  | exhausted => exact ⟨[.streamPolled], [], rfl, by simp, by simp⟩

end Consumption

/-! ## Deliveries -/

namespace Delivery

/-- What may still be observed of a delivery, by what it is waiting for. -/
def Leaves (delivery : Delivery) (observed : List Observation) : Prop :=
  match delivery.phase with
  | .listening => Consumption delivery.stream.op delivery.stream.steps observed
  | .offering value _ =>
    observed = [.streamDropped delivery.stream.op] ∨
      observed = [.refused value, .streamDropped delivery.stream.op] ∨
        ∃ later, observed = .published value :: later ∧
          Consumption delivery.stream.op delivery.stream.steps later
  | .reporting error _ =>
    observed = [.streamDropped delivery.stream.op] ∨
      observed = [.reported error, .streamDropped delivery.stream.op]

/-- Whatever a delivery is waiting for, it may be given up. -/
theorem leaves_drop (delivery : Delivery) : delivery.Leaves delivery.drop.observations := by
  rw [drop, SubscriptionStream.observations_drop]
  unfold Leaves
  cases delivery.phase with
  | listening => exact .givenUp _
  | offering value reply => exact .inl rfl
  | reporting error suspensions => exact .inl rfl

/-- What a step leaves is the first part of a trace: of all of it if the delivery stops, and else
of one that goes on with what the delivery leaves afterwards. -/
theorem leaves_step (delivery : Delivery) :
    match delivery.step.value with
    | .advance next => ∀ later, next.Leaves later →
        delivery.Leaves (delivery.step.observations ++ later)
    | .wait next => ∀ later, next.Leaves later →
        delivery.Leaves (delivery.step.observations ++ later)
    | .stop _ => delivery.Leaves delivery.step.observations := by
  have path := delivery.step_outcome
  generalize delivery.step.value = turn at path
  generalize delivery.step.observations = observed at path
  cases path with
  | idle rest after phase left others same =>
    intro later goesOn
    simp only [Leaves, phase, others, same] at goesOn
    simp only [Leaves, phase, left]
    exact .waited rest later goesOn
  | offered value rest after phase left others same =>
    intro later goesOn
    simp only [Leaves, others, same] at goesOn
    simp only [Leaves, phase, left]
    rcases goesOn with rfl | rfl | ⟨later, rfl, goesOn⟩
    · exact .withheld value rest
    · exact .refused value rest
    · exact .took value rest later goesOn
  | broken error rest after phase left others same =>
    intro later goesOn
    simp only [Leaves, same] at goesOn
    simp only [Leaves, phase, left]
    rcases goesOn with rfl | rfl
    · exact .unheard error rest
    · exact .failed error rest
  | ended phase left =>
    simp only [Leaves, phase]
    rcases left with left | ⟨rest, left⟩
    · rw [left]
      exact .exhausted
    · rw [left]
      exact .ended rest
  | held value waits refusal phase =>
    intro later goesOn
    simpa [Leaves, phase] using goesOn
  | taken value phase =>
    intro later goesOn
    simp only [Leaves, phase]
    exact .inr (.inr ⟨later, rfl, goesOn⟩)
  | refused value error phase => simp [Leaves, phase]
  | listened error waits phase =>
    intro later goesOn
    simpa [Leaves, phase] using goesOn
  | told error phase => simp [Leaves, phase]

/-- A poll leaves the first part of a trace, or all of it if the delivery stops. -/
theorem leaves_poll (delivery : Delivery) :
    match delivery.poll.value with
    | .pending left => ∀ later, left.Leaves later →
        delivery.Leaves (delivery.poll.observations ++ later)
    | .ready _ => delivery.Leaves delivery.poll.observations := by
  refine poll_induction
    (motive := fun delivery found observed =>
      match found with
      | .pending left => ∀ later, left.Leaves later → delivery.Leaves (observed ++ later)
      | .ready _ => delivery.Leaves observed)
    ?_ ?_ ?_ delivery
  · intro delivery next found observed turn rest
    have first := delivery.leaves_step
    rw [turn] at first
    cases found with
    | pending left =>
      intro later goesOn
      rw [List.append_assoc]
      exact first _ (rest later goesOn)
    | ready outcome => exact first _ rest
  · intro delivery next turn
    have only := delivery.leaves_step
    rw [turn] at only
    exact only
  · intro delivery outcome turn
    have only := delivery.leaves_step
    rw [turn] at only
    exact only

/-- A delivery that is polled up to some number of times and then given up leaves a whole trace. -/
theorem leaves_pollOrDrop (count : Nat) (delivery : Delivery) :
    delivery.Leaves (pollOrDrop poll drop count delivery).observations := by
  induction count generalizing delivery with
  | zero =>
    rw [pollOrDrop_zero]
    exact delivery.leaves_drop
  | succ count ih =>
    have first := delivery.leaves_poll
    cases found : delivery.poll.value with
    | pending left =>
      rw [found] at first
      rw [pollOrDrop_succ_of_pending drop found]
      exact first _ (ih left)
    | ready outcome =>
      rw [found] at first
      rw [pollOrDrop_succ_of_ready drop found]
      exact first

/-- What is observed of a stream that is delivered, until the delivery stops or is given up. -/
theorem consumption_pollOrDrop (field : OperationDescriptor) (ctx : RequestContext)
    (stream : SubscriptionStream) (sink : Sink) (count : Nat) :
    Consumption stream.op stream.steps
      (pollOrDrop poll drop count (start field ctx stream sink)).observations :=
  leaves_pollOrDrop count (start field ctx stream sink)

end Delivery

end SubscriptionFields
