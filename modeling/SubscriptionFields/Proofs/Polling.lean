import SubscriptionFields.Streaming.EventStream

/-!
# Polling a machine many times

A machine is polled by whoever owns it, one poll at a time. `pollUpTo` polls a machine that answers
once, and stops with the answer; `pollTimes` polls a machine that answers every time. Two machines
that agree on every single poll, up to a conversion of what they find, agree on any number of polls
(`pollUpTo_map`, `pollTimes_map`). Where the notes differ in what they log, the answers and the
notes of one kind are compared alone (`value_pollUpTo_map`, `filterMap_notes_pollUpTo_map`).

A machine that is pending for a known number of polls and then answers is said to answer after that
many polls (`AnswersAfter`). So does every machine that finds the same, with its answer converted.
-/

set_option autoImplicit false

namespace SubscriptionFields

variable {σ τ α β : Type}

def Noted.map (convert : α → β) (noted : Noted α) : Noted β :=
  { value := convert noted.value, notes := noted.notes }

/-- Converting a noted value converts the value. -/
@[simp] theorem Noted.value_map (convert : α → β) (noted : Noted α) :
    (noted.map convert).value = convert noted.value := rfl

/-- Converting a noted value leaves the notes. -/
@[simp] theorem Noted.notes_map (convert : α → β) (noted : Noted α) :
    (noted.map convert).notes = noted.notes := rfl

/-- Converting a noted value leaves what is observed. -/
@[simp] theorem Noted.observations_map (convert : α → β) (noted : Noted α) :
    (noted.map convert).observations = noted.observations := rfl

/-- Computations with the same value and the same notes are the same. -/
theorem Noted.ext {first second : Noted α} (value : first.value = second.value)
    (notes : first.notes = second.notes) : first = second := by
  cases first
  cases second
  cases value
  cases notes
  rfl

/-- Converting the value of a computation as its last step. -/
theorem Noted.bind_pure_eq_map (convert : α → β) (noted : Noted α) :
    (noted >>= fun value => pure (convert value)) = noted.map convert := by
  show Noted.mk (convert noted.value) (noted.notes ++ []) = _
  rw [List.append_nil]
  rfl

/-! ## Machines that answer once -/

/-- Polls a machine up to `count` times, and no more once it has answered. -/
def pollUpTo (poll : σ → Noted (Progress σ α)) : Nat → σ → Noted (Progress σ α)
  | 0, machine => pure (.pending machine)
  | count + 1, machine => do
    match ← poll machine with
    | .pending next => pollUpTo poll count next
    | .ready answer => return .ready answer

section Once

variable {poll : σ → Noted (Progress σ α)} {other : τ → Noted (Progress τ β)}

/-- A machine that is pending is polled on, and the notes follow one another. -/
theorem pollUpTo_of_pending {machine next : σ} (found : (poll machine).value = .pending next)
    (count : Nat) :
    pollUpTo poll (count + 1) machine =
      { value := (pollUpTo poll count next).value
        notes := (poll machine).notes ++ (pollUpTo poll count next).notes } := by
  show Noted.mk _ _ = _
  simp only [found]

/-- What is observed of the later polls follows what is observed of the first. -/
theorem observations_pollUpTo_of_pending {machine next : σ}
    (found : (poll machine).value = .pending next) (count : Nat) :
    (pollUpTo poll (count + 1) machine).observations =
      (poll machine).observations ++ (pollUpTo poll count next).observations := by
  rw [pollUpTo_of_pending found]
  exact List.filterMap_append

/-- A machine that is ready is not polled again. -/
theorem pollUpTo_of_ready {machine : σ} {answer : α} (found : (poll machine).value = .ready answer)
    (count : Nat) :
    pollUpTo poll (count + 1) machine =
      { value := .ready answer, notes := (poll machine).notes } := by
  show Noted.mk _ _ = _
  simp only [found, Noted.value_pure, Noted.notes_pure, List.append_nil]

/-- What is observed by a number of polls stays observed by more of them. -/
theorem observations_pollUpTo_prefix {first second : Nat} (more : first ≤ second) (machine : σ) :
    (pollUpTo poll first machine).observations <+:
      (pollUpTo poll second machine).observations := by
  induction first generalizing second machine with
  | zero => exact List.nil_prefix
  | succ first ih =>
    obtain ⟨second, rfl⟩ := Nat.exists_eq_add_one_of_ne_zero (Nat.ne_zero_of_lt more)
    cases found : (poll machine).value with
    | pending next =>
      rw [observations_pollUpTo_of_pending found, observations_pollUpTo_of_pending found]
      exact (List.prefix_append_right_inj _).2 (ih (Nat.le_of_succ_le_succ more) next)
    | ready answer =>
      have same : (pollUpTo poll (first + 1) machine).observations =
          (pollUpTo poll (second + 1) machine).observations := by
        rw [pollUpTo_of_ready found, pollUpTo_of_ready found]
      exact same ▸ List.prefix_rfl

/-- Machines that find the same at every poll find the same after any number of polls. -/
theorem value_pollUpTo_map {machine : σ → τ} {answer : α → β}
    (agree : ∀ state, (other (machine state)).value = (poll state).value.map machine answer)
    (count : Nat) (state : σ) :
    (pollUpTo other count (machine state)).value =
      (pollUpTo poll count state).value.map machine answer := by
  induction count generalizing state with
  | zero => rfl
  | succ count ih =>
    have value := agree state
    cases found : (poll state).value with
    | pending next =>
      rw [found] at value
      rw [pollUpTo_of_pending found, pollUpTo_of_pending value]
      exact ih next
    | ready result =>
      rw [found] at value
      rw [pollUpTo_of_ready found, pollUpTo_of_ready value]
      rfl

/-- If moreover every poll leaves the same notes of some kind, so does any number of polls. -/
theorem filterMap_notes_pollUpTo_map {γ : Type} (kind : Note → Option γ) {machine : σ → τ}
    {answer : α → β}
    (agree : ∀ state, (other (machine state)).value = (poll state).value.map machine answer)
    (same : ∀ state,
      (other (machine state)).notes.filterMap kind = (poll state).notes.filterMap kind)
    (count : Nat) (state : σ) :
    (pollUpTo other count (machine state)).notes.filterMap kind =
      (pollUpTo poll count state).notes.filterMap kind := by
  induction count generalizing state with
  | zero => rfl
  | succ count ih =>
    have value := agree state
    cases found : (poll state).value with
    | pending next =>
      rw [found] at value
      rw [pollUpTo_of_pending found, pollUpTo_of_pending value, List.filterMap_append,
        List.filterMap_append, same, ih]
    | ready result =>
      rw [found] at value
      rw [pollUpTo_of_ready found, pollUpTo_of_ready value, same]

/-- Machines that agree on every poll agree on any number of polls. -/
theorem pollUpTo_map {machine : σ → τ} {answer : α → β}
    (agree : ∀ state, other (machine state) = (poll state).map (Progress.map machine answer))
    (count : Nat) (state : σ) :
    pollUpTo other count (machine state) =
      (pollUpTo poll count state).map (Progress.map machine answer) := by
  have value := value_pollUpTo_map (fun state => congrArg Noted.value (agree state)) count state
  have notes := filterMap_notes_pollUpTo_map some
    (fun state => congrArg Noted.value (agree state))
    (fun state => congrArg (fun noted => noted.notes.filterMap some) (agree state)) count state
  rw [List.filterMap_some, List.filterMap_some] at notes
  exact Noted.ext value notes

/-- What is true of all that one poll observes is true of all that any number of polls observe. -/
theorem forall_observed_pollUpTo {holds : Observation → Prop}
    (each : ∀ machine, ∀ seen ∈ (poll machine).observations, holds seen) (count : Nat)
    (machine : σ) : ∀ seen ∈ (pollUpTo poll count machine).observations, holds seen := by
  induction count generalizing machine with
  | zero => simp [pollUpTo]
  | succ count ih =>
    cases found : (poll machine).value with
    | pending next =>
      rw [pollUpTo_of_pending found]
      intro seen observed
      simp only [Noted.observations, List.filterMap_append, List.mem_append] at observed
      rcases observed with first | later
      · exact each machine seen first
      · exact ih next seen later
    | ready answer =>
      rw [pollUpTo_of_ready found]
      exact each machine

end Once

/-! ## Waiting for an answer -/

/-- A machine is pending for that many polls, and answers with the next one. -/
structure AnswersAfter (poll : σ → Noted (Progress σ α)) (machine : σ) (waits : Nat) (answer : α) :
    Prop where
  pending : ∀ count ≤ waits, ∃ waiting, (pollUpTo poll count machine).value = .pending waiting
  ready : ∀ count, waits < count → (pollUpTo poll count machine).value = .ready answer

section Waiting

variable {poll : σ → Noted (Progress σ α)} {other : τ → Noted (Progress τ β)} {machine next : σ}
  {waits : Nat} {answer : α}

/-- A machine that is ready at once answers after no waits. -/
theorem answersAfter_of_ready (found : (poll machine).value = .ready answer) :
    AnswersAfter poll machine 0 answer where
  pending count within := by
    rw [Nat.le_zero.1 within]
    exact ⟨machine, rfl⟩
  ready count beyond := by
    cases count with
    | zero => cases beyond
    | succ count => rw [pollUpTo_of_ready found]

/-- A machine that is pending once answers one wait later. -/
theorem answersAfter_of_pending (found : (poll machine).value = .pending next)
    (rest : AnswersAfter poll next waits answer) :
    AnswersAfter poll machine (waits + 1) answer where
  pending count within := by
    cases count with
    | zero => exact ⟨machine, rfl⟩
    | succ count =>
      rw [pollUpTo_of_pending found]
      exact rest.pending count (Nat.le_of_succ_le_succ within)
  ready count beyond := by
    cases count with
    | zero => cases beyond
    | succ count =>
      rw [pollUpTo_of_pending found]
      exact rest.ready count (Nat.lt_of_succ_lt_succ beyond)

/-- Whatever finds the same at every count answers at the same time. -/
theorem AnswersAfter.map {outer : τ} {convert : σ → τ} {convertAnswer : α → β}
    (answers : AnswersAfter poll machine waits answer)
    (agree : ∀ count, (pollUpTo other count outer).value =
      (pollUpTo poll count machine).value.map convert convertAnswer) :
    AnswersAfter other outer waits (convertAnswer answer) where
  pending count within := by
    obtain ⟨waiting, found⟩ := answers.pending count within
    refine ⟨convert waiting, ?_⟩
    rw [agree, found]
    rfl
  ready count beyond := by
    rw [agree, answers.ready count beyond]
    rfl

/-- No other answer is ever found, and this one not before its time. -/
theorem AnswersAfter.eq_of_ready (answers : AnswersAfter poll machine waits answer) {count : Nat}
    {found : α} (ready : (pollUpTo poll count machine).value = .ready found) :
    waits < count ∧ found = answer := by
  rcases Nat.lt_or_ge waits count with beyond | within
  · rw [answers.ready count beyond] at ready
    exact ⟨beyond, (Progress.ready.inj ready).symm⟩
  · obtain ⟨waiting, pending⟩ := answers.pending count within
    rw [pending] at ready
    cases ready

end Waiting

/-! ## Machines that answer every time -/

def pollTimes (poll : σ → Noted (α × σ)) : Nat → σ → Noted (List α × σ)
  | 0, machine => pure ([], machine)
  | count + 1, machine => do
    let found ← poll machine
    let rest ← pollTimes poll count found.2
    return (found.1 :: rest.1, rest.2)

/-- Machines that answer alike and move alike answer any number of polls alike. -/
theorem pollTimes_map {poll : σ → Noted (α × σ)} {other : τ → Noted (β × τ)} {machine : σ → τ}
    {answer : α → β}
    (agree : ∀ state, other (machine state) = (poll state).map (Prod.map answer machine))
    (count : Nat) (state : σ) :
    pollTimes other count (machine state) =
      (pollTimes poll count state).map (Prod.map (List.map answer) machine) := by
  induction count generalizing state with
  | zero => rfl
  | succ count ih =>
    simp only [pollTimes, agree state, bind, pure, Noted.map, ih, Prod.map, List.map_cons]

end SubscriptionFields
