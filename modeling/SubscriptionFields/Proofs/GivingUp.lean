import SubscriptionFields.Proofs.Routing

/-!
# Giving up

Whoever owns a machine may give up on it after any number of polls: a machine that has answered by
then is gone, any other is dropped (`pollOrDrop`). What the operation's own handle and stream go
through in the meantime is stated here without the machines around them. A handle is polled once
with every poll, at most until it has an answer, and is dropped in the end, behind the stream that
it came to, if it did (`Handle.tended`). A stream that was returned at once is dropped only if
nobody ever polled (`ReturnType.tended`).

The ladder: the operation's handle (`Handle.observations_pollOrDrop`), the adapted handle
(`ReturnType.observations_pollOrDrop_convert`), the handle of a call that may fail to bind
(`Registration.observations_pollOrDrop_subscribe`), and the future of a request, inside any number
of spans (`Registration.observations_pollOrDrop_start`).
-/

set_option autoImplicit false

namespace SubscriptionFields

section

variable {σ τ α β : Type}

/-- Polls a machine up to `count` times, and drops it if it has no answer by then. -/
def pollOrDrop (poll : σ → Noted (Progress σ α)) (drop : σ → Noted Unit) (count : Nat)
    (machine : σ) : Noted (Option α) := do
  match ← pollUpTo poll count machine with
  | .pending left =>
    drop left
    return none
  | .ready answer => return some answer

variable {poll : σ → Noted (Progress σ α)} (drop : σ → Noted Unit)

/-- A machine that still waits after the polls is dropped then. -/
theorem pollOrDrop_of_pending {machine left : σ} {count : Nat}
    (found : (pollUpTo poll count machine).value = .pending left) :
    (pollOrDrop poll drop count machine).value = none ∧
      (pollOrDrop poll drop count machine).observations =
        (pollUpTo poll count machine).observations ++ (drop left).observations := by
  simp [pollOrDrop, found]

/-- A machine that answered within the polls is not dropped. -/
theorem pollOrDrop_of_ready {machine : σ} {answer : α} {count : Nat}
    (found : (pollUpTo poll count machine).value = .ready answer) :
    (pollOrDrop poll drop count machine).value = some answer ∧
      (pollOrDrop poll drop count machine).observations =
        (pollUpTo poll count machine).observations := by
  simp [pollOrDrop, found]

/-- A machine that came to something has answered. -/
theorem ready_of_pollOrDrop {machine : σ} {answer : α} {count : Nat}
    (came : (pollOrDrop poll drop count machine).value = some answer) :
    (pollUpTo poll count machine).value = .ready answer := by
  cases found : (pollUpTo poll count machine).value with
  | pending left =>
    rw [(pollOrDrop_of_pending drop found).1] at came
    cases came
  | ready other =>
    rw [(pollOrDrop_of_ready drop found).1] at came
    rw [Option.some.inj came]

/-- A machine that is not polled at all is dropped at once. -/
theorem pollOrDrop_zero (machine : σ) :
    (pollOrDrop poll drop 0 machine).observations = (drop machine).observations := by
  have untouched : (pollUpTo poll 0 machine).value = .pending machine := rfl
  exact (pollOrDrop_of_pending drop untouched).2

/-- An answer at the first poll ends everything. -/
theorem pollOrDrop_succ_of_ready {machine : σ} {answer : α}
    (found : (poll machine).value = .ready answer) (count : Nat) :
    (pollOrDrop poll drop (count + 1) machine).observations = (poll machine).observations := by
  have whole := pollUpTo_of_ready found count
  rw [(pollOrDrop_of_ready drop (congrArg Noted.value whole)).2, whole]
  rfl

/-- A machine that waits after the first poll is polled or dropped further. -/
theorem pollOrDrop_succ_of_pending {machine next : σ}
    (found : (poll machine).value = .pending next) (count : Nat) :
    (pollOrDrop poll drop (count + 1) machine).observations =
      (poll machine).observations ++ (pollOrDrop poll drop count next).observations := by
  have seen := observations_pollUpTo_of_pending found count
  have whole := congrArg Noted.value (pollUpTo_of_pending found count)
  cases later : (pollUpTo poll count next).value with
  | ready answer =>
    rw [later] at whole
    rw [(pollOrDrop_of_ready drop whole).2, (pollOrDrop_of_ready drop later).2, seen]
  | pending left =>
    rw [later] at whole
    rw [(pollOrDrop_of_pending drop whole).2, (pollOrDrop_of_pending drop later).2, seen,
      List.append_assoc]

/-- Machines that find and observe the same at every poll, and are dropped alike, are given up
alike. -/
theorem pollOrDrop_alike {other : τ → Noted (Progress τ β)} (discard : τ → Noted Unit)
    {machine : σ → τ} {answer : α → β}
    (agree : ∀ state, (other (machine state)).value = (poll state).value.map machine answer)
    (same : ∀ state, (other (machine state)).observations = (poll state).observations)
    (dropped : ∀ state, (discard (machine state)).observations = (drop state).observations)
    (count : Nat) (state : σ) :
    (pollOrDrop other discard count (machine state)).value =
        (pollOrDrop poll drop count state).value.map answer ∧
      (pollOrDrop other discard count (machine state)).observations =
        (pollOrDrop poll drop count state).observations := by
  have value := value_pollUpTo_map agree count state
  have seen := filterMap_notes_pollUpTo_map Note.observation? agree same count state
  cases found : (pollUpTo poll count state).value with
  | ready result =>
    rw [found] at value
    obtain ⟨inner, observed⟩ := pollOrDrop_of_ready drop found
    obtain ⟨outer, all⟩ := pollOrDrop_of_ready discard value
    rw [outer, inner, all, observed]
    exact ⟨rfl, seen⟩
  | pending left =>
    rw [found] at value
    obtain ⟨inner, observed⟩ := pollOrDrop_of_pending drop found
    obtain ⟨outer, all⟩ := pollOrDrop_of_pending discard value
    rw [outer, inner, all, observed, dropped]
    exact ⟨rfl, congrArg (· ++ _) seen⟩

end

/-! ## Handles of operations -/

namespace Handle

variable {α : Type}

/-- How often a handle is polled by someone who polls up to `count` times. -/
def pollsWithin (handle : Handle α) (count : Nat) : Nat :=
  match handle.outcome with
  | .never => count
  | _ => min count (handle.pending + 1)

/-- The stream that a handle comes to within `count` polls. -/
def openedWithin? (handle : Handle α) (count : Nat) : Option α :=
  if handle.pending < count then handle.value? else none

/-- What a handle goes through if it is polled up to `count` times and dropped. -/
def tended (handle : Handle (EventStream α)) (count : Nat) : List Observation :=
  List.replicate (handle.pollsWithin count) (.handlePolled handle.op) ++
    ((handle.openedWithin? count).map fun own => .streamBuilt own.op).toList ++
      [.handleDropped handle.op]

/-- A handle is polled as often as it waits and the polls allow, and is dropped once. -/
theorem observations_pollOrDrop (count : Nat) (handle : Handle (EventStream α)) :
    (pollOrDrop poll drop count handle).observations = handle.tended count := by
  induction count generalizing handle with
  | zero =>
    rw [pollOrDrop_zero]
    cases becomes : handle.outcome <;> simp [tended, pollsWithin, openedWithin?, becomes, drop]
  | succ count ih =>
    cases found : handle.poll.value with
    | ready answer =>
      rw [pollOrDrop_succ_of_ready drop found]
      rw [value_poll] at found
      obtain ⟨op, pending, outcome⟩ := handle
      cases outcome <;> cases pending <;> cases found <;>
        simp [tended, pollsWithin, openedWithin?, value?, poll, next, drop]
    | pending left =>
      rw [pollOrDrop_succ_of_pending drop found, ih]
      rw [value_poll] at found
      obtain ⟨op, pending, outcome⟩ := handle
      cases outcome <;> cases pending <;> cases found <;>
        simp [tended, pollsWithin, openedWithin?, value?, poll, next, Nat.succ_min_succ,
          List.replicate_succ]

end Handle

/-! ## Results of operations -/

/-- What the handle or the stream that an operation returned goes through while the adapted handle
is polled up to `count` times and then given up. A stream that was polled at least once is handed
out. -/
def ReturnType.tended : (type : ReturnType) → type.Result → Nat → List Observation
  | .stream _, own, count => if count = 0 then [.streamDropped own.op] else []
  | .async (.stream _), handle, count => handle.tended count
  | _, _, _ => []

/-- Giving up an adapted result is giving up what the operation returned. -/
theorem ReturnType.observations_pollOrDrop_convert {type : ReturnType}
    {adapter : CompiledAdapter type} (found : type.returnAdapter = some adapter)
    (result : type.Result) (count : Nat) :
    (pollOrDrop SubscriptionHandle.poll SubscriptionHandle.drop count
      (adapter.convert result)).observations = type.tended result count := by
  cases selects_of_returnAdapter found with
  | canonical =>
    have alike := pollOrDrop_alike Handle.drop SubscriptionHandle.drop
      (fun inner => congrArg Noted.value (SubscriptionHandle.poll_direct inner))
      (fun inner => congrArg Noted.observations (SubscriptionHandle.poll_direct inner))
      (fun _ => rfl) count result
    exact alike.2.trans (Handle.observations_pollOrDrop count result)
  | awaited payload =>
    have poll_eq := SubscriptionHandle.poll_awaiting (.shared payload)
    have alike := pollOrDrop_alike Handle.drop SubscriptionHandle.drop
      (fun inner => congrArg Noted.value (poll_eq inner))
      (fun inner => congrArg Noted.observations (poll_eq inner))
      (fun _ => rfl) count result
    exact alike.2.trans (Handle.observations_pollOrDrop count result)
  | completed element =>
    cases count with
    | zero => rfl
    | succ count => exact pollOrDrop_succ_of_ready SubscriptionHandle.drop rfl count

/-- What the operation's handle or stream goes through after a call of a registered field. -/
def Registration.tended (registration : Registration) (call : Nat) (ctx : RequestContext)
    (count : Nat) : List Observation :=
  match registration.bound call ctx with
  | .error _ => []
  | .ok values =>
    registration.type.tended (registration.operation.run values.1 values.2) count

/-- Giving up the handle of a call is giving up what the call's operation returned. -/
theorem Registration.observations_pollOrDrop_subscribe {registration : Registration}
    {descriptor : OperationDescriptor} (compiled : registration.compile.value = .ok descriptor)
    (call : Nat) (ctx : RequestContext) (count : Nat) :
    (pollOrDrop SubscriptionHandle.poll SubscriptionHandle.drop count
      (descriptor.subscribe call ctx).value).observations =
        registration.tended call ctx count := by
  unfold tended
  cases bound : registration.bound call ctx with
  | error error =>
    rw [value_subscribe_of_bound_error compiled bound]
    cases count with
    | zero => rfl
    | succ count => exact pollOrDrop_succ_of_ready SubscriptionHandle.drop rfl count
  | ok values =>
    obtain ⟨adapter, found, adapted⟩ := value_subscribe_of_bound_ok compiled bound
    rw [adapted]
    exact ReturnType.observations_pollOrDrop_convert found _ count

/-! ## Futures -/

namespace SubscribeFuture

/-- Dropping a future through spans is dropping it. -/
theorem drop_wrapped (call layers : Nat) (future : SubscribeFuture) :
    (wrapped call layers future).drop = future.drop := by
  induction layers with
  | zero => rfl
  | succ layers ih => exact ih

/-- Spans do not change what comes of a future that may be given up, nor what is observed. -/
theorem pollOrDrop_wrapped (call layers count : Nat) (future : SubscribeFuture) :
    (pollOrDrop poll drop count (wrapped call layers future)).value =
        (pollOrDrop poll drop count future).value ∧
      (pollOrDrop poll drop count (wrapped call layers future)).observations =
        (pollOrDrop poll drop count future).observations := by
  have alike := pollOrDrop_alike drop drop (value_poll_wrapped call layers)
    (observations_poll_wrapped call layers)
    (fun future => congrArg Noted.observations (drop_wrapped call layers future)) count future
  rw [Option.map_id] at alike
  exact alike

/-- Giving up a future that waits for a handle is giving up the handle. -/
theorem observations_pollOrDrop_resolving (count : Nat) (handle : SubscriptionHandle) :
    (pollOrDrop poll drop count (.resolving handle)).observations =
      (pollOrDrop SubscriptionHandle.poll SubscriptionHandle.drop count handle).observations := by
  have poll_eq (handle : SubscriptionHandle) :
      (resolving handle).poll =
        handle.poll.map (Progress.map .resolving (Except.mapError .field)) :=
    Noted.bind_pure_eq_map _ handle.poll
  have alike := pollOrDrop_alike SubscriptionHandle.drop drop
    (fun handle => congrArg Noted.value (poll_eq handle))
    (fun handle => congrArg Noted.observations (poll_eq handle)) (fun _ => rfl) count handle
  exact alike.2

end SubscribeFuture

/-- What is observed of the future of a field that the schema knows by the descriptor of a
registration, inside any number of spans. -/
theorem Registration.observations_pollOrDrop_start {registration : Registration} {schema : Schema}
    {request : SubscribeRequest} {descriptor : OperationDescriptor}
    (compiled : registration.compile.value = .ok descriptor)
    (known : schema.resolver? request.field = some descriptor) (layers call : Nat)
    (current : Option Span) (count : Nat) :
    (pollOrDrop SubscribeFuture.poll SubscribeFuture.drop count
      ((SubscribeService.stacked schema layers).start call request current).value).observations =
        registration.tended call request.ctx count := by
  rw [(SubscribeService.start_stacked_of_some call known layers current).1,
    (SubscribeFuture.pollOrDrop_wrapped call layers count _).2,
    SubscribeFuture.observations_pollOrDrop_resolving]
  exact observations_pollOrDrop_subscribe compiled call request.ctx count

end SubscriptionFields
