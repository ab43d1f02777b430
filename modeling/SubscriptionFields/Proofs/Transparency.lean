import SubscriptionFields.Proofs.DeliveryLikeness
import SubscriptionFields.Proofs.GivingUp

/-!
# The spans around a service are transparent

A subscription is started inside any number of spans, or inside none. The two starts are compared at
every count of polls, and at every count of polls after which the future is given up
(`SubscribeFuture.Alike`). That they agree does not say yet what the operation goes through, as both
could be late. So the operation's side is stated as well, of each of them alone
(`Registration.Attends`): the whole call happens before there is a future, every poll of the future
is one poll of the operation's handle, and the handle, or the stream that was never asked for, is
dropped no later than the future.

What a poll of a future does to the handle behind it is stated once (`HandlePoll`) and carried from
the operation's handle to the future around it; an induction over the polls makes it a statement of
every run (`HandlePoll.observations_pollUpTo`).
-/

set_option autoImplicit false

namespace SubscriptionFields

/-! ## One poll for one poll -/

def Handle.awaited? {α : Type} (handle : Handle α) : Option String :=
  some handle.op

/-- The operation whose handle is polled. -/
def SubscriptionHandle.awaited? : SubscriptionHandle → Option String
  | .direct inner => inner.awaited?
  | .awaiting _ inner => inner.awaited?
  | .completed _ => none

/-- The operation whose handle is polled. -/
def SubscribeFuture.awaited? : SubscribeFuture → Option String
  | .unknownField _ => none
  | .resolving handle => handle.awaited?
  | .traced _ inner => inner.awaited?

section

variable {σ τ α β : Type}

/-- What a poll of a machine around the handle of an operation finds, and what is observed. The
handle is polled once. Either the machine still has it, or it is dropped at the end of the poll. -/
inductive HandlePoll (awaited? : σ → Option String) (op : String) :
    Progress σ α → List Observation → Prop
  | waits (left : σ) (still : awaited? left = some op) :
      HandlePoll awaited? op (.pending left) [.handlePolled op]
  | ends (answer : α) (built : Option String) :
      HandlePoll awaited? op (.ready answer)
        (.handlePolled op :: ((built.map .streamBuilt).toList ++ [.handleDropped op]))

namespace HandlePoll

variable {awaited? : σ → Option String} {op : String}

/-- A machine around another one polls the handle as that one does. -/
theorem map {found : Progress σ α} {observed : List Observation}
    (polled : HandlePoll awaited? op found observed) (outer? : τ → Option String)
    (machine : σ → τ) (answer : α → β)
    (same : ∀ state, outer? (machine state) = awaited? state) :
    HandlePoll outer? op (found.map machine answer) observed := by
  cases polled with
  | waits left still => exact .waits (machine left) ((same left).trans still)
  | ends result built => exact .ends (answer result) built

/-- If every poll of a machine around a handle polls the handle once, then as long as the machine
is pending the handle has been polled as often as the machine. -/
theorem observations_pollUpTo {poll : σ → Noted (Progress σ α)}
    (each : ∀ state, awaited? state = some op →
      HandlePoll awaited? op (poll state).value (poll state).observations)
    {count : Nat} {machine left : σ} (around : awaited? machine = some op)
    (waiting : (pollUpTo poll count machine).value = .pending left) :
    (pollUpTo poll count machine).observations = List.replicate count (.handlePolled op) ∧
      awaited? left = some op := by
  induction count generalizing machine with
  | zero =>
    cases waiting
    exact ⟨rfl, around⟩
  | succ count ih =>
    have first := each machine around
    cases found : (poll machine).value with
    | ready answer =>
      rw [pollUpTo_of_ready found] at waiting
      cases waiting
    | pending next =>
      rw [found] at first
      generalize observed : (poll machine).observations = seen at first
      cases first with
      | waits _ still =>
        have later := congrArg Noted.value (pollUpTo_of_pending found count)
        obtain ⟨rest, held⟩ := ih still (later.symm.trans waiting)
        refine ⟨?_, held⟩
        rw [observations_pollUpTo_of_pending found, observed, rest, List.replicate_succ]
        rfl

end HandlePoll

end

/-- A poll of the operation's own handle polls it once, and drops it when it is ready. -/
theorem Handle.handlePoll {α : Type} (handle : Handle (EventStream α)) :
    HandlePoll awaited? handle.op handle.poll.value handle.poll.observations := by
  obtain ⟨op, pending, outcome⟩ := handle
  cases outcome with
  | never => exact HandlePoll.waits (Handle.mk op pending .never) rfl
  | failed error =>
    cases pending with
    | zero => exact HandlePoll.ends (Except.error error) none
    | succ pending => exact HandlePoll.waits (Handle.mk op pending (.failed error)) rfl
  | resolved own =>
    cases pending with
    | zero => exact HandlePoll.ends (Except.ok own) (some own.op)
    | succ pending => exact HandlePoll.waits (Handle.mk op pending (.resolved own)) rfl

/-- An adapted handle that still has the operation's handle polls it once a poll. -/
theorem SubscriptionHandle.handlePoll {handle : SubscriptionHandle} {op : String}
    (around : handle.awaited? = some op) :
    HandlePoll awaited? op handle.poll.value handle.poll.observations := by
  cases handle with
  | direct inner =>
    cases around
    rw [poll_direct, Noted.value_map, Noted.observations_map]
    exact inner.handlePoll.map awaited? direct (Except.map SubscriptionStream.direct) fun _ => rfl
  | awaiting element inner =>
    cases around
    rw [poll_awaiting, Noted.value_map, Noted.observations_map]
    exact inner.handlePoll.map awaited? (awaiting element)
      (Except.map (SubscriptionStream.upcast element)) fun _ => rfl
  | completed outcome => cases around

/-- A future that still has the operation's handle polls it once a poll, whatever spans are around
it. -/
theorem SubscribeFuture.handlePoll {future : SubscribeFuture} {op : String}
    (around : future.awaited? = some op) :
    HandlePoll awaited? op future.poll.value future.poll.observations := by
  induction future with
  | unknownField field => cases around
  | resolving handle =>
    have inner := SubscriptionHandle.handlePoll around
    have poll_eq : (resolving handle).poll =
        handle.poll.map (Progress.map .resolving (Except.mapError .field)) :=
      Noted.bind_pure_eq_map _ handle.poll
    rw [poll_eq, Noted.value_map, Noted.observations_map]
    exact inner.map awaited? resolving (Except.mapError SubscribeErrorOf.field) fun _ => rfl
  | traced span inner ih =>
    have once := ih around
    simp only [poll, Noted.value_bind, Noted.observations_bind]
    cases found : inner.poll.value with
    | pending left =>
      rw [found] at once
      have outer : HandlePoll awaited? op ((Progress.pending left).map (traced span) id)
          inner.poll.observations := once.map awaited? (traced span) id fun _ => rfl
      simpa [Progress.map] using outer
    | ready outcome =>
      rw [found] at once
      simpa using once

/-! ## What the operation goes through -/

/-- The operation whose handle is polled after a call that returned this result. -/
def ReturnType.awaited? : (type : ReturnType) → type.Result → Option String
  | .async _, handle => handle.awaited?
  | _, _ => none

/-- An adapted result polls the handle that the operation returned, if it returned one. -/
theorem ReturnType.awaited?_convert {type : ReturnType} {adapter : CompiledAdapter type}
    (found : type.returnAdapter = some adapter) (result : type.Result) :
    (adapter.convert result).awaited? = type.awaited? result := by
  cases selects_of_returnAdapter found with
  | canonical => rfl
  | awaited payload => rfl
  | completed element => cases element <;> rfl

namespace Registration

variable (registration : Registration) (call : Nat) (ctx : RequestContext)

/-- The operation whose handle is polled after a call of a registered field. -/
def awaited? : Option String :=
  match registration.bound call ctx with
  | .error _ => none
  | .ok values => registration.type.awaited? (registration.operation.run values.1 values.2)

/-- What a registration's binders and operation go through for one request, whose future may be
given up at any time. The call is over before there is a future. Until the future is given up or
has resolved, what the operation returned is tended, and dropped in the end unless it was handed
out. If that is a handle, a future that is pending has polled it as often as it was polled itself,
and the next poll is again one poll of the handle. -/
structure Attends (started : Noted SubscribeFuture) : Prop where
  called_eq : started.observations = registration.observedCall call ctx
  given_up_eq : ∀ count,
    (pollOrDrop SubscribeFuture.poll SubscribeFuture.drop count started.value).observations =
      registration.tended call ctx count
  waiting_eq : ∀ op, registration.awaited? call ctx = some op → ∀ count left,
    (pollUpTo SubscribeFuture.poll count started.value).value = .pending left →
      (pollUpTo SubscribeFuture.poll count started.value).observations =
        List.replicate count (.handlePolled op)
  next_poll : ∀ op, registration.awaited? call ctx = some op → ∀ count left,
    (pollUpTo SubscribeFuture.poll count started.value).value = .pending left →
      HandlePoll SubscribeFuture.awaited? op left.poll.value left.poll.observations

variable {registration}

/-- The handle of a call polls the handle that the call's operation returned. -/
theorem awaited?_subscribe {descriptor : OperationDescriptor}
    (compiled : registration.compile.value = .ok descriptor) :
    (descriptor.subscribe call ctx).value.awaited? = registration.awaited? call ctx := by
  unfold awaited?
  cases bound : registration.bound call ctx with
  | error error =>
    rw [value_subscribe_of_bound_error compiled bound]
    rfl
  | ok values =>
    obtain ⟨adapter, found, adapted⟩ := value_subscribe_of_bound_ok compiled bound
    rw [adapted]
    exact ReturnType.awaited?_convert found _

end Registration

/-- Spans around a future do not change which handle it polls. -/
theorem SubscribeFuture.awaited?_wrapped (call layers : Nat) (future : SubscribeFuture) :
    (wrapped call layers future).awaited? = future.awaited? := by
  induction layers with
  | zero => rfl
  | succ layers ih => exact ih

/-- Through any number of spans, a call of a registered field attends to its operation. -/
theorem Registration.attends_of_resolver {registration : Registration} {schema : Schema}
    {request : SubscribeRequest} {descriptor : OperationDescriptor}
    (compiled : registration.compile.value = .ok descriptor)
    (known : schema.resolver? request.field = some descriptor) (layers call : Nat)
    (current : Option Span) :
    registration.Attends call request.ctx
      ((SubscribeService.stacked schema layers).start call request current) := by
  obtain ⟨started, observed⟩ := SubscribeService.start_stacked_of_some call known layers current
  have around : ((SubscribeService.stacked schema layers).start call request current).value.awaited?
      = registration.awaited? call request.ctx := by
    rw [started, SubscribeFuture.awaited?_wrapped]
    exact awaited?_subscribe call request.ctx compiled
  refine ⟨observed.trans (registration.observations_subscribe compiled), ?_, ?_, ?_⟩
  · intro count
    exact observations_pollOrDrop_start compiled known layers call current count
  · intro op awaits count left waiting
    have run := HandlePoll.observations_pollUpTo (fun _ => SubscribeFuture.handlePoll)
      (around.trans awaits) waiting
    exact run.1
  · intro op awaits count left waiting
    have run := HandlePoll.observations_pollUpTo (fun _ => SubscribeFuture.handlePoll)
      (around.trans awaits) waiting
    exact SubscribeFuture.handlePoll run.2

/-! ## With spans and without -/

/-- Two starts of a subscription are alike: the same is observed while they start, and the binders
have the same effects; after any number of polls both are pending or both have the same answer, and
the same has been observed; and if the futures are given up then they have come to the same, and
again the same is observed. -/
structure SubscribeFuture.Alike (first second : Noted SubscribeFuture) : Prop where
  called_eq : first.observations = second.observations
  caused_eq : first.effects = second.effects
  answer?_eq : ∀ count,
    (pollUpTo poll count first.value).value.answer? =
      (pollUpTo poll count second.value).value.answer?
  polled_eq : ∀ count,
    (pollUpTo poll count first.value).observations =
      (pollUpTo poll count second.value).observations
  came_to_eq : ∀ count,
    (pollOrDrop poll drop count first.value).value =
      (pollOrDrop poll drop count second.value).value
  given_up_eq : ∀ count,
    (pollOrDrop poll drop count first.value).observations =
      (pollOrDrop poll drop count second.value).observations

/-- The service with any number of spans around it is the routing service to all who use it. -/
theorem SubscribeService.alike_stacked (schema : Schema) (layers call : Nat)
    (request : SubscribeRequest) (current other : Option Span) :
    SubscribeFuture.Alike ((stacked schema layers).start call request current)
      ((routing schema).start call request other) := by
  have value := value_start_routing schema call request other none
  have wraps := value_start_stacked schema call request layers current
  refine ⟨?_, ?_, fun count => ?_, fun count => ?_, fun count => ?_, fun count => ?_⟩
  · have bare := observations_start_stacked schema call request 0 other
    exact (observations_start_stacked schema call request layers current).trans bare.symm
  · have bare := effects_start_stacked schema call request 0 other
    exact (effects_start_stacked schema call request layers current).trans bare.symm
  · rw [wraps, value, SubscribeFuture.value_pollUpTo_wrapped]
    cases (pollUpTo SubscribeFuture.poll count _).value <;> rfl
  · rw [wraps, value, SubscribeFuture.observations_pollUpTo_wrapped]
  · rw [wraps, value, (SubscribeFuture.pollOrDrop_wrapped call layers count _).1]
  · rw [wraps, value, (SubscribeFuture.pollOrDrop_wrapped call layers count _).2]

/-- If a field is not in the schema nothing of any operation is observed, whenever the future is
given up. -/
theorem observations_pollOrDrop_of_unknown {schema : Schema} {request : SubscribeRequest}
    (unknown : schema.resolver? request.field = none) (layers call : Nat)
    (current : Option Span) (count : Nat) :
    (pollOrDrop SubscribeFuture.poll SubscribeFuture.drop count
      ((SubscribeService.stacked schema layers).start call request current).value).observations =
        [] := by
  have routed := SubscribeService.start_routing_of_none call unknown
  rw [SubscribeService.value_start_stacked, routed,
    (SubscribeFuture.pollOrDrop_wrapped call layers count _).2]
  cases count with
  | zero => rfl
  | succ count => exact pollOrDrop_succ_of_ready SubscribeFuture.drop rfl count

/-- After any calls that put fields into a registry, of whatever settings, and a freeze, a request
for any field is served alike by the bare service and by the service inside any number of spans,
one of which makes the service that the engine calls: they answer the same at every poll, and the
same is observed of the operation, whenever the future is given up. On both sides that is what the
first accepted registration of the field says, from the call before there is a future to the end of
the handle or stream; of a field without one nothing is observed at all. -/
theorem spans_around_service_transparent (config : RegistryConfig) (calls : List FieldCall)
    (layers call : Nat) (request : SubscribeRequest) (current other : Option Span) :
    let done := ((Registry.new config).performAll (calls.map FieldCall.call)).value
    let schema := done.1.freeze.value.2
    let inside := (SubscribeService.stacked schema layers).start call request current
    let bare := (SubscribeService.routing schema).start call request other
    SubscribeFuture.Alike inside bare ∧
      match firstAccepted? request.field calls done.2 with
      | none => ∀ started ∈ [inside, bare], Unserved request.field started ∧
          ∀ count, (pollOrDrop SubscribeFuture.poll SubscribeFuture.drop count
            started.value).observations = []
      | some registration =>
        ∀ started ∈ [inside, bare], registration.Attends call request.ctx started := by
  intro done schema inside bare
  refine ⟨SubscribeService.alike_stacked schema layers call request current other, ?_⟩
  -- the bare service is the one inside no span
  have unlayered : bare = (SubscribeService.stacked schema 0).start call request other := rfl
  have routed := resolver?_of_firstAccepted config calls request.field
  cases accepted : firstAccepted? request.field calls done.2 with
  | none =>
    simp only [done, accepted] at routed
    intro started either
    rcases List.mem_pair.1 either with rfl | rfl
    · exact ⟨unserved_of_resolver routed layers call current,
        observations_pollOrDrop_of_unknown routed layers call current⟩
    · rw [unlayered]
      exact ⟨unserved_of_resolver routed 0 call other,
        observations_pollOrDrop_of_unknown routed 0 call other⟩
  | some registration =>
    simp only [done, accepted] at routed
    obtain ⟨descriptor, compiled, known⟩ := routed
    intro started either
    rcases List.mem_pair.1 either with rfl | rfl
    · exact registration.attends_of_resolver compiled known layers call current
    · rw [unlayered]
      exact registration.attends_of_resolver compiled known 0 call other

end SubscriptionFields
