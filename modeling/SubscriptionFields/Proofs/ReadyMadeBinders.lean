import SubscriptionFields.Proofs.BindingOrder

/-!
# Ready-made binders read only what they name

A binder is given the whole context of a request. One that comes ready made reads a single piece of
it at most: the source, or the argument that it names. So two requests that agree on the pieces that
the binders of a field read have the same call, down to the allocations of what is passed, whatever
else the requests carry (`Registration.subscribe_of_readsAlike`).

What is bound is a rule about these pieces alone (`ReceiverBinder.Binds`, `ArgumentBinder.Binds`).
An argument that is there without a value is bound like any other, so the only failure is a required
argument that is absent. The call fails with the first such name in the order of the binders
(`Registration.bound_of_firstMissing`); if there is none, all binders bind by their rules
(`Registration.exists_binds`, `Registration.bound_of_binds`).
-/

set_option autoImplicit false

namespace SubscriptionFields

/-! ## Single binders -/

namespace ReceiverBinder

/-- Whether a receiver binder comes ready made. -/
def IsReadyMade : ReceiverBinder → Prop
  | .source => True
  | .fixed _ => True
  | .computed _ => False

/-- What a ready-made receiver binder binds in a context. -/
inductive Binds (ctx : RequestContext) : ReceiverBinder → SourceValue → Prop
  | source : Binds ctx .source ctx.source
  | fixed (value : SourceValue) : Binds ctx (.fixed value) value

variable {binder : ReceiverBinder} {ctx first second : RequestContext}

/-- A receiver binder that binds a value by its rule answers that value. -/
theorem Binds.evaluate {value : SourceValue} (binds : binder.Binds ctx value)
    (site : BindingSite) : binder.evaluate site ctx = .ok value := by
  cases binds <;> rfl

/-- A ready-made receiver binder never fails. -/
theorem exists_binds (ready : binder.IsReadyMade) (ctx : RequestContext) :
    ∃ value, binder.Binds ctx value := by
  cases binder with
  | source => exact ⟨ctx.source, .source⟩
  | fixed value => exact ⟨value, .fixed value⟩
  | computed compute => exact ready.elim

/-- A ready-made receiver binder does the same in contexts that agree on the source if it reads it.
-/
theorem bind_of_alike (ready : binder.IsReadyMade)
    (alike : binder = .source → first.source = second.source) (label : String)
    (call other : Nat) : binder.bind label call first = binder.bind label other second := by
  cases binder with
  | source => simp only [bind, evaluation, alike rfl]
  | fixed value => rfl
  | computed compute => exact ready.elim

end ReceiverBinder

namespace ArgumentBinder

/-- Whether an argument binder comes ready made. -/
def IsReadyMade : ArgumentBinder → Prop
  | .named _ _ => True
  | .constant _ => True
  | .computed _ => False

/-- What a ready-made argument binder binds in a context. An argument that is present binds what it
is present with, which may be no value; one that is absent binds no value, if it may be absent. -/
inductive Binds (ctx : RequestContext) : ArgumentBinder → SourceValue → Prop
  | present {name : String} {required : Bool} {value : SourceValue}
      (found : ctx.argument? name = some value) : Binds ctx (.named name required) value
  | absent {name : String} (unfound : ctx.argument? name = none) :
      Binds ctx (.named name false) none
  | constant (value : SourceValue) : Binds ctx (.constant value) value

/-- The name of the argument that a binder requires and that a context does not have. -/
def missing? (ctx : RequestContext) : ArgumentBinder → Option String
  | .named name true => if ctx.argument? name = none then some name else none
  | _ => none

variable {binder : ArgumentBinder} {ctx first second : RequestContext}

/-- A binder misses a name exactly if it requires it and the context does not have it. -/
theorem missing?_eq_some_iff {name : String} :
    binder.missing? ctx = some name ↔
      binder = .named name true ∧ ctx.argument? name = none := by
  constructor
  · intro missing
    unfold missing? at missing
    split at missing
    · split at missing
      · rename_i unfound
        cases missing
        exact ⟨rfl, unfound⟩
      · cases missing
    · cases missing
  · rintro ⟨rfl, unfound⟩
    exact if_pos unfound

/-- A binder that misses a name fails with that name. -/
theorem evaluate_of_missing {name : String} (missing : binder.missing? ctx = some name)
    (site : BindingSite) :
    binder.evaluate site ctx = .error (.ofKnown (.missingArgument name)) := by
  obtain ⟨rfl, unfound⟩ := missing?_eq_some_iff.1 missing
  simp [evaluate, evaluation, unfound]

/-- An argument binder that binds a value by its rule answers that value. -/
theorem Binds.evaluate {value : SourceValue} (binds : binder.Binds ctx value)
    (site : BindingSite) : binder.evaluate site ctx = .ok value := by
  cases binds with
  | present found => simp [ArgumentBinder.evaluate, evaluation, found]
  | absent unfound => simp [ArgumentBinder.evaluate, evaluation, unfound]
  | constant => rfl

/-- A ready-made argument binder fails for nothing but a missing argument. -/
theorem exists_binds (ready : binder.IsReadyMade) (complete : binder.missing? ctx = none) :
    ∃ value, binder.Binds ctx value := by
  cases binder with
  | named name required =>
    cases found : ctx.argument? name with
    | some value => exact ⟨value, .present found⟩
    | none =>
      cases required with
      | true => simp [missing?, found] at complete
      | false => exact ⟨none, .absent found⟩
  | constant value => exact ⟨value, .constant value⟩
  | computed compute => exact ready.elim

/-- A ready-made argument binder does the same in contexts that agree on the name that it reads. -/
theorem bind_of_alike (ready : binder.IsReadyMade)
    (alike : ∀ name required, binder = .named name required →
      first.argument? name = second.argument? name)
    (label : String) (call other index : Nat) :
    binder.bind label call first index = binder.bind label other second index := by
  cases binder with
  | named name required => simp only [bind, evaluation, alike name required rfl]
  | constant value => rfl
  | computed compute => exact ready.elim

end ArgumentBinder

/-! ## The binders of a call -/

namespace Binding

/-- Binders in two parts answer part by part, the second from where the first ends. -/
theorem argumentAnswers_append (call : Nat) (ctx : RequestContext)
    (before after : List ArgumentBinder) (index : Nat) :
    argumentAnswers call ctx (before ++ after) index =
      argumentAnswers call ctx before index ++
        argumentAnswers call ctx after (index + before.length) := by
  unfold argumentAnswers
  rw [List.zipIdx_append, List.map_append]

/-- Argument binders that bind by their rules all answer. -/
theorem argumentAnswers_of_binds {ctx : RequestContext} {arguments : List ArgumentBinder}
    {values : List SourceValue} (binds : List.Forall₂ (ArgumentBinder.Binds ctx) arguments values)
    (call index : Nat) : argumentAnswers call ctx arguments index = values.map .ok := by
  induction binds generalizing index with
  | nil => rfl
  | cons head rest ih =>
    have behind := ih (index + 1)
    unfold argumentAnswers at behind ⊢
    rw [List.zipIdx_cons, List.map_cons, List.map_cons, behind, head.evaluate]

/-- Ready-made argument binders of which none misses its argument bind by their rules. -/
theorem exists_binds {ctx : RequestContext} {arguments : List ArgumentBinder}
    (ready : ∀ binder ∈ arguments, binder.IsReadyMade)
    (complete : ∀ binder ∈ arguments, binder.missing? ctx = none) :
    ∃ values, List.Forall₂ (ArgumentBinder.Binds ctx) arguments values := by
  induction arguments with
  | nil => exact ⟨[], .nil⟩
  | cons binder binders ih =>
    rw [List.forall_mem_cons] at ready complete
    obtain ⟨value, head⟩ := ArgumentBinder.exists_binds ready.1 complete.1
    obtain ⟨values, rest⟩ := ih ready.2 complete.2
    exact ⟨value :: values, .cons head rest⟩

end Binding

namespace OperationDescriptor

/-- Ready-made argument binders do the same in contexts that agree on the names that they read. -/
theorem bindArguments_of_alike {first second : RequestContext} {arguments : List ArgumentBinder}
    (ready : ∀ binder ∈ arguments, binder.IsReadyMade)
    (alike : ∀ name required, .named name required ∈ arguments →
      first.argument? name = second.argument? name)
    (label : String) (call other index : Nat) :
    bindArguments label call first index arguments =
      bindArguments label other second index arguments := by
  induction arguments generalizing index with
  | nil => rfl
  | cons binder binders ih =>
    rw [List.forall_mem_cons] at ready
    have same := ArgumentBinder.bind_of_alike ready.1
      (fun name required here => alike name required (here ▸ List.mem_cons_self))
      label call other index
    have rest := ih ready.2
      (fun name required behind => alike name required (List.mem_cons_of_mem _ behind)) (index + 1)
    unfold bindArguments
    rw [same, rest]

/-- A call fails with an error: nothing is called, and the handle has the error at its first
poll. -/
structure Fails (descriptor : OperationDescriptor) (call : Nat) (ctx : RequestContext)
    (error : FieldError) : Prop where
  uncalled : (descriptor.subscribe call ctx).observations.filter Observation.isInvocation = []
  ready : (descriptor.subscribe call ctx).value.poll = pure (.ready (.error error))

variable {descriptor : OperationDescriptor} {call : Nat} {ctx : RequestContext}

/-- A call fails with one error only. -/
theorem Fails.unique {first second : FieldError} (one : descriptor.Fails call ctx first)
    (other : descriptor.Fails call ctx second) : first = second := by
  have same := congrArg Noted.value (one.ready.symm.trans other.ready)
  injection same with same
  injection same

end OperationDescriptor

/-! ## Registered fields -/

namespace Registration

/-- All binders of a registered field come ready made. -/
structure ReadyMade (registration : Registration) : Prop where
  receiver : registration.receiver.IsReadyMade
  arguments : ∀ binder ∈ registration.arguments, binder.IsReadyMade

/-- Two contexts agree on what the binders of a registered field name: on every argument, that is
on whether it is absent, present without a value, or present with which object; and on the source,
if that is the receiver. -/
structure ReadsAlike (registration : Registration) (first second : RequestContext) : Prop where
  source : registration.receiver = .source → first.source = second.source
  arguments : ∀ name required, .named name required ∈ registration.arguments →
    first.argument? name = second.argument? name

/-- The first of the required names, in the order of the binders, that a context does not have. -/
def firstMissing? (registration : Registration) (ctx : RequestContext) : Option String :=
  registration.arguments.findSome? fun binder => binder.missing? ctx

/-- A receiver and arguments are what the binders of a registered field bind. -/
structure Binds (registration : Registration) (ctx : RequestContext) (source : SourceValue)
    (values : List SourceValue) : Prop where
  receiver : registration.receiver.Binds ctx source
  arguments : List.Forall₂ (ArgumentBinder.Binds ctx) registration.arguments values

/-- A call passes a receiver and arguments to the operation: it is called with them, once, nothing
else is called, and the handle is what it returns for them, adapted. -/
structure Passes (registration : Registration) (descriptor : OperationDescriptor) (call : Nat)
    (ctx : RequestContext) (source : SourceValue) (values : List SourceValue) : Prop where
  invoked : (descriptor.subscribe call ctx).observations.filter Observation.isInvocation =
    [.invoked registration.operation.label source values]
  adapted : ∃ adapter, registration.type.returnAdapter = some adapter ∧
    (descriptor.subscribe call ctx).value =
      adapter.convert (registration.operation.run source values)

variable {registration : Registration} {descriptor : OperationDescriptor} {call : Nat}
  {ctx : RequestContext}

/-- A name is the first that is missing if it is required and absent, and nothing that is required
in front of it is absent. -/
theorem firstMissing?_eq_some_iff {name : String} :
    registration.firstMissing? ctx = some name ↔
      ∃ before after, registration.arguments = before ++ .named name true :: after ∧
        ctx.argument? name = none ∧
        ∀ binder ∈ before, binder.missing? ctx = none := by
  unfold firstMissing?
  rw [List.findSome?_eq_some_iff]
  constructor
  · rintro ⟨before, binder, after, split, missing, complete⟩
    obtain ⟨rfl, unfound⟩ := ArgumentBinder.missing?_eq_some_iff.1 missing
    exact ⟨before, after, split, unfound, complete⟩
  · rintro ⟨before, after, split, unfound, complete⟩
    have missing := ArgumentBinder.missing?_eq_some_iff.2 ⟨rfl, unfound⟩
    exact ⟨before, _, after, split, missing, complete⟩

/-- Some name is the first that is missing exactly if a required name is absent. -/
theorem exists_firstMissing?_iff :
    (∃ name, registration.firstMissing? ctx = some name) ↔
      ∃ name, .named name true ∈ registration.arguments ∧ ctx.argument? name = none := by
  constructor
  · rintro ⟨name, missing⟩
    obtain ⟨before, after, split, absent, -⟩ := firstMissing?_eq_some_iff.1 missing
    refine ⟨name, ?_, absent⟩
    rw [split]
    exact List.mem_append_right _ List.mem_cons_self
  · rintro ⟨name, required, absent⟩
    cases missing : registration.firstMissing? ctx with
    | some first => exact ⟨first, rfl⟩
    | none =>
      have present := List.findSome?_eq_none_iff.1 missing _ required
      rw [ArgumentBinder.missing?_eq_some_iff.2 ⟨rfl, absent⟩] at present
      cases present

/-! ## What is bound -/

/-- Binders that all bind by their rules bind the call. -/
theorem bound_of_binds {source : SourceValue} {values : List SourceValue}
    (binds : registration.Binds ctx source values) (call : Nat) :
    registration.bound call ctx = .ok (source, values) := by
  apply Binding.outcome_of_values
  unfold Binding.answers
  rw [binds.receiver.evaluate, Binding.argumentAnswers_of_binds binds.arguments, List.map_cons]

/-- If no required argument is missing, all binders bind. -/
theorem exists_binds (ready : registration.ReadyMade)
    (complete : registration.firstMissing? ctx = none) :
    ∃ source values, registration.Binds ctx source values := by
  obtain ⟨source, receiver⟩ := ReceiverBinder.exists_binds ready.receiver ctx
  obtain ⟨values, arguments⟩ := Binding.exists_binds ready.arguments
    (List.findSome?_eq_none_iff.1 complete)
  exact ⟨source, values, receiver, arguments⟩

/-- If a required argument is missing, binding fails with the first such name. -/
theorem bound_of_firstMissing (ready : registration.ReadyMade) {name : String}
    (missing : registration.firstMissing? ctx = some name) (call : Nat) :
    registration.bound call ctx = .error (.ofKnown (.missingArgument name)) := by
  obtain ⟨before, after, split, unfound, complete⟩ := firstMissing?_eq_some_iff.1 missing
  obtain ⟨source, receiver⟩ := ReceiverBinder.exists_binds ready.receiver ctx
  have front : ∀ binder ∈ before, binder.IsReadyMade := by
    intro binder listed
    apply ready.arguments
    rw [split]
    exact List.mem_append_left _ listed
  obtain ⟨values, binds⟩ := Binding.exists_binds front complete
  have fails := ArgumentBinder.evaluate_of_missing
    (ArgumentBinder.missing?_eq_some_iff.2 ⟨rfl, unfound⟩)
    { call, position := 0 + before.length + 1 }
  apply Binding.outcome_eq_error_iff.2
  refine ⟨(source :: values).map .ok,
    Binding.argumentAnswers call ctx after (0 + before.length + 1), ?_, ?_⟩
  · unfold Binding.answers
    rw [receiver.evaluate, split, Binding.argumentAnswers_append,
      Binding.argumentAnswers_of_binds binds, ← fails]
    rfl
  · intro answer listed
    obtain ⟨value, -, rfl⟩ := List.mem_map.1 listed
    rfl

/-! ## What a call does -/

/-- A call that passes something does not fail. -/
theorem Passes.not_fails {source : SourceValue} {values : List SourceValue} {error : FieldError}
    (passes : registration.Passes descriptor call ctx source values) :
    ¬descriptor.Fails call ctx error := by
  intro fails
  cases passes.invoked.symm.trans fails.uncalled

/-- A call passes what its binders bind by their rules. -/
theorem passes_of_binds (compiled : registration.compile.value = .ok descriptor)
    {source : SourceValue} {values : List SourceValue}
    (binds : registration.Binds ctx source values) (call : Nat) :
    registration.Passes descriptor call ctx source values where
  invoked := by
    have bound := bound_of_binds binds call
    have silent := List.countP_eq_zero.1 (countP_trace registration call ctx)
    have announced := List.countP_eq_zero.1
      (registration.type.countP_announce (registration.operation.run source values))
    rw [observations_subscribe compiled, observedCall, bound, List.filter_append,
      List.filter_eq_nil_iff.2 silent, List.filter_cons_of_pos rfl,
      List.filter_eq_nil_iff.2 announced]
    rfl
  adapted := value_subscribe_of_bound_ok compiled (bound_of_binds binds call)

/-- A call fails with the error that its binding has. -/
theorem fails_of_bound (compiled : registration.compile.value = .ok descriptor)
    {error : FieldError} (failed : registration.bound call ctx = .error error) :
    descriptor.Fails call ctx error where
  uncalled := by
    have silent := List.countP_eq_zero.1 (countP_trace registration call ctx)
    rw [observations_subscribe compiled, observedCall, failed, List.append_nil,
      List.filter_eq_nil_iff.2 silent]
  ready := by
    rw [value_subscribe_of_bound_error compiled failed]
    rfl

/-- A call of a field with ready-made binders passes on what they bind, or fails with the first
required argument that is missing. -/
theorem passes_or_fails (compiled : registration.compile.value = .ok descriptor)
    (ready : registration.ReadyMade) (call : Nat) (ctx : RequestContext) :
    (∃ source values, registration.Binds ctx source values ∧
      registration.Passes descriptor call ctx source values) ∨
    ∃ name, registration.firstMissing? ctx = some name ∧
      descriptor.Fails call ctx (.ofKnown (.missingArgument name)) := by
  cases missing : registration.firstMissing? ctx with
  | none =>
    obtain ⟨source, values, binds⟩ := exists_binds ready missing
    exact .inl ⟨source, values, binds, passes_of_binds compiled binds call⟩
  | some name =>
    exact .inr ⟨name, rfl, fails_of_bound compiled (bound_of_firstMissing ready missing call)⟩

/-- With ready-made binders, what is passed is exactly what they bind by their rules. -/
theorem passes_iff (compiled : registration.compile.value = .ok descriptor)
    (ready : registration.ReadyMade) {source : SourceValue} {values : List SourceValue} :
    registration.Passes descriptor call ctx source values ↔
      registration.Binds ctx source values := by
  constructor
  · intro passes
    rcases passes_or_fails compiled ready call ctx with
      ⟨bound, arguments, binds, passed⟩ | ⟨name, -, fails⟩
    · -- an operation that is called once is called with one receiver and one list of arguments
      cases passes.invoked.symm.trans passed.invoked
      exact binds
    · exact absurd fails passes.not_fails
  · intro binds
    exact passes_of_binds compiled binds call

/-- With ready-made binders, a call fails exactly for the first name that is missing. -/
theorem fails_iff (compiled : registration.compile.value = .ok descriptor)
    (ready : registration.ReadyMade) {error : FieldError} :
    descriptor.Fails call ctx error ↔
      ∃ name, registration.firstMissing? ctx = some name ∧
        error = .ofKnown (.missingArgument name) := by
  constructor
  · intro fails
    rcases passes_or_fails compiled ready call ctx with
      ⟨source, values, -, passes⟩ | ⟨name, missing, failed⟩
    · exact absurd fails passes.not_fails
    · exact ⟨name, missing, fails.unique failed⟩
  · rintro ⟨name, missing, rfl⟩
    exact fails_of_bound compiled (bound_of_firstMissing ready missing call)

/-- A field with ready-made binders does the same for requests that agree on what they name: the
same binders are evaluated, the same is passed on, and the same handle is returned. -/
theorem subscribe_of_readsAlike (compiled : registration.compile.value = .ok descriptor)
    (ready : registration.ReadyMade) {first second : RequestContext}
    (alike : registration.ReadsAlike first second) (call other : Nat) :
    descriptor.subscribe call first = descriptor.subscribe other second := by
  obtain ⟨-, -, -, receiver, arguments, -, -⟩ := of_compile compiled
  have source := ReceiverBinder.bind_of_alike ready.receiver alike.source descriptor.label call
    other
  have rest := OperationDescriptor.bindArguments_of_alike ready.arguments alike.arguments
    descriptor.label call other 0
  have bound : descriptor.bindCall call first = descriptor.bindCall other second := by
    unfold OperationDescriptor.bindCall
    rw [receiver, arguments, source, rest]
  unfold OperationDescriptor.subscribe
  rw [bound]

/-- Ready-made binders read only what they name. Requests that agree on the named arguments, and on
the source if it is the receiver, have the same call: the operation is passed the same receiver and
the same arguments, or both calls fail with the same error. What is passed are the values that the
binders name. A call fails exactly if a required argument is absent, and then for the first such
name; an argument that is present without a value is passed on. -/
theorem readyMade_binders_read_only_named
    (compiled : registration.compile.value = .ok descriptor) (ready : registration.ReadyMade) :
    (∀ first second, registration.ReadsAlike first second → ∀ call other,
      descriptor.subscribe call first = descriptor.subscribe other second ∧
      ((∃ source values, registration.Passes descriptor call first source values ∧
          registration.Passes descriptor other second source values) ∨
        ∃ error, descriptor.Fails call first error ∧ descriptor.Fails other second error)) ∧
    ∀ call ctx,
      (∀ source values, registration.Passes descriptor call ctx source values ↔
        registration.Binds ctx source values) ∧
      ((∃ error, descriptor.Fails call ctx error) ↔
        ∃ name, .named name true ∈ registration.arguments ∧ ctx.argument? name = none) ∧
      ∀ error, descriptor.Fails call ctx error ↔
        ∃ name, registration.firstMissing? ctx = some name ∧
          error = .ofKnown (.missingArgument name) := by
  constructor
  · intro first second alike call other
    have same := subscribe_of_readsAlike compiled ready alike call other
    refine ⟨same, ?_⟩
    rcases passes_or_fails compiled ready call first with
      ⟨source, values, -, passes⟩ | ⟨name, -, fails⟩
    · have invoked := passes.invoked
      have adapted := passes.adapted
      rw [same] at invoked adapted
      exact .inl ⟨source, values, passes, invoked, adapted⟩
    · have uncalled := fails.uncalled
      have ready := fails.ready
      rw [same] at uncalled ready
      exact .inr ⟨_, fails, uncalled, ready⟩
  · intro call ctx
    refine ⟨fun source values => passes_iff compiled ready, ?_, fun error =>
      fails_iff compiled ready⟩
    rw [← exists_firstMissing?_iff]
    constructor
    · rintro ⟨error, fails⟩
      obtain ⟨name, missing, -⟩ := (fails_iff compiled ready).1 fails
      exact ⟨name, missing⟩
    · rintro ⟨name, missing⟩
      exact ⟨_, (fails_iff compiled ready).2 ⟨name, missing, rfl⟩⟩

/-- A field whose operation belongs to a service and takes the room of the request, a limit if there
is one, and a fixed mark. -/
def roomRegistration : Registration where
  field := "messages"
  type := .stream (.shared "Message")
  receiver := .fixed (some (.plain (.entry 0) "Rooms" (.single .unit)))
  arguments := [.named "room" true, .named "limit" false,
    .constant (some (.plain (.entry 1) textTypeName (.single (.text "mark"))))]
  operation := { label := "messages", run := fun _ _ => { op := "messages", steps := [] } }
  allocation := .minted 0 0

/-- A tenant's request for no room in particular, with a token and a source. -/
def tenantRequest : RequestContext where
  traceId := "trace-1"
  tenantId := some "acme"
  source := some (.plain (.entry 2) "Root" (.single .unit))
  arguments := .ofList
    [("token", some (.plain (.entry 3) textTypeName (.single (.text "secret")))), ("room", none)]

/-- Neither the tenant nor its token or source matter to the rooms; a request that names no room at
all fails. -/
theorem readyMade_binders_read_only_named_room :
    ∃ descriptor, roomRegistration.compile.value = .ok descriptor ∧ roomRegistration.ReadyMade ∧
      let other := RequestContext.withArgument {} "room" none
      roomRegistration.ReadsAlike tenantRequest other ∧
      descriptor.subscribe 0 tenantRequest = descriptor.subscribe 1 other ∧
      roomRegistration.Passes descriptor 0 tenantRequest
        (some (.plain (.entry 0) "Rooms" (.single .unit)))
        [none, none, some (.plain (.entry 1) textTypeName (.single (.text "mark")))] ∧
      descriptor.Fails 0 {} (.ofKnown (.missingArgument "room")) := by
  have ready : roomRegistration.ReadyMade := by
    refine ⟨trivial, ?_⟩
    simp [roomRegistration, ArgumentBinder.IsReadyMade]
  have alike : roomRegistration.ReadsAlike tenantRequest
      (RequestContext.withArgument {} "room" none) := by
    refine ⟨nofun, ?_⟩
    intro name required listed
    simp only [roomRegistration, List.mem_cons, ArgumentBinder.named.injEq, reduceCtorEq,
      List.not_mem_nil, or_false] at listed
    rcases listed with ⟨rfl, -⟩ | ⟨rfl, -⟩ <;> rfl
  refine ⟨_, rfl, ready, alike, ?_, ?_, ?_⟩
  · exact ((readyMade_binders_read_only_named rfl ready).1 _ _ alike 0 1).1
  · apply (((readyMade_binders_read_only_named rfl ready).2 0 tenantRequest).1 _ _).2
    refine ⟨.fixed _, ?_⟩
    exact .cons (.present rfl) (.cons (.absent rfl) (.cons (.constant _) .nil))
  · exact (((readyMade_binders_read_only_named rfl ready).2 0 {}).2.2 _).2 ⟨"room", rfl, rfl⟩

end Registration

end SubscriptionFields
