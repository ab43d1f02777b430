import Mathlib.Data.List.Nodup
import SubscriptionFields.Proofs.Interleaving
import SubscriptionFields.Proofs.SequentialHistory

/-!
# Concurrent calls are linearizable

A call of a shared registry takes effect in one single step of its caller, the one with which it has
its answer. A registration that is refused while it is prepared takes effect there, since a later
freeze must not change its answer; any other registration takes effect when it is published, since
only then it is decided who comes first. `SharedRegistry.history` lists the calls in the order in
which they take effect.

What carries the proof is an account of every state that is reached (`Accounts`): made one after the
other, the calls that are answered so far return their answers and lead to the registry of that
state. Each step keeps it (`accounts_step`), and so does every schedule (`accounts_run`). Hence the
history of a schedule is a sequential order of its calls (`linearizes_history`), and what is known
of calls that are made one after the other is known of all schedules.
-/

set_option autoImplicit false

namespace SubscriptionFields

namespace SharedRegistry

/-! ## Statements -/

/-- The answer that the call of a caller has come to. -/
def answer? (state : SharedRegistry) (caller : Nat) : Option CallResult :=
  state.callers[caller]?.bind CallProgress.answer?

/-- At some time of a schedule one call has its answer while the other has not begun. -/
def AnsweredBefore (state : SharedRegistry) (schedule : List Nat) (first second : Nat) : Prop :=
  ∃ earlier, earlier <+: schedule ∧
    (∃ result, (state.run earlier).value.answer? first = some result) ∧
    ∃ call, (state.run earlier).value.callers[second]? = some (.waiting call)

/-- A sequential history explains a schedule: made one after the other, its calls return what they
are answered in the schedule and lead to the same registry. It lists the calls that have an answer,
each once, and a call that had its answer before another began stands in front of it. -/
structure Linearizes (state : SharedRegistry) (calls : List RegistryCall) (schedule : List Nat)
    (history : List AnsweredCall) : Prop where
  replays : state.registry.Replays history (state.run schedule).value.registry
  nodup : (history.map AnsweredCall.caller).Nodup
  mem_iff : ∀ entry, entry ∈ history ↔ calls[entry.caller]? = some entry.call ∧
    (state.run schedule).value.answer? entry.caller = some entry.result
  respects : ∀ first ∈ history, ∀ second ∈ history,
    state.AnsweredBefore schedule first.caller second.caller → [first, second].Sublist history

/-- The calls of a field compete for it: no call freezes the registry, and those for the field are
registrations whose return types can back a subscription. -/
structure Contested (calls : List RegistryCall) (field : String) : Prop where
  keeps_open : ∀ call ∈ calls, call.field?.isSome
  registers : ∀ call ∈ calls, call.field? = some field → ∃ registration shape,
    call = .register registration ∧ registration.type.describe.classify = .ok shape

/-- Of the calls for a field one has won: its own descriptor is found under the field, and it was
answered that descriptor. All others that have an answer were answered as for a taken field. -/
def Won (config : RegistryConfig) (calls : List RegistryCall) (done : SharedRegistry)
    (field : String) : Prop :=
  ∃ (winner : Nat) (registration : Registration) (descriptor : OperationDescriptor),
    calls[winner]? = some (.register registration) ∧ registration.field = field ∧
    registration.compile.value = .ok descriptor ∧
    done.answer? winner = some (.registered (.ok descriptor)) ∧
    done.registry.get? field = some descriptor ∧
    ∀ (other : Nat) (call : RegistryCall) (result : CallResult), other ≠ winner →
      calls[other]? = some call → call.field? = some field →
        done.answer? other = some result →
          result = .registered (config.answerTaken field descriptor)

/-! ## The order of effects -/

/-- The call that gets its answer between two states, if there is one. -/
def answeredBetween (calls : List RegistryCall) (before after : SharedRegistry) (caller : Nat) :
    List AnsweredCall :=
  match before.answer? caller, after.answer? caller, calls[caller]? with
  | none, some result, some call => [⟨caller, call, result⟩]
  | _, _, _ => []

/-- The calls of a schedule in the order in which they take effect. -/
def history (calls : List RegistryCall) (state : SharedRegistry) : List Nat → List AnsweredCall
  | [] => []
  | caller :: schedule =>
    answeredBetween calls state (state.step caller).value caller ++
      history calls (state.step caller).value schedule

/-- The history of a schedule in two parts is that of the first and then that of the second. -/
theorem history_append (calls : List RegistryCall) (state : SharedRegistry)
    (earlier later : List Nat) :
    history calls state (earlier ++ later) =
      history calls state earlier ++ history calls (state.run earlier).value later := by
  induction earlier generalizing state with
  | nil => rfl
  | cons caller earlier ih =>
    rw [List.cons_append, history, history, ih, List.append_assoc, run_cons]

/-- What a caller is answered can be read off its progress. -/
theorem answer?_of_some {state : SharedRegistry} {caller : Nat} {progress : CallProgress}
    (here : state.callers[caller]? = some progress) :
    state.answer? caller = progress.answer? := by
  rw [answer?, here]
  rfl

/-- Moving one caller leaves the answers of all others. -/
theorem answer?_moved {state : SharedRegistry} {caller : Nat} {progress : CallProgress}
    (here : state.callers[caller]? = some progress) (registry : Registry) (next : CallProgress)
    (other : Nat) :
    (state.moved caller registry next).answer? other =
      if caller = other then next.answer? else state.answer? other := by
  rw [answer?, callers_moved here]
  split <;> rfl

/-! ## Accounts -/

/-- The calls that are answered in a state, as a history that leads to its registry; of the others,
it is known what they still have to do. -/
structure Accounts (registry : Registry) (calls : List RegistryCall) (state : SharedRegistry)
    (history : List AnsweredCall) : Prop where
  replays : registry.Replays history state.registry
  nodup : (history.map AnsweredCall.caller).Nodup
  call_eq : ∀ entry ∈ history, calls[entry.caller]? = some entry.call
  answer?_iff : ∀ caller result, state.answer? caller = some result ↔
    ∃ entry ∈ history, entry.caller = caller ∧ entry.result = result
  waiting : ∀ (caller : Nat) (call : RegistryCall),
    state.callers[caller]? = some (.waiting call) → calls[caller]? = some call
  prepared : ∀ (caller : Nat) (descriptor : OperationDescriptor),
    state.callers[caller]? = some (.prepared (.ok descriptor)) →
      ∃ registration, calls[caller]? = some (.register registration) ∧
        registration.compile.value = .ok descriptor

/-- Before anyone has begun, no call is answered. -/
theorem accounts_start (registry : Registry) (calls : List RegistryCall) :
    Accounts registry calls (start registry calls) [] where
  replays := Registry.replays_nil registry
  nodup := List.nodup_nil
  call_eq entry listed := by cases listed
  answer?_iff caller result := by
    have unanswered : (start registry calls).answer? caller = none := by
      simp [answer?, start, CallProgress.answer?, Option.bind_map, Function.comp_def]
    rw [unanswered]
    constructor
    · intro answered
      cases answered
    · rintro ⟨entry, listed, -⟩
      cases listed
  waiting caller call here := by simpa [start] using here
  prepared caller descriptor here := by simp [start] at here

section

variable {registry : Registry} {calls : List RegistryCall} {state : SharedRegistry}
  {history : List AnsweredCall} {caller : Nat} {old next : CallProgress}

/-- A step with which no call gets its answer. -/
theorem Accounts.moved (accounts : Accounts registry calls state history)
    (here : state.callers[caller]? = some old) (same : next.answer? = old.answer?)
    (begun : ∀ call, next ≠ .waiting call)
    (prepared : ∀ descriptor, next = .prepared (.ok descriptor) →
      ∃ registration, calls[caller]? = some (.register registration) ∧
        registration.compile.value = .ok descriptor) :
    Accounts registry calls (state.moved caller state.registry next) history where
  replays := accounts.replays
  nodup := accounts.nodup
  call_eq := accounts.call_eq
  answer?_iff other result := by
    have stays : (state.moved caller state.registry next).answer? other =
        state.answer? other := by
      rw [answer?_moved here]
      split
      · rename_i itself
        rw [← itself, answer?_of_some here, same]
      · rfl
    rw [stays]
    exact accounts.answer?_iff other result
  waiting other call there := by
    rw [callers_moved here] at there
    split at there
    · exact absurd (Option.some.inj there) (begun call)
    · exact accounts.waiting other call there
  prepared other descriptor there := by
    rw [callers_moved here] at there
    split at there
    · rename_i itself
      rw [← itself]
      exact prepared descriptor (Option.some.inj there)
    · exact accounts.prepared other descriptor there

/-- A caller without an answer is not in the history. -/
theorem Accounts.caller_ne (accounts : Accounts registry calls state history)
    (here : state.callers[caller]? = some old) (unanswered : old.answer? = none) :
    ∀ entry ∈ history, caller ≠ entry.caller := by
  intro entry listed same
  have before := (accounts.answer?_iff caller entry.result).2 ⟨entry, listed, same.symm, rfl⟩
  rw [answer?_of_some here, unanswered] at before
  cases before

/-- A step with which a call gets its answer. -/
theorem Accounts.answered (accounts : Accounts registry calls state history)
    (here : state.callers[caller]? = some old) (unanswered : old.answer? = none)
    {call : RegistryCall} {result : CallResult} {after : Registry}
    (made : calls[caller]? = some call)
    (performed : (state.registry.perform call).value = (after, result))
    (answered : next.answer? = some result) :
    Accounts registry calls (state.moved caller after next)
      (history ++ [⟨caller, call, result⟩]) where
  replays := accounts.replays.snoc performed
  nodup := by
    rw [List.map_append, List.map_singleton]
    refine List.nodup_append.2 ⟨accounts.nodup, List.nodup_singleton _, ?_⟩
    intro first listed second new same
    rw [List.mem_singleton] at new
    obtain ⟨entry, member, by_caller⟩ := List.mem_map.1 listed
    apply accounts.caller_ne here unanswered entry member
    rw [by_caller, same, new]
  call_eq entry listed := by
    rcases List.mem_append.1 listed with old | new
    · exact accounts.call_eq entry old
    · rw [List.mem_singleton] at new
      rw [new]
      exact made
  answer?_iff other found := by
    rw [answer?_moved here]
    constructor
    · intro finds
      split at finds
      · rename_i itself
        rw [answered] at finds
        exact ⟨_, List.mem_append_right _ (List.mem_singleton_self _), itself,
          Option.some.inj finds⟩
      · obtain ⟨entry, member, rest⟩ := (accounts.answer?_iff other found).1 finds
        exact ⟨entry, List.mem_append_left _ member, rest⟩
    · rintro ⟨entry, member, rfl, rfl⟩
      rcases List.mem_append.1 member with old | new
      · rw [if_neg (accounts.caller_ne here unanswered entry old)]
        exact (accounts.answer?_iff entry.caller entry.result).2 ⟨entry, old, rfl, rfl⟩
      · rw [List.mem_singleton] at new
        rw [new, if_pos rfl]
        exact answered
  waiting other call there := by
    rw [callers_moved here] at there
    split at there
    · rw [Option.some.inj there] at answered
      cases answered
    · exact accounts.waiting other call there
  prepared other descriptor there := by
    rw [callers_moved here] at there
    split at there
    · rw [Option.some.inj there] at answered
      cases answered
    · exact accounts.prepared other descriptor there

/-- A call whose caller moves to an answer is answered by that step. -/
theorem answeredBetween_moved {call : RegistryCall} {result : CallResult} {after : Registry}
    (here : state.callers[caller]? = some old) (unanswered : old.answer? = none)
    (made : calls[caller]? = some call) (answered : next.answer? = some result) :
    answeredBetween calls state (state.moved caller after next) caller =
      [⟨caller, call, result⟩] := by
  simp [answeredBetween, answer?_of_some here, answer?_moved here, unanswered, answered, made]

/-- A step that leaves the answer of its caller as it was answers no call. -/
theorem answeredBetween_of_eq {after : SharedRegistry}
    (same : after.answer? caller = state.answer? caller) :
    answeredBetween calls state after caller = [] := by
  unfold answeredBetween
  rw [same]
  cases state.answer? caller <;> rfl

end

/-- A step adds to the history the call that gets its answer by it. -/
theorem accounts_step {registry : Registry} {calls : List RegistryCall} {state : SharedRegistry}
    {history : List AnsweredCall} (accounts : Accounts registry calls state history)
    (caller : Nat) :
    Accounts registry calls (state.step caller).value
      (history ++ answeredBetween calls state (state.step caller).value caller) := by
  have path := state.step_outcome caller
  generalize (state.step caller).value = after at path ⊢
  have silent {old next : CallProgress} (here : state.callers[caller]? = some old)
      (same : next.answer? = old.answer?) (begun : ∀ call, next ≠ .waiting call)
      (prepared : ∀ descriptor, next = .prepared (.ok descriptor) →
        ∃ registration, calls[caller]? = some (.register registration) ∧
          registration.compile.value = .ok descriptor) :
      Accounts registry calls (state.moved caller state.registry next)
        (history ++
          answeredBetween calls state (state.moved caller state.registry next) caller) := by
    have still : (state.moved caller state.registry next).answer? caller =
        state.answer? caller := by
      rw [answer?_moved here, if_pos rfl, answer?_of_some here, same]
    rw [answeredBetween_of_eq still, List.append_nil]
    exact accounts.moved here same begun prepared
  cases path with
  | absent here =>
    rw [answeredBetween_of_eq rfl, List.append_nil]
    exact accounts
  | refused registration error here performed =>
    have made := accounts.waiting caller _ here
    rw [answeredBetween_moved here rfl made rfl]
    exact accounts.answered here rfl made performed rfl
  | prepared registration descriptor here compiled =>
    refine silent here rfl ?_ ?_
    · rintro call ⟨⟩
    · rintro other ⟨⟩
      exact ⟨registration, accounts.waiting caller _ here, compiled⟩
  | performed call here single =>
    have made := accounts.waiting caller call here
    rw [answeredBetween_moved here rfl made rfl]
    exact accounts.answered here rfl made rfl rfl
  | committed descriptor here =>
    -- publishing what was prepared is registering it now, in one piece
    obtain ⟨registration, made, compiled⟩ := accounts.prepared caller descriptor here
    have performed : (state.registry.perform (.register registration)).value =
        ((state.registry.insert descriptor).value.1,
          .registered (state.registry.insert descriptor).value.2) := by
      simp only [Registry.perform, Noted.value_bind, Noted.value_pure,
        state.registry.register_of_compile compiled]
    rw [answeredBetween_moved here rfl made rfl]
    exact accounts.answered here rfl made performed rfl
  | returned error here =>
    refine silent here rfl ?_ ?_
    · rintro call ⟨⟩
    · rintro descriptor ⟨⟩
  | idle result here =>
    refine silent here rfl ?_ ?_
    · rintro call ⟨⟩
    · rintro descriptor ⟨⟩

/-- A schedule keeps the accounts. -/
theorem accounts_run {registry : Registry} {calls : List RegistryCall} (schedule : List Nat)
    {state : SharedRegistry} {before : List AnsweredCall}
    (accounts : Accounts registry calls state before) :
    Accounts registry calls (state.run schedule).value
      (before ++ history calls state schedule) := by
  induction schedule generalizing state before with
  | nil =>
    rw [history, List.append_nil]
    exact accounts
  | cons caller schedule ih =>
    have rest := ih (accounts_step accounts caller)
    rw [List.append_assoc] at rest
    exact rest

/-! ## Linearization -/

/-- The calls of a schedule, in the order in which they take effect, explain it. -/
theorem linearizes_history (registry : Registry) (calls : List RegistryCall)
    (schedule : List Nat) :
    (start registry calls).Linearizes calls schedule
      (history calls (start registry calls) schedule) := by
  have accountsOf (schedule : List Nat) := accounts_run schedule (accounts_start registry calls)
  simp only [List.nil_append] at accountsOf
  have accounts := accountsOf schedule
  refine ⟨accounts.replays, accounts.nodup, ?_, ?_⟩
  · intro entry
    constructor
    · intro listed
      exact ⟨accounts.call_eq entry listed,
        (accounts.answer?_iff entry.caller entry.result).2 ⟨entry, listed, rfl, rfl⟩⟩
    · rintro ⟨made, answered⟩
      obtain ⟨found, listed, by_caller, result⟩ :=
        (accounts.answer?_iff entry.caller entry.result).1 answered
      have call := accounts.call_eq found listed
      rw [by_caller, made] at call
      have same : found = entry := by
        cases found
        cases entry
        simp_all
      exact same ▸ listed
  · rintro first listed second after ⟨earlier, ⟨later, rfl⟩, ⟨result, answered⟩, call, waiting⟩
    rw [history_append] at listed after accounts ⊢
    -- the first call has its answer by then, the second one has none
    have inFirst : first ∈ history calls (start registry calls) earlier := by
      obtain ⟨found, member, by_caller, -⟩ :=
        ((accountsOf earlier).answer?_iff first.caller result).1 answered
      have same := List.inj_on_of_nodup_map accounts.nodup (List.mem_append_left _ member)
        listed by_caller
      exact same ▸ member
    have inSecond : second ∈ history calls ((start registry calls).run earlier).value later := by
      rcases List.mem_append.1 after with early | late
      · have found := ((accountsOf earlier).answer?_iff second.caller second.result).2
          ⟨second, early, rfl, rfl⟩
        rw [answer?_of_some waiting] at found
        cases found
      · exact late
    exact List.Sublist.append (List.singleton_sublist.2 inFirst)
      (List.singleton_sublist.2 inSecond)

/-! ## What follows from the sequential order -/

section

variable {registry : Registry} {calls : List RegistryCall} {schedule : List Nat}
  {history : List AnsweredCall}

/-- Calls that contest a field compete for it in every sequential order that explains them. -/
theorem Linearizes.competes (linearizes : (start registry calls).Linearizes calls schedule history)
    {field : String} (contested : Contested calls field) : Registry.Competes field history where
  keeps_open entry listed := by
    have made := ((linearizes.mem_iff entry).1 listed).1
    exact contested.keeps_open entry.call (List.mem_of_getElem? made)
  registers entry listed := by
    have made := ((linearizes.mem_iff entry).1 listed).1
    exact contested.registers entry.call (List.mem_of_getElem? made)

/-- Of the calls that compete for a free field, one of which has an answer, one has won. -/
theorem Linearizes.won (linearizes : (start registry calls).Linearizes calls schedule history)
    {field : String} (contested : Contested calls field) (opened : registry.frozen = false)
    (free : registry.get? field = none) {caller : Nat} {call : RegistryCall} {result : CallResult}
    (made : calls[caller]? = some call) (about : call.field? = some field)
    (answered : ((start registry calls).run schedule).value.answer? caller = some result) :
    Won registry.config calls ((start registry calls).run schedule).value field := by
  have competitor : ∃ entry ∈ history, entry.call.field? = some field :=
    ⟨⟨caller, call, result⟩, (linearizes.mem_iff _).2 ⟨made, answered⟩, about⟩
  obtain ⟨winner, listed, registration, descriptor, registered, own, compiled, won, found,
      others⟩ :=
    linearizes.replays.exists_winner (linearizes.competes contested) opened free competitor
  obtain ⟨winner_made, winner_done⟩ := (linearizes.mem_iff winner).1 listed
  rw [registered] at winner_made
  rw [won] at winner_done
  refine ⟨winner.caller, registration, descriptor, winner_made, own, compiled, winner_done, found,
    ?_⟩
  intro other otherCall otherResult different other_made for_field other_done
  have member := (linearizes.mem_iff ⟨other, otherCall, otherResult⟩).2 ⟨other_made, other_done⟩
  rcases others _ member for_field with same | taken
  · exact absurd (congrArg AnsweredCall.caller same) different
  · exact taken

/-- What a call has been answered is in the registry that it left, and hence in every later one. -/
theorem Linearizes.exists_performed
    (linearizes : (start registry calls).Linearizes calls schedule history) {caller : Nat}
    {call : RegistryCall} {result : CallResult} (made : calls[caller]? = some call)
    (answered : ((start registry calls).run schedule).value.answer? caller = some result) :
    ∃ middle : Registry, (middle.perform call).value.2 = result ∧
      (middle.perform call).value.1.Extends
        ((start registry calls).run schedule).value.registry := by
  have listed := (linearizes.mem_iff ⟨caller, call, result⟩).2 ⟨made, answered⟩
  obtain ⟨first, second, split⟩ := List.append_of_mem listed
  have replays := linearizes.replays
  rw [split] at replays
  obtain ⟨middle, -, rest⟩ := Registry.replays_append_iff.1 replays
  obtain ⟨returned, after⟩ := Registry.replays_cons_iff.1 rest
  exact ⟨middle, returned, after.extends⟩

/-- The descriptor that a call is answered is found in the end. -/
theorem Linearizes.get?_eq
    (linearizes : (start registry calls).Linearizes calls schedule history) {caller : Nat}
    {call : RegistryCall} {field : String} {descriptor : OperationDescriptor}
    (made : calls[caller]? = some call) (about : call.field? = some field)
    (answered : ((start registry calls).run schedule).value.answer? caller =
      some (.registered (.ok descriptor))) :
    ((start registry calls).run schedule).value.registry.get? field = some descriptor := by
  obtain ⟨middle, accepted, later⟩ := linearizes.exists_performed made answered
  exact later.get?_eq field descriptor (Registry.get?_of_perform_ok about accepted)

/-- The schema that a freeze returns is the one of the registry in the end. -/
theorem Linearizes.schema_eq
    (linearizes : (start registry calls).Linearizes calls schedule history) {caller : Nat}
    {schema : Schema} (made : calls[caller]? = some .freeze)
    (answered : ((start registry calls).run schedule).value.answer? caller =
      some (.frozen schema)) :
    ((start registry calls).run schedule).value.registry.schema = some schema := by
  obtain ⟨middle, freezes, later⟩ := linearizes.exists_performed made answered
  have published : middle.freeze.value.1.schema = some schema := by
    rw [middle.schema_freeze]
    exact congrArg some (CallResult.frozen.inj freezes)
  exact later.schema_eq schema published

end

/-- Take a registry after any run, any calls that are made on it concurrently, and any schedule of
their steps. The calls that are answered are explained by a sequential history, and a call with two
turns has returned its answer. A field is listed once, and nothing that is published at some time of
the schedule is taken back. If the calls compete for a free field and one of them is answered, one
of them has won it. And the descriptor that a call for a field was answered is what every schema
resolves the field to, whether it is found published at some time or answered by a freeze. -/
theorem concurrent_calls_linearizable (config : RegistryConfig) (before calls : List RegistryCall)
    (schedule : List Nat) :
    let registry := ((Registry.new config).performAll before).value.1
    let shared := start registry calls
    let done := (shared.run schedule).value
    (∃ history, shared.Linearizes calls schedule history) ∧
    (∀ caller < calls.length, 2 ≤ schedule.count caller →
      ∃ result, done.callers[caller]? = some (.finished result) ∧
        done.answer? caller = some result) ∧
    (done.registry.order.Nodup ∧ ∀ earlier, earlier <+: schedule →
      (shared.run earlier).value.registry.Extends done.registry) ∧
    (∀ field, registry.frozen = false → registry.get? field = none → Contested calls field →
      (∃ (caller : Nat) (call : RegistryCall) (result : CallResult),
        calls[caller]? = some call ∧ call.field? = some field ∧
          done.answer? caller = some result) →
      Won config calls done field) ∧
    (∀ (caller : Nat) (call : RegistryCall) (field : String) (descriptor : OperationDescriptor),
      calls[caller]? = some call → call.field? = some field →
      done.answer? caller = some (.registered (.ok descriptor)) →
        (∀ earlier schema, earlier <+: schedule →
          (shared.run earlier).value.registry.schema = some schema →
            schema.resolver? field = some descriptor) ∧
        ∀ (other : Nat) (schema : Schema), calls[other]? = some .freeze →
          done.answer? other = some (.frozen schema) →
            schema.resolver? field = some descriptor) := by
  intro registry shared done
  have linearizes := linearizes_history registry calls schedule
  have reached : registry.Invariant :=
    Registry.invariant_of_performAll before (Registry.invariant_new config)
  have holds : done.registry.Invariant := invariant_of_run schedule reached
  have sameConfig : registry.config = config :=
    (Registry.extends_performAll before (Registry.new config)).config_eq
  refine ⟨⟨_, linearizes⟩, ?_, ⟨holds.order_nodup, ?_⟩, ?_, ?_⟩
  · intro caller within turns
    obtain ⟨result, here⟩ := exists_finished_of_count within turns
    exact ⟨result, here, answer?_of_some here⟩
  · intro earlier before
    exact shared.extends_of_prefix before
  · rintro field opened free contested ⟨caller, call, result, made, about, answered⟩
    have won := linearizes.won contested opened free made about answered
    rw [sameConfig] at won
    exact won
  · intro caller call field descriptor made about answered
    have found : done.registry.get? field = some descriptor :=
      linearizes.get?_eq made about answered
    have resolves {schema : Schema} (published : done.registry.schema = some schema) :
        schema.resolver? field = some descriptor := by
      rw [Registry.resolver?_of_schema holds published]
      exact found
    constructor
    · intro earlier schema before published
      exact resolves ((shared.extends_of_prefix before).schema_eq schema published)
    · intro other schema freezes frozen
      exact resolves (linearizes.schema_eq freezes frozen)

end SharedRegistry

end SubscriptionFields
