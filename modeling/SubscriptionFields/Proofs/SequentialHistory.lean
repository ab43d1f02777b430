import SubscriptionFields.Proofs.Permanence

/-!
# Histories of calls made one after the other

A history lists calls of a registry together with what they returned, and says who made them. It
replays from a registry if making its calls one after the other returns just that
(`Registry.Replays`).

If several registrations in a history compete for a field that nobody has yet, the first of them
wins: it is answered its own descriptor, and all others what the settings have for a field that is
taken (`Replays.exists_winner`). The induction runs over the history; as soon as the field is taken
nothing is decided any more (`Replays.result_of_taken`).
-/

set_option autoImplicit false

namespace SubscriptionFields

/-- A call with the caller that made it and what it returned. -/
structure AnsweredCall where
  caller : Nat
  call : RegistryCall
  result : CallResult

/-- What a registration of a taken field is answered. -/
def RegistryConfig.answerTaken (config : RegistryConfig) (field : String)
    (existing : OperationDescriptor) : Registry.Answer :=
  if config.rejectDuplicates then .error (.duplicate field) else .ok existing

namespace Registry

/-- Made one after the other, the calls of a history return what it says and lead from one registry
to the other. -/
def Replays (before : Registry) (history : List AnsweredCall) (after : Registry) : Prop :=
  (before.performAll (history.map AnsweredCall.call)).value =
    (after, history.map AnsweredCall.result)

/-! ## Taking histories apart -/

/-- No calls lead nowhere. -/
theorem replays_nil (registry : Registry) : registry.Replays [] registry := rfl

/-- A history is replayed by its first call, with its result, and then by the rest. -/
theorem replays_cons_iff {before after : Registry} {entry : AnsweredCall}
    {history : List AnsweredCall} :
    before.Replays (entry :: history) after ↔
      (before.perform entry.call).value.2 = entry.result ∧
        (before.perform entry.call).value.1.Replays history after := by
  unfold Replays
  rw [List.map_cons, List.map_cons, performAll_cons, Prod.ext_iff, Prod.ext_iff]
  simp only [List.cons.injEq]
  constructor
  · rintro ⟨registry, result, results⟩
    exact ⟨result, registry, results⟩
  · rintro ⟨result, registry, results⟩
    exact ⟨registry, result, results⟩

/-- A history in two parts is replayed through a registry in between. -/
theorem replays_append_iff {before after : Registry} {first second : List AnsweredCall} :
    before.Replays (first ++ second) after ↔
      ∃ middle, before.Replays first middle ∧ middle.Replays second after := by
  induction first generalizing before with
  | nil =>
    constructor
    · intro replays
      exact ⟨before, replays_nil before, replays⟩
    · rintro ⟨middle, here, replays⟩
      have same : before = middle := congrArg Prod.fst here
      rw [List.nil_append, same]
      exact replays
  | cons entry first ih =>
    rw [List.cons_append, replays_cons_iff, ih]
    simp only [replays_cons_iff]
    constructor
    · rintro ⟨result, middle, here, replays⟩
      exact ⟨middle, ⟨result, here⟩, replays⟩
    · rintro ⟨middle, ⟨result, here⟩, replays⟩
      exact ⟨result, middle, here, replays⟩

/-- Replaying a history takes nothing back. -/
theorem Replays.extends {before after : Registry} {history : List AnsweredCall}
    (replays : before.Replays history after) : before.Extends after := by
  have grown := extends_performAll (history.map AnsweredCall.call) before
  rw [replays] at grown
  exact grown

/-- A history is replayed further by one more call with its result. -/
theorem Replays.snoc {before middle after : Registry} {history : List AnsweredCall}
    (replays : before.Replays history middle) {entry : AnsweredCall}
    (performed : (middle.perform entry.call).value = (after, entry.result)) :
    before.Replays (history ++ [entry]) after := by
  refine replays_append_iff.2 ⟨middle, replays, replays_cons_iff.2 ?_⟩
  rw [performed]
  exact ⟨rfl, replays_nil after⟩

/-! ## One call for a field -/

/-- An insertion under a taken name is answered as the settings say, and changes nothing. -/
theorem insert_of_taken {registry : Registry} {descriptor existing : OperationDescriptor}
    (opened : registry.frozen = false)
    (taken : registry.get? descriptor.name = some existing) :
    (registry.insert descriptor).value =
      (registry, registry.config.answerTaken descriptor.name existing) := by
  cases strict : registry.config.rejectDuplicates with
  | true => simp [insert, opened, taken, strict, RegistryConfig.answerTaken]
  | false => simp [insert, opened, taken, strict, RegistryConfig.answerTaken]

/-- A call for a field leaves the registry as it is or publishes a descriptor under that field. -/
theorem perform_keeps_of_field {registry : Registry} {call : RegistryCall} {field : String}
    (holds : Registry → Prop) (about : call.field? = some field) (start : holds registry)
    (publish : ∀ descriptor : OperationDescriptor, descriptor.name = field →
      holds (registry.publish descriptor)) :
    holds (registry.perform call).value.1 := by
  have inserted (descriptor : OperationDescriptor) (name : descriptor.name = field) :
      holds (registry.insert descriptor).value.1 := by
    cases registry.insert_outcome descriptor with
    | frozen _ result => exact result ▸ start
    | refused _ _ _ _ result => exact result ▸ start
    | discarded _ _ _ _ result => exact result ▸ start
    | published _ _ result => exact result ▸ publish descriptor name
  cases call with
  | freeze => cases about
  | insert descriptor => exact inserted descriptor (Option.some.inj about)
  | register registration =>
    show holds (registry.register registration).value.1
    cases registry.register_outcome registration with
    | frozen _ result => exact result ▸ start
    | misconfigured _ _ _ result => exact result ▸ start
    | compiled descriptor _ compiled result =>
      obtain ⟨-, -, name, -⟩ := Registration.of_compile compiled
      rw [result]
      exact inserted descriptor (name.trans (Option.some.inj about))

/-! ## Competing for a field -/

/-- The calls of a history compete for a field: none of them freezes, and those for the field are
registrations whose return types can back a subscription. -/
structure Competes (field : String) (history : List AnsweredCall) : Prop where
  keeps_open : ∀ entry ∈ history, entry.call.field?.isSome
  registers : ∀ entry ∈ history, entry.call.field? = some field → ∃ registration shape,
    entry.call = .register registration ∧ registration.type.describe.classify = .ok shape

/-- The calls behind the first of a competition compete as well. -/
theorem Competes.tail {field : String} {entry : AnsweredCall} {history : List AnsweredCall}
    (competes : Competes field (entry :: history)) : Competes field history where
  keeps_open other listed := competes.keeps_open other (List.mem_cons_of_mem entry listed)
  registers other listed := competes.registers other (List.mem_cons_of_mem entry listed)

/-- The first call of a competition leaves the registry open. -/
theorem Competes.opened {field : String} {entry : AnsweredCall} {history : List AnsweredCall}
    (competes : Competes field (entry :: history)) {registry : Registry}
    (opened : registry.frozen = false) :
    (registry.perform entry.call).value.1.frozen = false := by
  obtain ⟨other, about⟩ := Option.isSome_iff_exists.1
    (competes.keeps_open entry List.mem_cons_self)
  exact perform_keeps_of_field (fun registry => registry.frozen = false) about opened
    fun _ _ => opened

/-- A registration in a competition compiles. -/
theorem Competes.compiles {field : String} {history : List AnsweredCall}
    (competes : Competes field history) {entry : AnsweredCall} (listed : entry ∈ history)
    (about : entry.call.field? = some field) : ∃ registration descriptor,
      entry.call = .register registration ∧ registration.compile.value = .ok descriptor ∧
        descriptor.name = field := by
  obtain ⟨registration, shape, call, classified⟩ := competes.registers entry listed about
  obtain ⟨adapter, -, -, compiled⟩ :=
    OperationDescriptor.compile_of_classify_eq_ok registration.field registration.receiver
      registration.arguments registration.operation registration.allocation classified
  rw [call] at about
  exact ⟨registration, _, call, compiled, Option.some.inj about⟩

/-- While nobody has the field, a call for it takes the field. -/
theorem Competes.takes {field : String} {history : List AnsweredCall}
    (competes : Competes field history) {entry : AnsweredCall} (listed : entry ∈ history)
    (about : entry.call.field? = some field) {registry : Registry}
    (opened : registry.frozen = false) (free : registry.get? field = none) :
    ∃ registration descriptor, entry.call = .register registration ∧
      registration.field = field ∧ registration.compile.value = .ok descriptor ∧
      (registry.perform entry.call).value.2 = .registered (.ok descriptor) ∧
      (registry.perform entry.call).value.1.get? field = some descriptor := by
  obtain ⟨registration, descriptor, call, compiled, name⟩ := competes.compiles listed about
  rw [call] at about
  have performed : (registry.perform entry.call).value =
      (registry.publish descriptor, .registered (.ok descriptor)) := by
    rw [← name] at free
    rw [call]
    simp only [perform, Noted.value_bind, Noted.value_pure,
      registry.register_of_compile compiled, insert_of_free opened free]
  refine ⟨registration, descriptor, call, Option.some.inj about, compiled, ?_, ?_⟩
  · rw [performed]
  · rw [performed, get?_publish, if_pos name]

/-- A call for another field leaves the field to be taken. -/
theorem Competes.leaves {field : String} {entry : AnsweredCall} {history : List AnsweredCall}
    (competes : Competes field (entry :: history)) (elsewhere : entry.call.field? ≠ some field)
    {registry : Registry} (free : registry.get? field = none) :
    (registry.perform entry.call).value.1.get? field = none := by
  obtain ⟨other, about⟩ := Option.isSome_iff_exists.1
    (competes.keeps_open entry List.mem_cons_self)
  refine perform_keeps_of_field (fun registry => registry.get? field = none) about free ?_
  intro descriptor name
  have different : descriptor.name ≠ field := by
    intro same
    rw [← name, same] at about
    exact elsewhere about
  rw [get?_publish, if_neg different]
  exact free

/-- Once the field is taken, every call for it is answered by the settings. -/
theorem Replays.result_of_taken {before after : Registry} {field : String}
    {history : List AnsweredCall} {existing : OperationDescriptor}
    (replays : before.Replays history after) (competes : Competes field history)
    (opened : before.frozen = false) (taken : before.get? field = some existing) :
    ∀ entry ∈ history, entry.call.field? = some field →
      entry.result = .registered (before.config.answerTaken field existing) := by
  induction history generalizing before with
  | nil =>
    intro entry listed
    cases listed
  | cons first history ih =>
    intro entry listed about
    obtain ⟨result, rest⟩ := replays_cons_iff.1 replays
    have grown := extends_of_effect (before.perform_effect first.call)
    rcases List.mem_cons.1 listed with rfl | later
    · obtain ⟨registration, descriptor, call, compiled, name⟩ := competes.compiles listed about
      subst name
      rw [← result, call]
      show CallResult.registered (before.register registration).value.2 = _
      rw [before.register_of_compile compiled, insert_of_taken opened taken]
    · have found := grown.get?_eq field existing taken
      have answered := ih rest competes.tail (competes.opened opened) found entry later about
      rw [grown.config_eq] at answered
      exact answered

/-- While nobody has the field, the first registration that competes for it wins: it is answered its
own descriptor, which is found under the field in the end, and every other one is answered by the
settings. -/
theorem Replays.exists_winner {before after : Registry} {field : String}
    {history : List AnsweredCall} (replays : before.Replays history after)
    (competes : Competes field history) (opened : before.frozen = false)
    (free : before.get? field = none)
    (contested : ∃ entry ∈ history, entry.call.field? = some field) :
    ∃ winner ∈ history, ∃ registration descriptor, winner.call = .register registration ∧
      registration.field = field ∧ registration.compile.value = .ok descriptor ∧
      winner.result = .registered (.ok descriptor) ∧ after.get? field = some descriptor ∧
      ∀ entry ∈ history, entry.call.field? = some field →
        entry = winner ∨
          entry.result = .registered (before.config.answerTaken field descriptor) := by
  induction history generalizing before with
  | nil =>
    obtain ⟨entry, listed, -⟩ := contested
    cases listed
  | cons first history ih =>
    obtain ⟨result, rest⟩ := replays_cons_iff.1 replays
    have grown := extends_of_effect (before.perform_effect first.call)
    have still := competes.opened opened
    by_cases about : first.call.field? = some field
    · -- the first call wins, and the field is taken for all behind it
      obtain ⟨registration, descriptor, call, own, compiled, won, found⟩ :=
        competes.takes List.mem_cons_self about opened free
      refine ⟨first, List.mem_cons_self, registration, descriptor, call, own, compiled,
        result.symm.trans won, rest.extends.get?_eq field descriptor found, ?_⟩
      intro entry listed for_field
      rcases List.mem_cons.1 listed with same | later
      · exact .inl same
      · have answered := rest.result_of_taken competes.tail still found entry later for_field
        rw [grown.config_eq] at answered
        exact .inr answered
    · -- the first call is for another field, so the competition is among the rest
      have untouched := competes.leaves about free
      have among : ∃ entry ∈ history, entry.call.field? = some field := by
        obtain ⟨entry, listed, for_field⟩ := contested
        rcases List.mem_cons.1 listed with rfl | later
        · exact absurd for_field about
        · exact ⟨entry, later, for_field⟩
      obtain ⟨winner, listed, registration, descriptor, call, own, compiled, won, found, others⟩ :=
        ih rest competes.tail still untouched among
      refine ⟨winner, List.mem_cons_of_mem first listed, registration, descriptor, call, own,
        compiled, won, found, ?_⟩
      intro entry member for_field
      rcases List.mem_cons.1 member with rfl | later
      · exact absurd for_field about
      · rw [← grown.config_eq]
        exact others entry later for_field

end Registry

end SubscriptionFields
