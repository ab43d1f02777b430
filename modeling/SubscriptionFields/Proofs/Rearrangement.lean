import Mathlib.Data.List.Nodup
import SubscriptionFields.Proofs.FieldIndependence
import SubscriptionFields.Proofs.Routing

/-!
# Registrations of different fields commute

The calls that put fields into a new registry are made in two orders, which agree on the calls for
any one field. Orders like that have the same calls for every field (`Rearranges.filter_eq`), and
since a field depends on its own calls alone, whatever the first order comes to the second comes to
as well (`Interchangeable`). Only the listings differ, each of which goes by its own order
(`ListsAccepted`).
-/

set_option autoImplicit false

namespace SubscriptionFields

namespace Registry

/-! ## Rearranging -/

/-- Two orders of the same calls, each made once, that agree on the calls for any one field. -/
structure Rearranges {ι : Type} (call : ι → FieldCall) (first second : List ι) : Prop where
  perm : first.Perm second
  nodup : first.Nodup
  keeps_order : ∀ earlier later,
    (call earlier).registration.field = (call later).registration.field →
      [earlier, later].Sublist first → [earlier, later].Sublist second

/-- In an order without repetition, two that come before each other are one. -/
theorem eq_of_sublist_of_nodup {ι : Type} {order : List ι} (distinct : order.Nodup) {a b : ι}
    (forward : [a, b].Sublist order) (backward : [b, a].Sublist order) : a = b := by
  induction order with
  | nil => cases forward
  | cons first rest ih =>
    obtain ⟨fresh, others⟩ := List.nodup_cons.1 distinct
    cases forward with
    | cons _ forward =>
      cases backward with
      | cons _ backward => exact ih others forward backward
      | cons_cons _ backward =>
        exact absurd (forward.subset (by simp)) fresh
    | cons_cons _ forward =>
      have behind : b ∈ rest := forward.subset (by simp)
      cases backward with
      | cons _ backward => exact absurd (backward.subset (by simp)) fresh
      | cons_cons _ backward => exact absurd behind fresh

/-- Orders that agree on the calls for a field have the same calls for it. -/
theorem Rearranges.filter_eq {ι : Type} {call : ι → FieldCall} {first second : List ι}
    (rearranges : Rearranges call first second) (field : String) :
    first.filter (isFor call field) = second.filter (isFor call field) := by
  have distinct : second.Nodup := rearranges.perm.nodup_iff.1 rearranges.nodup
  let Before (earlier later : ι) : Prop := [earlier, later].Sublist second
  have antisymm : ∀ earlier later, earlier ∈ first.filter (isFor call field) →
      later ∈ second.filter (isFor call field) → Before earlier later → Before later earlier →
        earlier = later := by
    intro earlier later _ _ forward backward
    exact eq_of_sublist_of_nodup distinct forward backward
  refine List.Perm.eq_of_pairwise antisymm ?_ ?_ (rearranges.perm.filter _)
  · rw [List.pairwise_iff_forall_sublist]
    intro earlier later within
    have own : ∀ name ∈ [earlier, later], isFor call field name = true := by
      intro name listed
      exact (List.mem_filter.1 (within.subset listed)).2
    have same : (call earlier).registration.field = (call later).registration.field := by
      have one := own earlier (by simp)
      have other := own later (by simp)
      simp only [isFor, decide_eq_true_eq] at one other
      exact one.trans other.symm
    exact rearranges.keeps_order earlier later same (within.trans List.filter_sublist)
  · rw [List.pairwise_iff_forall_sublist]
    intro earlier later within
    exact within.trans List.filter_sublist

/-! ## Commuting -/

/-- Two orders of calls come to the same. Every call returns one and the same result in both; each
field has the same first accepted call, and every descriptor that is answered for the field is the
one compiled for that call; the same is found under each field; and once the registry is frozen the
service starts every request in the same way. -/
structure Interchangeable {ι : Type} (config : RegistryConfig) (call : ι → FieldCall)
    (first second : List ι) : Prop where
  answers_eq : ∀ name ∈ first, ∃ result, ∀ other,
    ((name, other) ∈ answers config call first ↔ other = result) ∧
      ((name, other) ∈ answers config call second ↔ other = result)
  founder?_eq : ∀ field, founder? config call field first = founder? config call field second
  answered : ∀ name descriptor, (name, .registered (.ok descriptor)) ∈ answers config call first →
    ∃ founder, founder? config call (call name).registration.field first = some founder ∧
      (call founder).registration.compile.value = .ok descriptor
  get?_eq : ∀ field,
    (made config call first).1.get? field = (made config call second).1.get? field
  start_eq : ∀ (layers number : Nat) (request : SubscribeRequest) (current : Option Span),
    (SubscribeService.stacked (made config call first).1.freeze.value.2 layers).start number
        request current =
      (SubscribeService.stacked (made config call second).1.freeze.value.2 layers).start number
        request current

/-- A registry and its schema list the fields in the order of their first accepted calls. -/
structure ListsAccepted {ι : Type} (config : RegistryConfig) (call : ι → FieldCall)
    (order : List ι) : Prop where
  order_eq : (made config call order).1.order = (acceptedFields config call order).eraseDups
  fields_eq : (made config call order).1.freeze.value.2.fields =
    (acceptedFields config call order).eraseDups

section

variable {ι : Type} (config : RegistryConfig) {call : ι → FieldCall} {first second : List ι}

/-- After any order of calls, the accepted fields are listed. -/
theorem listsAccepted (call : ι → FieldCall) (order : List ι) :
    ListsAccepted config call order where
  order_eq := order_made config call order
  fields_eq := by
    rw [(freeze_shows (invariant_made config call order)).fields_eq]
    exact order_made config call order

/-- Every descriptor that is answered for a field is the one of its first accepted call. -/
theorem answered_founder {name : ι} {descriptor : OperationDescriptor} {order : List ι}
    (answered : (name, .registered (.ok descriptor)) ∈ answers config call order) :
    ∃ founder, founder? config call (call name).registration.field order = some founder ∧
      (call founder).registration.compile.value = .ok descriptor := by
  have here := get?_of_mem_answers config call answered
  have found := get?_made config call (call name).registration.field order
  cases first : founder? config call (call name).registration.field order with
  | none =>
    simp only [first] at found
    cases here.symm.trans found
  | some founder =>
    simp only [first] at found
    obtain ⟨own, compiled, there⟩ := found
    cases Option.some.inj (here.symm.trans there)
    exact ⟨founder, rfl, compiled⟩

/-- The answer for a call is among the answers for its field. -/
theorem mem_answers_iff {name : ι} {result : CallResult} {order : List ι} :
    (name, result) ∈ answers config call order ↔
      (name, result) ∈
        answers config call (order.filter (isFor call (call name).registration.field)) := by
  rw [← answers_filter, List.mem_filter]
  simp [isFor]

/-- A call that is made once has one answer. -/
theorem exists_answer {name : ι} {order : List ι} (distinct : order.Nodup) (made : name ∈ order) :
    ∃ result, ∀ other, (name, other) ∈ answers config call order ↔ other = result := by
  have names := map_fst_answers config call order
  rw [← names] at made distinct
  obtain ⟨⟨_, result⟩, listed, rfl⟩ := List.mem_map.1 made
  refine ⟨result, fun other => ⟨fun answered => ?_, ?_⟩⟩
  · exact congrArg Prod.snd (List.inj_on_of_nodup_map distinct answered listed rfl)
  · rintro rfl
    exact listed

/-- The service looks at nothing of a schema but what it resolves the requested field to. -/
theorem start_stacked_congr {schema other : Schema} {request : SubscribeRequest}
    (same : schema.resolver? request.field = other.resolver? request.field)
    (layers number : Nat) (current : Option Span) :
    (SubscribeService.stacked schema layers).start number request current =
      (SubscribeService.stacked other layers).start number request current := by
  induction layers generalizing current with
  | zero => simp only [SubscribeService.stacked, SubscribeService.start, same]
  | succ layers ih => simp only [SubscribeService.stacked, SubscribeService.start, ih]

/-- Orders that keep the calls for each field in order come to the same. -/
theorem Rearranges.interchangeable (rearranges : Rearranges call first second) :
    Interchangeable config call first second := by
  have own (field : String) := rearranges.filter_eq field
  have get?_eq (field : String) :
      (made config call first).1.get? field = (made config call second).1.get? field := by
    have one := (agreeOn_filter config call field first).get?_eq
    have two := (agreeOn_filter config call field second).get?_eq
    rw [one, two, own]
  refine
    { answers_eq := ?answers_eq
      founder?_eq := ?founder?_eq
      answered := ?answered
      get?_eq := get?_eq
      start_eq := ?start_eq }
  case answers_eq =>
    intro name listed
    have answered : ∃ result, ∀ other,
        (name, other) ∈ answers config call first ↔ other = result :=
      exists_answer config rearranges.nodup listed
    obtain ⟨result, once⟩ := answered
    refine ⟨result, fun other => ⟨once other, ?_⟩⟩
    rw [mem_answers_iff, ← own, ← mem_answers_iff]
    exact once other
  case founder?_eq =>
    intro field
    rw [founder?_eq, founder?_eq, own]
  case answered =>
    intro name descriptor answered
    exact answered_founder config answered
  case start_eq =>
    intro layers number request current
    apply start_stacked_congr
    rw [(freeze_shows (invariant_made config call first)).resolver?_eq,
      (freeze_shows (invariant_made config call second)).resolver?_eq, get?_eq]

end

/-- Calls that put fields into a new registry, of whatever settings, are made in two orders. If the
orders agree on the calls for any one field, they come to the same, except that each lists the
fields in the order of its own first accepted calls. -/
theorem registrations_of_different_fields_commute {ι : Type} (config : RegistryConfig)
    (call : ι → FieldCall) (first second : List ι) (rearranges : Rearranges call first second) :
    Interchangeable config call first second ∧
      ListsAccepted config call first ∧ ListsAccepted config call second := by
  refine ⟨rearranges.interchangeable config, ?_, ?_⟩
  · exact listsAccepted config call first
  · exact listsAccepted config call second

/-- The registration, by a caller, of an operation that returns a stream of objects without
elements.
-/
def silentRegistration (field label : String) (caller : Nat) : Registration where
  field
  type := .stream .object
  receiver := .source
  arguments := []
  operation := { label, run := fun _ _ => { op := label, steps := [] } }
  allocation := .minted 0 caller

/-- Two calls for one field, an insertion for a second field, and one for a third field whose return
type is refused. -/
def marketCalls : Fin 4 → FieldCall
  | 0 => .register (silentRegistration "quotes" "first" 0)
  | 1 =>
    .insert (silentRegistration "ticks" "second" 1)
      { allocation := .minted 0 1
        name := "ticks"
        declared := .stream .object
        shape := .sync { type := .erased }
        adapter := .wrapAsCompleted
        receiver := .source
        arguments := []
        label := "second"
        call := OperationDescriptor.callThrough (.wrapAsCompleted .object)
          { label := "second", run := fun _ _ => { op := "second", steps := [] } } }
      rfl
  | 2 => .register (silentRegistration "quotes" "third" 2)
  | 3 =>
    .register
      { field := "bars"
        type := .list .object
        receiver := .source
        arguments := []
        operation := { label := "fourth", run := fun _ _ => [] }
        allocation := .minted 0 3 }

/-- The two calls for one field stay in order, and the listings differ. -/
theorem registrations_of_different_fields_commute_market :
    Rearranges marketCalls [0, 1, 2, 3] [3, 1, 0, 2] ∧
      (acceptedFields {} marketCalls [0, 1, 2, 3]).eraseDups = ["quotes", "ticks"] ∧
      (acceptedFields {} marketCalls [3, 1, 0, 2]).eraseDups = ["ticks", "quotes"] ∧
      Interchangeable {} marketCalls [0, 1, 2, 3] [3, 1, 0, 2] ∧
      ListsAccepted {} marketCalls [0, 1, 2, 3] ∧ ListsAccepted {} marketCalls [3, 1, 0, 2] := by
  have rearranges : Rearranges marketCalls [0, 1, 2, 3] [3, 1, 0, 2] := by
    refine ⟨by decide, by decide, ?_⟩
    decide
  refine ⟨rearranges, by decide, by decide, ?_⟩
  exact registrations_of_different_fields_commute {} marketCalls [0, 1, 2, 3] [3, 1, 0, 2]
    rearranges

end Registry

end SubscriptionFields
