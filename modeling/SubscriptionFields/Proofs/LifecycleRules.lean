import Mathlib.Data.List.Pairwise
import SubscriptionFields.Proofs.Consumption

/-!
# The rules of the lifecycle

What is observed of a subscription falls into three stages: the call, the future, and the consumer
of the stream. Together they follow one of five courses (`Stages`), by whether the call is bound,
whether the operation returns a stream or a handle to one, and whether the stream is handed out
before the future is given up.

The rules (`Orderly`) say who polls the handle and the stream, and that each is dropped once and in
time. They are a matter of the five courses alone (`Stages.orderly`). Where one kind of event must
not follow another, a course is cut in two so that the first kind does not occur in front of the cut
and the second does not occur behind it (`pairwise_of_cut`).
-/

set_option autoImplicit false

namespace SubscriptionFields

/-- The courses that the stages of a subscription can take, by whether the operation returns a
handle. -/
inductive Stages : Bool → List ObservationKind → List ObservationKind → List ObservationKind → Prop
  /-- A binder fails. -/
  | unbound (binders : Nat) : Stages false (List.replicate binders .bound) [] []
  /-- The future is dropped with the stream that was returned. -/
  | unasked (binders : Nat) :
      Stages false (List.replicate binders .bound ++ [.invoked, .streamBuilt]) [.streamDropped] []
  /-- The stream that was returned is handed out. -/
  | passedOn (binders : Nat) (consumed : List ObservationKind) (complete : Consumed consumed) :
      Stages false (List.replicate binders .bound ++ [.invoked, .streamBuilt]) [] consumed
  /-- The handle fails, or it is dropped with the future. -/
  | unopened (binders polls : Nat) :
      Stages true (List.replicate binders .bound ++ [.invoked])
        (List.replicate polls .handlePolled ++ [.handleDropped]) []
  /-- The handle resolves to a stream, and that is handed out. -/
  | opened (binders polls : Nat) (consumed : List ObservationKind) (complete : Consumed consumed) :
      Stages true (List.replicate binders .bound ++ [.invoked])
        (List.replicate polls .handlePolled ++ [.streamBuilt, .handleDropped]) consumed

/-! ## Rules -/

/-- The rules of the lifecycle, for what is observed in the three stages of a subscription. -/
structure Orderly (awaits : Bool) (called awaited consumed : List ObservationKind) : Prop where
  /-- The handle, if there is one, is dropped exactly once. -/
  handle_dropped_once : (called ++ awaited ++ consumed).count .handleDropped = awaits.toNat
  /-- It is polled and dropped between the call and the end of the future, and in no other stage. -/
  handle_in_time : ∀ kind ∈ [ObservationKind.handlePolled, .handleDropped],
    kind ∉ called ∧ kind ∉ consumed
  /-- It is not polled again once it has come to its stream or is dropped. -/
  handle_left_alone : (called ++ awaited ++ consumed).Pairwise fun earlier later =>
    earlier ∈ [.streamBuilt, .handleDropped] → later ≠ .handlePolled
  /-- At most one stream comes into being. -/
  stream_built_once : (called ++ awaited ++ consumed).count .streamBuilt ≤ 1
  /-- It is dropped exactly once. -/
  stream_dropped_once : (called ++ awaited ++ consumed).count .streamDropped =
    (called ++ awaited ++ consumed).count .streamBuilt
  /-- Nobody but the consumer polls it. -/
  stream_in_time : ObservationKind.streamPolled ∉ called ++ awaited
  /-- It is not polled again once the sink has refused a value or has been told of a failure, nor
  once it is dropped. -/
  stream_left_alone : (called ++ awaited ++ consumed).Pairwise fun earlier later =>
    earlier ∈ [.refused, .reported, .streamDropped] → later ≠ .streamPolled

/-- If none of the first kinds occurs in front of a cut and the second kind does not occur behind
it, then the second does not follow any of the first. -/
theorem pairwise_of_cut {first : List ObservationKind} {second : ObservationKind}
    {front back : List ObservationKind} (unbegun : ∀ kind ∈ first, kind ∉ front)
    (done : second ∉ back) :
    (front ++ back).Pairwise fun earlier later => earlier ∈ first → later ≠ second := by
  rw [List.pairwise_append]
  refine ⟨?_, ?_, ?_⟩
  · refine List.pairwise_of_forall_mem_list fun earlier here later _ begun => ?_
    exact absurd here (unbegun earlier begun)
  · refine List.pairwise_of_forall_mem_list fun earlier _ later there _ same => ?_
    exact done (same ▸ there)
  · intro earlier here later _ begun
    exact absurd here (unbegun earlier begun)

namespace Consumed

variable {kinds : List ObservationKind}

/-- Whoever consumes a stream does nothing but poll it, publish, refuse or report, and drop it. -/
theorem mem (complete : Consumed kinds) : ∀ kind ∈ kinds,
    kind ∈ [.streamPolled, .published, .refused, .reported, .streamDropped] := by
  obtain ⟨before, last, rfl, only, ends⟩ := complete
  intro kind listed
  simp only [List.mem_append, List.mem_singleton] at listed
  rcases listed with front | back | rfl
  · have either := only kind front
    simp only [List.mem_cons, List.not_mem_nil, or_false] at either
    rcases either with rfl | rfl <;> simp
  · simp only [List.mem_cons, List.not_mem_nil, or_false] at ends
    rcases ends with rfl | rfl | rfl <;> simp_all
  · simp

/-- Whoever consumes a stream has nothing to do with the handle, nor with a new stream. -/
theorem count_eq_zero (complete : Consumed kinds) :
    ∀ kind ∈ [ObservationKind.handlePolled, .handleDropped, .streamBuilt],
      kinds.count kind = 0 := by
  intro kind other
  rw [List.count_eq_zero]
  intro listed
  have own := complete.mem kind listed
  revert other own
  cases kind <;> decide

/-- Whoever consumes a stream drops it once. -/
theorem count_dropped (complete : Consumed kinds) : kinds.count .streamDropped = 1 := by
  obtain ⟨before, last, rfl, only, ends⟩ := complete
  have front : before.count .streamDropped = 0 := by
    rw [List.count_eq_zero]
    intro dropped
    exact absurd (only _ dropped) (by decide)
  have back : last.count .streamDropped = 0 := by
    revert last
    decide
  rw [List.count_append, List.count_append, front, back]
  rfl

/-- Nothing polls the stream once it has ended, whatever came before it was handed out. -/
theorem stream_left_alone (complete : Consumed kinds) {earlier : List ObservationKind}
    (unended : ∀ kind ∈ [ObservationKind.refused, .reported, .streamDropped], kind ∉ earlier) :
    (earlier ++ kinds).Pairwise fun earlier later =>
      earlier ∈ [.refused, .reported, .streamDropped] → later ≠ .streamPolled := by
  obtain ⟨before, last, rfl, only, ends⟩ := complete
  -- the cut is made behind the last poll of the stream
  rw [← List.append_assoc]
  apply pairwise_of_cut
  · intro kind ending listed
    rcases List.mem_append.1 listed with front | within
    · exact unended kind ending front
    · have other := only kind within
      revert ending other
      cases kind <;> decide
  · simp only [List.mem_cons, List.not_mem_nil, or_false] at ends
    rcases ends with rfl | rfl | rfl <;> decide

end Consumed

/-- Whatever stages a subscription goes through, it keeps to the rules. -/
theorem Stages.orderly {awaits : Bool} {called awaited consumed : List ObservationKind}
    (stages : Stages awaits called awaited consumed) : Orderly awaits called awaited consumed := by
  cases stages with
  | unbound binders => constructor <;> simp [List.count_replicate]
  | unasked binders =>
    constructor
    case stream_left_alone =>
      rw [List.append_nil]
      exact pairwise_of_cut (by simp) (by simp)
    all_goals simp [List.count_replicate, List.pairwise_append]
  | passedOn binders consumed complete =>
    have others := complete.count_eq_zero
    have unpolled : .handlePolled ∉ consumed := List.count_eq_zero.1 (others _ (by simp))
    have undropped : .handleDropped ∉ consumed := List.count_eq_zero.1 (others _ (by simp))
    constructor
    case handle_left_alone =>
      rw [List.append_nil, List.append_assoc]
      exact pairwise_of_cut (by simp) (by simp [unpolled])
    case stream_left_alone => exact complete.stream_left_alone (by simp)
    all_goals simp [List.count_replicate, complete.count_dropped, others, unpolled, undropped]
  | unopened binders polls =>
    constructor
    case handle_left_alone =>
      rw [List.append_nil, ← List.append_assoc]
      exact pairwise_of_cut (by simp) (by simp)
    all_goals simp [List.count_replicate, List.pairwise_append]
  | opened binders polls consumed complete =>
    have others := complete.count_eq_zero
    have unpolled : .handlePolled ∉ consumed := List.count_eq_zero.1 (others _ (by simp))
    have undropped : .handleDropped ∉ consumed := List.count_eq_zero.1 (others _ (by simp))
    constructor
    case handle_left_alone =>
      rw [← List.append_assoc, List.append_assoc]
      exact pairwise_of_cut (by simp) (by simp [unpolled])
    case stream_left_alone => exact complete.stream_left_alone (by simp)
    all_goals simp [List.count_replicate, complete.count_dropped, others, unpolled, undropped]

end SubscriptionFields
