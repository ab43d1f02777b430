import SubscriptionFields.Proofs.Consumption
import SubscriptionFields.Proofs.DeliveryCourse
import SubscriptionFields.Proofs.DeliveryLikeness
import SubscriptionFields.Proofs.ErrorIdentity

/-!
# A delivery is exact

What a delivery does is told by the cut of its stream's steps (`Delivery.comes_of_cut`). This file
reads off the course of a cut what a sink and a stream see of it (`Stop.account`): the values that
are offered are the elements in front of the cut, and the refused one if there is one; all but the
refused one are published; a failure is reported once, behind all of them; the stream is polled once
for each step in front of the cut and once for the stop. A delivery under way has come through the
first part of its course, also as to the value that it is just offering (`Delivery.goesBy_of_cut`).

Two things make no difference. The field and the request of a delivery are not seen in anything that
is observed (`Delivery.observed_alike`). And steps that have nothing yet, or a sink that takes its
time, change for how many polls the delivery is pending, but neither what the sink sees nor the
outcome (`Delivery.handsOver_of_patient`).
-/

set_option autoImplicit false

namespace SubscriptionFields

open StreamStep

/-! ## What is seen of a course -/

/-- The value that a sink is offered. -/
def Observation.offered? : Observation → Option SourceValue
  | .published value => some value
  | .refused value => some value
  | _ => none

/-- Nothing is offered by what happens elsewhere than at the sink. -/
theorem Observation.offered?_of_elsewhere (seen : Observation) (elsewhere : seen.atSink = false) :
    seen.offered? = none := by
  cases seen with
  | published value => cases elsewhere
  | refused value => cases elsewhere
  | _ => rfl

namespace Stop

/-- What the sink sees of a stop. -/
def seen : Stop → List Observation
  | .ended => []
  | .broken error => [.reported error]
  | .refused value => [.refused value]

def refused? : Stop → Option SourceValue
  | .refused value => some value
  | _ => none

def error? : Stop → Option FieldError
  | .broken error => some error
  | _ => none

/-- What a sink that has taken some values receives of more steps and the stop behind them. -/
def receipt (stop : Stop) (taken : List SourceValue) (before : List (StreamStep SourceValue)) :
    Receipt where
  seen := (items before).map .published ++ stop.seen
  outcome := stop.outcome (taken ++ items before).length

variable (stop : Stop) (op : String) (before : List (StreamStep SourceValue))

/-- The sink takes the items of a course and sees its stop. -/
theorem atSink_course :
    (stop.course op before).filter Observation.atSink =
      (items before).map .published ++ stop.seen := by
  induction before with
  | nil => cases stop <;> rfl
  | cons step before ih =>
    unfold course at ih ⊢
    rw [List.flatMap_cons, List.append_assoc, List.filter_append, ih, items_cons]
    cases step <;> rfl

/-- The stream is polled once for every step in front of the stop, and once for the stop. -/
theorem polls_course :
    ((stop.course op before).map Observation.kind).count .streamPolled = before.length + 1 := by
  induction before with
  | nil => cases stop <;> rfl
  | cons step before ih =>
    unfold course at ih ⊢
    rw [List.flatMap_cons, List.append_assoc, List.map_append, List.count_append, ih,
      List.length_cons]
    cases step <;> simp [passed, Observation.kind] <;> omega

/-- The sink is offered the items, and the value that it refuses if it does. -/
theorem offered_seen :
    ((items before).map Observation.published ++ stop.seen).filterMap Observation.offered? =
      items before ++ stop.refused?.toList := by
  have all : (items before).filterMap (Observation.offered? ∘ Observation.published) =
      items before := List.filterMap_some
  rw [List.filterMap_append, List.filterMap_map, all]
  cases stop <;> rfl

/-- A course offers the items in front of the stop, and the value that is refused if one is. -/
theorem offered_course :
    (stop.course op before).filterMap Observation.offered? =
      items before ++ stop.refused?.toList := by
  rw [← Delivery.filterMap_filter_atSink Observation.offered?_of_elsewhere, atSink_course,
    offered_seen]

/-- A course publishes the items in front of the stop. -/
theorem published_course :
    (stop.course op before).filterMap Observation.published? = items before := by
  have all : (items before).filterMap (Observation.published? ∘ Observation.published) =
      items before := List.filterMap_some
  have none : stop.seen.filterMap Observation.published? = [] := by cases stop <;> rfl
  rw [← Delivery.published_filter_atSink, atSink_course, List.filterMap_append, none,
    List.append_nil, List.filterMap_map, all]

/-- A course reports the error at which the stream breaks, if it does. -/
theorem reported_course :
    (stop.course op before).filterMap Observation.reported? = stop.error?.toList := by
  have others : ∀ seen : Observation, seen.atSink = false → seen.reported? = none := by
    intro seen elsewhere
    cases seen with
    | reported error => cases elsewhere
    | _ => rfl
  have none : (items before).filterMap (Observation.reported? ∘ Observation.published) = [] :=
    List.filterMap_eq_nil_iff.2 fun _ _ => rfl
  rw [← Delivery.filterMap_filter_atSink others, atSink_course, List.filterMap_append,
    List.filterMap_map, none]
  cases stop <;> rfl

/-- What a course comes to: the calls of the sink in their order, and among them the values that are
offered and those that are published, the failures that are reported, and how often the stream is
polled. -/
structure Account : Prop where
  calls_eq : (stop.course op before).filter Observation.atSink =
    (items before).map .published ++ stop.seen
  offered_eq : (stop.course op before).filterMap Observation.offered? =
    items before ++ stop.refused?.toList
  published_eq : (stop.course op before).filterMap Observation.published? = items before
  delivered_eq : (stop.outcome (items before).length).delivered =
    ((stop.course op before).filterMap Observation.published?).length
  reported_eq : (stop.course op before).filterMap Observation.reported? = stop.error?.toList
  polls_eq : ((stop.course op before).map Observation.kind).count .streamPolled =
    before.length + 1

/-- The account of a course: what is offered, published and reported, and how often the stream is
polled. -/
theorem account : stop.Account op before where
  calls_eq := atSink_course stop op before
  offered_eq := offered_course stop op before
  published_eq := published_course stop op before
  delivered_eq := by
    rw [published_course]
    cases stop <;> rfl
  reported_eq := reported_course stop op before
  polls_eq := polls_course stop op before

end Stop

/-! ## What makes no difference -/

/-- The steps at which a stream has something. -/
def StreamStep.ready : List (StreamStep SourceValue) → List (StreamStep SourceValue)
  | [] => []
  | .pending :: steps => ready steps
  | step :: steps => step :: ready steps

/-- Steps yield the same without those at which they have nothing. -/
theorem StreamStep.yielded_ready (steps : List (StreamStep SourceValue)) :
    yielded (ready steps) = yielded steps := by
  induction steps with
  | nil => rfl
  | cons step steps ih =>
    cases step with
    | pending => exact ih
    | item value => exact congrArg (value :: ·) ih
    | failure error => rfl
    | finish => rfl

/-- Steps break at the same error without those at which they have nothing. -/
theorem StreamStep.failure?_ready (steps : List (StreamStep SourceValue)) :
    failure? (ready steps) = failure? steps := by
  induction steps with
  | nil => rfl
  | cons step steps ih =>
    cases step with
    | pending => exact ih
    | item value => exact ih
    | failure error => rfl
    | finish => rfl

namespace Sink

/-- Two sinks refuse the same values. -/
def Agrees (first second : Sink) : Prop :=
  ∀ taken value, (first.publish taken value).refusal = (second.publish taken value).refusal

/-- Sinks that refuse the same values receive the same. -/
theorem Agrees.receipt_eq {first second : Sink} (agrees : first.Agrees second)
    (failure : Option FieldError) (taken values : List SourceValue) :
    first.receipt failure taken values = second.receipt failure taken values := by
  induction values generalizing taken with
  | nil => rfl
  | cons value values ih => rw [receipt, receipt, agrees taken value, ih]

/-- What a sink receives of the steps of a stream is told by their cut. -/
theorem receipt_of_cut {sink : Sink} {taken : List SourceValue}
    {steps before rest : List (StreamStep SourceValue)} {stop : Stop}
    (cut : sink.Cut taken steps before rest stop) :
    sink.receipt (failure? steps) taken (yielded steps) = stop.receipt taken before := by
  induction before generalizing taken steps with
  | nil =>
    have same : taken ++ items [] = taken := List.append_nil _
    rw [Stop.receipt, same]
    rcases cut.split with ⟨rfl, -, rfl⟩ | ⟨step, rfl, stops⟩
    · rfl
    · rw [same] at stops
      cases step with
      | pending => cases stops
      | item value =>
        obtain ⟨error, refused, rfl⟩ := Option.map_eq_some_iff.1 stops
        show sink.receipt (failure? rest) taken (value :: yielded rest) = _
        rw [receipt, refused]
        rfl
      | failure error =>
        cases stops
        rfl
      | finish =>
        cases stops
        rfl
  | cons step before ih =>
    obtain ⟨others, rfl, goesOn, later⟩ := cut.of_cons
    have received := ih later
    rw [Stop.receipt, items_cons, ← List.append_assoc]
    cases step with
    | pending => simpa [Stop.receipt, item?, yielded, failure?] using received
    | item value =>
      have accepted : (sink.publish taken value).refusal = none :=
        Option.map_eq_none_iff.1 goesOn
      show sink.receipt (failure? others) taken (value :: yielded others) = _
      rw [receipt, accepted]
      exact congrArg (Receipt.after [.published value]) received
    | failure error => cases goesOn
    | finish => cases goesOn

end Sink

namespace Delivery

/-- The delivery of the same steps to the same sink, for another field and another request. -/
def redirect (field : OperationDescriptor) (ctx : RequestContext) (delivery : Delivery) :
    Delivery :=
  { delivery with field, ctx }

variable (field : OperationDescriptor) (ctx : RequestContext)

/-- A delivery takes the same step, to the sink as well, for another field and context. -/
theorem step_redirect (delivery : Delivery) :
    (delivery.redirect field ctx).step.value = delivery.step.value.map (redirect field ctx) ∧
      (delivery.redirect field ctx).step.observations = delivery.step.observations := by
  obtain ⟨own, request, stream, sink, taken, phase⟩ := delivery
  cases phase with
  | listening =>
    simp only [step, redirect]
    obtain ⟨⟨answer, after⟩, notes⟩ := stream.poll
    cases answer with
    | pending => exact ⟨rfl, rfl⟩
    | item payload => exact ⟨rfl, rfl⟩
    | failure error => exact ⟨rfl, by simp⟩
    | ended => exact ⟨rfl, by simp [finish]⟩
  | offering value reply =>
    obtain ⟨suspensions, refusal⟩ := reply
    cases suspensions with
    | succ waits => exact ⟨rfl, rfl⟩
    | zero =>
      cases refusal with
      | none => exact ⟨rfl, rfl⟩
      | some error => exact ⟨rfl, by simp [step, finish, redirect]⟩
  | reporting error suspensions => cases suspensions <;> exact ⟨rfl, rfl⟩

/-- A delivery answers a poll the same, to the sink as well, for another field and context. -/
theorem poll_redirect (delivery : Delivery) :
    (delivery.redirect field ctx).poll.value =
        delivery.poll.value.map (redirect field ctx) id ∧
      (delivery.redirect field ctx).poll.observations = delivery.poll.observations := by
  obtain ⟨first, seen⟩ := step_redirect field ctx delivery
  cases turn : delivery.step.value with
  | advance next =>
    obtain ⟨rest, later⟩ := poll_redirect next
    rw [turn] at first
    rw [poll_of_advance turn, poll_of_advance first]
    refine ⟨rest, ?_⟩
    simp only [Noted.observations, List.filterMap_append] at seen later ⊢
    rw [seen, later]
  | wait next =>
    rw [turn] at first
    rw [poll_of_wait turn, poll_of_wait first]
    exact ⟨rfl, seen⟩
  | stop outcome =>
    rw [turn] at first
    rw [poll_of_stop turn, poll_of_stop first]
    exact ⟨rfl, seen⟩
termination_by delivery.measure
decreasing_by exact measure_step turn

/-- After any number of polls the same was observed, for whatever field and request, and what is
found differs in nothing but the field and the request themselves. -/
theorem observed_alike (stream : SubscriptionStream) (sink : Sink) (other : OperationDescriptor)
    (request : RequestContext) (count : Nat) :
    (pollUpTo poll count (start other request stream sink)).observations =
        (pollUpTo poll count (start field ctx stream sink)).observations ∧
      (pollUpTo poll count (start other request stream sink)).value =
        (pollUpTo poll count (start field ctx stream sink)).value.map (redirect other request)
          id := by
  have turns (delivery : Delivery) := (poll_redirect other request delivery).1
  have seen (delivery : Delivery) := (poll_redirect other request delivery).2
  refine ⟨?_, ?_⟩
  · exact filterMap_notes_pollUpTo_map Note.observation? turns seen count
      (start field ctx stream sink)
  · exact value_pollUpTo_map turns count (start field ctx stream sink)

/-! ## Exactness -/

/-- The value that a delivery is offering to its sink. -/
def offering? (delivery : Delivery) : Option SourceValue :=
  match delivery.phase with
  | .offering value _ => some value
  | _ => none

/-- The value that is being offered is the first that the sink will still see. -/
theorem offering_prefix (delivery : Delivery) :
    delivery.offering?.toList <+: delivery.receipt.seen.filterMap Observation.offered? := by
  unfold offering? receipt
  cases delivery.phase with
  | listening => exact List.nil_prefix
  | offering value reply =>
    obtain ⟨suspensions, refusal⟩ := reply
    cases refusal with
    | none => exact ⟨_, rfl⟩
    | some error => exact List.prefix_rfl
  | reporting error suspensions => exact List.nil_prefix

/-- A delivery goes by a cut of its steps: it is pending for as many polls as its stream and its
sink take, and then stops as the cut says; all that is observed is the course of the cut, and before
the end a beginning of it; and the values offered up to then, with the one that is being offered,
are the first of those that are offered in all. -/
structure GoesBy (delivery : Delivery) (before : List (StreamStep SourceValue)) (stop : Stop) :
    Prop where
  answers : AnswersAfter poll delivery (delivery.sink.waits stop [] before)
    (stop.outcome (items before).length)
  observed_eq : ∀ count, delivery.sink.waits stop [] before < count →
    (pollUpTo poll count delivery).observations = stop.course delivery.stream.op before
  observed_prefix : ∀ count,
    (pollUpTo poll count delivery).observations <+: stop.course delivery.stream.op before
  offered_prefix : ∀ count next, (pollUpTo poll count delivery).value = .pending next →
    (pollUpTo poll count delivery).observations.filterMap Observation.offered? ++
        next.offering?.toList <+:
      items before ++ stop.refused?.toList

/-- A delivery goes by the steps in front of the stop that its stream and sink are cut at. -/
theorem goesBy_of_cut {stream : SubscriptionStream} {sink : Sink}
    {before rest : List (StreamStep SourceValue)} {stop : Stop}
    (cut : sink.Cut [] stream.steps before rest stop) :
    (start field ctx stream sink).GoesBy before stop := by
  obtain ⟨answers, observed_eq⟩ : (start field ctx stream sink).Comes (sink.waits stop [] before)
      (stop.course stream.op before) (stop.outcome (items before).length) :=
    comes_of_cut rfl rfl cut
  have observed_prefix : ∀ count, (pollUpTo poll count (start field ctx stream sink)).observations
      <+: stop.course stream.op before := by
    intro count
    have last := observed_eq (count + sink.waits stop [] before + 1) (by omega)
    rw [← last]
    exact observations_pollUpTo_prefix (by omega) _
  refine ⟨answers, observed_eq, observed_prefix, ?_⟩
  intro count next found
  have all := receipt_pollUpTo count (start field ctx stream sink)
  have received : (start field ctx stream sink).receipt = stop.receipt [] before :=
    Sink.receipt_of_cut cut
  rw [found, received] at all
  -- what was seen and what is still to be seen make up the receipt, so the value that is being
  -- offered is the next one
  have parts : (pollUpTo poll count (start field ctx stream sink)).observations.filter
      Observation.atSink ++ next.receipt.seen = (items before).map .published ++ stop.seen :=
    congrArg Receipt.seen all
  rw [← stop.offered_seen before, ← parts, List.filterMap_append,
    filterMap_filter_atSink Observation.offered?_of_elsewhere]
  exact (List.prefix_append_right_inj _).2 next.offering_prefix

/-- A stream that has the same when it has something, and a sink that refuses the same, hand over
the same, whatever time they take. -/
theorem handsOver_of_patient {stream patient : SubscriptionStream} {sink slow : Sink}
    {before rest : List (StreamStep SourceValue)} {stop : Stop}
    (cut : sink.Cut [] stream.steps before rest stop)
    (same : ready patient.steps = ready stream.steps) (agrees : slow.Agrees sink) :
    (start field ctx patient slow).HandsOver (stop.receipt [] before) := by
  have received : slow.receipt (failure? patient.steps) [] (yielded patient.steps) =
      stop.receipt [] before := by
    rw [agrees.receipt_eq, ← failure?_ready patient.steps, ← yielded_ready patient.steps, same,
      failure?_ready, yielded_ready]
    exact Sink.receipt_of_cut cut
  rw [← received]
  exact handsOver_start field ctx patient slow

end Delivery

/-- The elements in front of a cut are among those of the stream. -/
theorem Sink.Cut.length_items_le {sink : Sink} {taken : List SourceValue}
    {steps before rest : List (StreamStep SourceValue)} {stop : Stop}
    (cut : sink.Cut taken steps before rest stop) :
    (items before).length ≤ (items steps).length := by
  have front : before <+: steps := by
    rcases cut.split with ⟨same, -⟩ | ⟨step, whole, -⟩
    · exact same ▸ List.prefix_rfl
    · exact whole ▸ List.prefix_append before (step :: rest)
  exact (front.filterMap item?).length_le

/-- The steps of every stream are cut, for every sink, at the first that is an end, a failure, or an
element that the sink refuses, having taken those before. The sink is offered the elements in front
of the cut, and the refused one if there is one, in their order and nothing else; it takes all but
the refused one, and the outcome tells by what the delivery was stopped and how many were taken,
which are never more than the stream has. A failure is reported once, behind all that was published,
and nothing else ever is. The stream is polled once for each step in front of the cut and once for
the stop. So it is whatever the field and the request: what is observed is the same after every
number of polls, and so is the delivery itself but for these two. Nor do steps that have nothing
yet, or a sink that takes its time, change what the sink sees or the outcome. -/
theorem delivery_exact (stream : SubscriptionStream) (sink : Sink) :
    ∃ before rest stop, sink.Cut [] stream.steps before rest stop ∧
      stop.Account stream.op before ∧ (items before).length ≤ (items stream.steps).length ∧
      (∀ field ctx, (Delivery.start field ctx stream sink).GoesBy before stop) ∧
      (∀ field ctx other request count,
        (pollUpTo Delivery.poll count (.start other request stream sink)).observations =
            (pollUpTo Delivery.poll count (.start field ctx stream sink)).observations ∧
          (pollUpTo Delivery.poll count (.start other request stream sink)).value =
            (pollUpTo Delivery.poll count (.start field ctx stream sink)).value.map
              (Delivery.redirect other request) id) ∧
      ∀ patient slow, ready patient.steps = ready stream.steps → slow.Agrees sink →
        ∀ field ctx,
          (Delivery.start field ctx patient slow).HandsOver (stop.receipt [] before) := by
  obtain ⟨before, rest, stop, cut⟩ := sink.exists_cut [] stream.steps
  refine ⟨before, rest, stop, cut, stop.account stream.op before, cut.length_items_le, ?_, ?_, ?_⟩
  · intro field ctx
    exact Delivery.goesBy_of_cut field ctx cut
  · intro field ctx other request count
    exact Delivery.observed_alike field ctx stream sink other request count
  · intro patient slow same agrees field ctx
    exact Delivery.handsOver_of_patient field ctx cut same agrees

end SubscriptionFields
