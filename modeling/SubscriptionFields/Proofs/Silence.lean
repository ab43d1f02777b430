import SubscriptionFields.Proofs.Binding
import SubscriptionFields.Proofs.FirstAccepted
import SubscriptionFields.Proofs.Polling

/-!
# What records nothing

Of the notes of a computation only some are log records. The handle and the stream of an operation
record nothing when they are polled or dropped, and a descriptor that was compiled records nothing
when it is subscribed to (`Registration.records_subscribe`). A descriptor of another origin could
record what it likes; the schemas that registries publish have none (`Schema.Compiled`).
-/

set_option autoImplicit false

namespace SubscriptionFields

namespace Noted

variable {α β : Type}

/-- Doing nothing records nothing. -/
@[simp] theorem records_pure (value : α) : (pure value : Noted α).records = [] := rfl

/-- Of two computations, the second records behind the first. -/
@[simp] theorem records_bind (first : Noted α) (next : α → Noted β) :
    (first >>= next).records = first.records ++ (next first.value).records :=
  List.filterMap_append

/-- Converting a value records nothing more. -/
@[simp] theorem records_map (convert : α → β) (noted : Noted α) :
    (noted.map convert).records = noted.records := rfl

/-- What is observed is not recorded. -/
@[simp] theorem records_observe (observation : Observation) :
    (observe observation).records = [] := rfl

/-- A record that is logged is all that is recorded. -/
@[simp] theorem records_log (record : LogRecord) : (log record).records = [record] := rfl

/-- An event is recorded with its fields and then its message. -/
@[simp] theorem records_logEvent (level : Level) (target message : String)
    (fields : List LogField) (span : Option Span) :
    (logEvent level target message fields span).records =
      [.event level target (fields ++ [("message", .text message)]) span] := rfl

/-- A value is recorded on a span that was declared with its field. -/
theorem records_recordOn {span : Span} {name : String} (declared : name ∈ span.declared)
    (value : FieldValue) :
    (recordOn (some span) (name, value)).records = [.recorded span (name, value)] := by
  simp [recordOn, declared]

end Noted

def LogRecord.span? : LogRecord → Option Span
  | .event _ _ _ span => span
  | .opened span _ _ _ => some span
  | .recorded span _ => some span

/-! ## What records nothing -/

/-- Polling the handle of an operation records nothing. -/
theorem Handle.records_poll {α : Type} (handle : Handle (EventStream α)) :
    handle.poll.records = [] := by
  simp only [poll, Noted.records_bind, Noted.records_observe, List.nil_append]
  cases handle.next with
  | pending waiting => rfl
  | ready answer => cases answer <;> rfl

/-- Polling an adapted handle records nothing. -/
theorem SubscriptionHandle.records_poll (handle : SubscriptionHandle) :
    handle.poll.records = [] := by
  cases handle with
  | direct inner => simp [poll, inner.records_poll]
  | awaiting element inner => simp [poll, inner.records_poll]
  | completed outcome => rfl

/-- Dropping an adapted handle records nothing, whatever is left of it. -/
theorem SubscriptionHandle.records_drop (handle : SubscriptionHandle) :
    handle.drop.records = [] := by
  cases handle with
  | direct inner => rfl
  | awaiting element inner => rfl
  | completed outcome =>
    cases outcome with
    | error error => rfl
    | ok stream => cases stream <;> rfl

namespace OperationDescriptor

/-- No evaluation logs anything, whatever effects it has, so neither does binding a call. -/
theorem records_bindCall (descriptor : OperationDescriptor) (call : Nat) (ctx : RequestContext) :
    (descriptor.bindCall call ctx).records = [] := by
  rw [Noted.records, notes_bindCall, List.filterMap_flatMap, List.flatMap_eq_nil_iff]
  intro evaluation carried
  rcases List.mem_cons.1 (List.mem_of_mem_take carried) with rfl | argument
  · exact ReceiverBinder.records_bind _ _ _ _
  · obtain ⟨entry, -, rfl⟩ := List.mem_map.1 argument
    exact ArgumentBinder.records_bind _ _ _ _ _

end OperationDescriptor

/-- A descriptor that was compiled records nothing when it is subscribed to. -/
theorem Registration.records_subscribe {registration : Registration}
    {descriptor : OperationDescriptor} (compiled : registration.compile.value = .ok descriptor)
    (call : Nat) (ctx : RequestContext) : (descriptor.subscribe call ctx).records = [] := by
  obtain ⟨adapter, -, -, -, -, -, calls⟩ := of_compile compiled
  simp only [OperationDescriptor.subscribe, Noted.records_bind,
    OperationDescriptor.records_bindCall, List.nil_append]
  cases (descriptor.bindCall call ctx).value with
  | error error => rfl
  | ok values =>
    have announced (type : ReturnType) (result : type.Result) :
        (type.announce result).records = [] := by
      cases type <;> rfl
    simp [calls, OperationDescriptor.callThrough, announced]

/-- All descriptors of a schema were compiled. -/
def Schema.Compiled (schema : Schema) : Prop :=
  ∀ field descriptor, schema.resolver? field = some descriptor →
    ∃ registration : Registration, registration.compile.value = .ok descriptor

end SubscriptionFields
