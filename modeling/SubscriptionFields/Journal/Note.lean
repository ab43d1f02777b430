import SubscriptionFields.Fault.FieldError
import SubscriptionFields.Payload.Object

/-!
# Notes

Everything that a computation of this library does besides returning a value is written down as a
note: what it observably does to binders, operations, handles, streams and sinks, what it logs, and
what the expressions of a caller do on their own account. A log record may belong to a span. A span
is opened once per traced call, with the fields that are known then, and takes further values for
the fields it was declared with.
-/

set_option autoImplicit false

namespace SubscriptionFields

/-! ## Observations -/

/-- Something that happens to a binder, an operation or a sink. Operations, and the handles and
streams they return, are told apart by the label `op`. -/
inductive Observation where
  /-- The receiver expression is about to be evaluated. -/
  | bindReceiver (op : String)
  /-- The argument expression at a position is about to be evaluated. -/
  | bindArgument (op : String) (index : Nat)
  /-- The operation is called. -/
  | invoked (op : String) (receiver : SourceValue) (arguments : List SourceValue)
  /-- The operation's handle is polled. -/
  | handlePolled (op : String)
  /-- The operation's handle is dropped. -/
  | handleDropped (op : String)
  /-- The operation's stream comes into being. -/
  | streamBuilt (op : String)
  /-- The operation's stream is polled. -/
  | streamPolled (op : String)
  /-- The operation's stream is dropped. -/
  | streamDropped (op : String)
  /-- The sink takes a payload. -/
  | published (payload : SourceValue)
  /-- The sink refuses a payload. -/
  | refused (payload : SourceValue)
  /-- The sink is told of the error that ended the stream. -/
  | reported (error : FieldError)

/-! ## Log records -/

/-- How serious a log record is. -/
inductive Level where
  | error
  | warn
  | info
  | debug
  | trace
  deriving DecidableEq, Repr

/-- The value of a field of a log record. -/
inductive FieldValue where
  | text (value : String)
  | count (value : Nat)
  /-- A time span on the clock, whose length is not part of this library's meaning. -/
  | elapsed
  deriving DecidableEq, Repr

abbrev LogField := String × FieldValue

/-- A span: its number, its name, and the fields that it was declared with. -/
structure Span where
  id : Nat
  name : String
  declared : List String
  deriving DecidableEq, Repr

/-- One log record. -/
inductive LogRecord where
  /-- An event, inside a span or outside of all spans. -/
  | event (level : Level) (target : String) (fields : List LogField) (span : Option Span)
  /-- A span is opened with the fields known so far. -/
  | opened (span : Span) (level : Level) (target : String) (fields : List LogField)
  /-- A span takes the value of one of its fields. -/
  | recorded (span : Span) (field : LogField)
  deriving DecidableEq, Repr

/-- A step that a computation writes down. -/
inductive Note where
  | observed (observation : Observation)
  | logged (record : LogRecord)
  /-- An expression of a caller's does something of its own, which has this name. -/
  | caused (effect : String)

def Note.observation? : Note → Option Observation
  | .observed observation => some observation
  | .logged _ => none
  | .caused _ => none

def Note.record? : Note → Option LogRecord
  | .observed _ => none
  | .logged record => some record
  | .caused _ => none

def Note.effect? : Note → Option String
  | .caused effect => some effect
  | _ => none

end SubscriptionFields
