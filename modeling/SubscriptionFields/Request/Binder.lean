import SubscriptionFields.Journal.Noted
import SubscriptionFields.Request.Context

/-!
# Binders

Before an operation is called, its receiver and its arguments are computed from the request
context. The ready-made binders read only what they name; a computed binder may read the whole
context, may fail, may have effects of its own, and may store a fresh object, for which it is told
where it stands.

An evaluation is carried out in one piece: its beginning is observed, its effects follow, and then
there is its answer. So whatever is evaluated has left its notes, and nothing else has.
-/

set_option autoImplicit false

namespace SubscriptionFields

/-- Where a binder stands: the number of the call and its position in it, the receiver's being
zero and the arguments' counting from one. -/
structure BindingSite where
  call : Nat
  position : Nat
  deriving DecidableEq, Repr

/-- The allocation that a binder may use for a fresh object. -/
def BindingSite.allocation (site : BindingSite) : Allocation :=
  .minted site.call site.position

/-- What the evaluation of an expression comes to: its answer, and the effects that it has on the
way.
-/
structure Evaluation where
  answer : Except FieldError SourceValue
  effects : List String := []

/-- Carries out an evaluation that begins with the given observation. -/
def Evaluation.carryOut (evaluation : Evaluation) (begins : Observation) :
    Noted (Except FieldError SourceValue) where
  value := evaluation.answer
  notes := .observed begins :: evaluation.effects.map .caused

abbrev Computation := BindingSite → RequestContext → Evaluation

/-- How the receiver of a call is found. -/
inductive ReceiverBinder where
  | source
  | fixed (value : SourceValue)
  | computed (compute : Computation)

/-- How one argument of a call is found. -/
inductive ArgumentBinder where
  /-- The argument of that name; if it is absent the call fails, or binds no value. -/
  | named (name : String) (required : Bool)
  /-- A value fixed at registration. -/
  | constant (value : SourceValue)
  /-- A computed argument. -/
  | computed (compute : Computation)

namespace ReceiverBinder

/-- The evaluation of a receiver in a context. -/
def evaluation (site : BindingSite) (ctx : RequestContext) : ReceiverBinder → Evaluation
  | .source => { answer := .ok ctx.source }
  | .fixed value => { answer := .ok value }
  | .computed compute => compute site ctx

/-- The receiver for a context. -/
def evaluate (site : BindingSite) (ctx : RequestContext) (binder : ReceiverBinder) :
    Except FieldError SourceValue :=
  (binder.evaluation site ctx).answer

/-- Evaluates the receiver of a call. -/
def bind (label : String) (call : Nat) (ctx : RequestContext) (binder : ReceiverBinder) :
    Noted (Except FieldError SourceValue) :=
  (binder.evaluation { call, position := 0 } ctx).carryOut (.bindReceiver label)

end ReceiverBinder

namespace ArgumentBinder

/-- The evaluation of an argument in a context. An argument that is present without a value is not
missing. -/
def evaluation (site : BindingSite) (ctx : RequestContext) : ArgumentBinder → Evaluation
  | .named name required =>
    match ctx.argument? name with
    | some value => { answer := .ok value }
    | none =>
      { answer := if required then .error (.ofKnown (.missingArgument name)) else .ok none }
  | .constant value => { answer := .ok value }
  | .computed compute => compute site ctx

/-- The argument for a context. -/
def evaluate (site : BindingSite) (ctx : RequestContext) (binder : ArgumentBinder) :
    Except FieldError SourceValue :=
  (binder.evaluation site ctx).answer

/-- Evaluates the argument of a call at the given index. -/
def bind (label : String) (call : Nat) (ctx : RequestContext) (index : Nat)
    (binder : ArgumentBinder) : Noted (Except FieldError SourceValue) :=
  (binder.evaluation { call, position := index + 1 } ctx).carryOut (.bindArgument label index)

end ArgumentBinder

namespace Computation

def failing (error : FieldError) : Computation := fun _ _ => { answer := .error error }

def source : Computation := fun _ ctx => { answer := .ok ctx.source }

def traceId : Computation := fun site ctx =>
  { answer := .ok (some (.ofText site.allocation ctx.traceId)) }

/-- The tenant of the context as a fresh text, if it has one. -/
def tenantId : Computation := fun site ctx =>
  { answer := .ok (ctx.tenantId.map fun tenant => .ofText site.allocation tenant) }

end Computation

end SubscriptionFields
