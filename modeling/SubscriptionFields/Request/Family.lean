import SubscriptionFields.Request.Context

/-!
# Families of contexts

Contexts are changed in place and new ones are derived from old ones. A family is the list of
all contexts so far; a step changes one member, or adds a member at the end, and leaves the
others as they are.
-/

set_option autoImplicit false

namespace SubscriptionFields

/-- A change of one context that keeps its place in the family. -/
inductive ContextChange where
  | source (value : SourceValue)
  | argument (name : String) (value : SourceValue)
  | tenant (tenantId : Option String)
  | trace (traceId : String)

/-- How a new context comes about. -/
inductive ContextOrigin where
  /-- A context of which only the trace is known. -/
  | fresh (traceId : String)
  /-- A copy of a member. -/
  | copy (member : Nat)
  /-- The context of an event, derived from a member. -/
  | event (member : Nat) (payload : SourceValue)

/-- One step of a family. -/
inductive ContextStep where
  | alter (member : Nat) (change : ContextChange)
  | extend (origin : ContextOrigin)

def ContextChange.apply (ctx : RequestContext) : ContextChange → RequestContext
  | .source value => ctx.withSource value
  | .argument name value => ctx.withArgument name value
  | .tenant tenantId => ctx.withTenant tenantId
  | .trace traceId => ctx.withTrace traceId

/-- All contexts so far, in the order in which they came about. -/
abbrev ContextFamily := List RequestContext

namespace ContextFamily

/-- The context that an origin yields, if the member it refers to is there. -/
def create? (family : ContextFamily) : ContextOrigin → Option RequestContext
  | .fresh traceId => some (.ofTrace traceId)
  | .copy member => family[member]?
  | .event member payload => family[member]?.map fun ctx => ctx.forEvent payload

/-- The family after one step. A step that refers to a member that is not there has no effect. -/
def step (family : ContextFamily) : ContextStep → ContextFamily
  | .alter member change => family.modify member fun ctx => change.apply ctx
  | .extend origin => family ++ (family.create? origin).toList

/-- The families that the steps lead through, the first one included. -/
def states (family : ContextFamily) : List ContextStep → List ContextFamily
  | [] => [family]
  | next :: steps => family :: states (family.step next) steps

end ContextFamily

end SubscriptionFields
