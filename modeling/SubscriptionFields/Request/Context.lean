import SubscriptionFields.Payload.Object
import SubscriptionFields.Table

/-!
# Request contexts

A context is what the engine hands to a field when it subscribes to it: identifiers for tracing
and tenancy, the current source value, and the arguments by name. An argument may be present
without a value, which is not the same as being absent.

While a subscription runs, the context of each delivered event is derived from that of the
request: it differs only in its source, which is the event's payload.
-/

set_option autoImplicit false

namespace SubscriptionFields

/-- The state of one request. -/
structure RequestContext where
  /-- The trace that the request belongs to. -/
  traceId : String := ""
  /-- The tenant on whose behalf the request runs. -/
  tenantId : Option String := none
  /-- The current source value. -/
  source : SourceValue := none
  /-- The arguments by name. -/
  arguments : Table SourceValue := {}

namespace RequestContext

/-- A context of which only the trace is known. -/
def ofTrace (traceId : String) : RequestContext := { traceId }

/-- The argument of a name: absent, present without a value, or present with one. -/
def argument? (ctx : RequestContext) (name : String) : Option SourceValue :=
  ctx.arguments.find? name

def withSource (ctx : RequestContext) (source : SourceValue) : RequestContext :=
  { ctx with source }

/-- The context with an argument written under a name. -/
def withArgument (ctx : RequestContext) (name : String) (value : SourceValue) : RequestContext :=
  { ctx with arguments := ctx.arguments.insert name value }

def withTenant (ctx : RequestContext) (tenantId : Option String) : RequestContext :=
  { ctx with tenantId }

def withTrace (ctx : RequestContext) (traceId : String) : RequestContext :=
  { ctx with traceId }

def forEvent (ctx : RequestContext) (payload : SourceValue) : RequestContext :=
  { traceId := ctx.traceId
    tenantId := ctx.tenantId
    source := payload
    arguments := ctx.arguments }

/-- Writing an argument changes that argument only. -/
@[simp] theorem argument?_withArgument (ctx : RequestContext) (name other : String)
    (value : SourceValue) :
    (ctx.withArgument name value).argument? other =
      if name = other then some value else ctx.argument? other :=
  Table.find?_insert ctx.arguments name other value

/-- The context of an event keeps all arguments. -/
@[simp] theorem argument?_forEvent (ctx : RequestContext) (payload : SourceValue) (name : String) :
    (ctx.forEvent payload).argument? name = ctx.argument? name := rfl

end RequestContext

end SubscriptionFields
