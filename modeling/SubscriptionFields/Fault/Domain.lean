import SubscriptionFields.Contract.Shape

/-!
# Errors of this library and of the operations it runs

`RegistryError` says why a registration was refused. `KnownFault` lists the errors that a request
may meet: those of this library and those that operations raise themselves, of which the last kind
stands for the errors of all other types. Every error has a message, and some have a source, which
is again such an error.
-/

set_option autoImplicit false

namespace SubscriptionFields

/-- Why a registration was refused. -/
inductive RegistryError where
  /-- The declared return type cannot back a subscription. -/
  | misconfigured (field : String) (reason : ConfigError)
  /-- The field exists and duplicates are refused. -/
  | duplicate (field : String)
  /-- The registration phase is over. -/
  | frozen
  deriving DecidableEq, Repr

namespace RegistryError

def message : RegistryError → String
  | .misconfigured field reason =>
    "subscription field `" ++ field ++ "` is misconfigured: " ++ reason.message
  | .duplicate field => "subscription field `" ++ field ++ "` is already registered"
  | .frozen => "registration phase is closed"

/-- The texts of a refused registration and of its source. -/
def chain : RegistryError → List String
  | .misconfigured field reason => [(misconfigured field reason).message, reason.message]
  | error => [error.message]

end RegistryError

/-- A value of a type that is not known here, as far as it can be seen: its text and, if it is an
error, the texts of its sources. -/
structure Foreign where
  /-- The full name of its type. -/
  type : String
  message : String
  sources : List String := []
  deriving DecidableEq, Repr

/-- An error of known type, or of any other, as it was raised. -/
inductive KnownFault where
  /-- The origin of the events is gone. -/
  | originGone
  /-- A quota is used up. -/
  | quotaExceeded (holder : String)
  /-- A required argument was not supplied. -/
  | missingArgument (name : String)
  /-- The requested field is not in the schema. -/
  | unknownField (field : String)
  /-- A return type cannot back a subscription. -/
  | config (error : ConfigError)
  /-- A registration was refused. -/
  | registry (error : RegistryError)
  /-- An error with the given message, whose source has the next message, and so on. -/
  | chained (message : String) (sources : List String)
  /-- An error of another type. -/
  | foreign (error : Foreign)
  deriving DecidableEq, Repr

namespace KnownFault

def message : KnownFault → String
  | .originGone => "upstream went away"
  | .quotaExceeded holder => "quota exceeded for " ++ holder
  | .missingArgument name => "missing required argument `" ++ name ++ "`"
  | .unknownField field => "unknown subscription field: " ++ field
  | .config error => error.message
  | .registry error => error.message
  | .chained message _ => message
  | .foreign error => error.message

/-- The source of an error. Nothing depends on the type of a source, only on its texts. -/
def source? : KnownFault → Option KnownFault
  | .registry (.misconfigured _ reason) => some (.config reason)
  | .chained _ (next :: sources) => some (.chained next sources)
  | .foreign ⟨_, _, next :: sources⟩ => some (.chained next sources)
  | _ => none

/-- A bound on the number of sources behind an error. -/
def depth : KnownFault → Nat
  | .registry _ => 1
  | .chained _ sources => sources.length
  | .foreign error => error.sources.length
  | _ => 0

/-- The source of an error is less deep than the error. -/
theorem depth_source? {error source : KnownFault} (h : error.source? = some source) :
    source.depth < error.depth := by
  unfold source? at h
  split at h
  · cases h; simp [depth]
  · cases h; simp [depth]
  · cases h; simp [depth]
  · exact absurd h (by simp)

/-- The texts of an error and of its sources. -/
def chain : KnownFault → List String
  | .registry error => error.chain
  | .chained message sources => message :: sources
  | .foreign error => error.message :: error.sources
  | error => [error.message]

/-- The texts of an error are its own and those of its source. -/
theorem chain_eq (error : KnownFault) :
    error.chain = error.message :: (error.source?.map chain).getD [] := by
  cases error with
  | registry error => cases error <;> rfl
  | chained message sources => cases sources <;> rfl
  | foreign error =>
    obtain ⟨type, message, sources⟩ := error
    cases sources <;> rfl
  | _ => rfl

end KnownFault

end SubscriptionFields
