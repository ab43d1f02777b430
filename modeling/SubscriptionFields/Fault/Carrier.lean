import SubscriptionFields.Fault.Domain

/-!
# Errors in a carrier

The failure of a request may be an error of any type. A carrier holds errors of all types as one and
puts remarks in front of them. This library does not look into what a carrier holds: `ErrorCarrier`
lists what it asks of a carrier, `LawfulErrorCarrier` what it takes for granted of the answers.

A field error is a wrapper around what a carrier holds, and is an error itself, so a carrier may
hold it in turn. The same goes for a subscription that failed with a field error. Both declare
themselves transparent: what such a wrapper shows is made, by the carrier's library, of what it
wraps.
-/

set_option autoImplicit false

namespace SubscriptionFields

/-- The failure of a request to a field; `ε` is what a carrier holds. -/
structure FieldErrorOf (ε : Type) where
  fault : ε
  deriving DecidableEq, Repr

/-- Why a subscription did not start. -/
inductive SubscribeErrorOf (ε : Type) where
  | unknownField (field : String)
  | field (error : FieldErrorOf ε)
  deriving DecidableEq, Repr

/-- An error with a type of its own. -/
inductive TypedError (ε : Type) where
  | known (error : KnownFault)
  | fieldError (error : FieldErrorOf ε)
  /-- A subscription that failed with a field error. -/
  | failedSubscription (error : FieldErrorOf ε)
  deriving DecidableEq, Repr

/-- What is there to be shown: a text, or any value that can be shown as one. Of an error its text
is shown, but not its causes. -/
inductive Remark (ε : Type) where
  | text (words : String)
  | shown (value : TypedError ε)
  deriving DecidableEq, Repr

instance {ε : Type} : Coe String (Remark ε) := ⟨.text⟩

/-! ## Types and values -/

/-- The types that are told apart by name. -/
inductive FaultType where
  | chained
  | configError
  | fieldError
  | missingArgument
  | quotaExceeded
  | registryError
  | text
  | subscribeError
  | originGone
  deriving DecidableEq, Repr

namespace FaultType

def all : List FaultType :=
  [.chained, .configError, .fieldError, .missingArgument, .quotaExceeded, .registryError, .text,
    .subscribeError, .originGone]

@[reducible] def Value (ε : Type) : FaultType → Type
  | .chained => String × List String
  | .configError => ConfigError
  | .fieldError => FieldErrorOf ε
  | .missingArgument => String
  | .quotaExceeded => String
  | .registryError => RegistryError
  | .text => String
  | .subscribeError => SubscribeErrorOf ε
  | .originGone => Unit

end FaultType

/-- The type of a value in an error: a known one, or any other by its full name. -/
inductive CastTarget where
  | known (type : FaultType)
  | foreign (name : String)
  deriving DecidableEq, Repr

@[reducible] def CastTarget.Value (ε : Type) : CastTarget → Type
  | .known type => type.Value ε
  | .foreign _ => Foreign

/-- A value with its type. -/
abbrev FaultValue (ε : Type) := Σ target : CastTarget, target.Value ε

/-- The value, if it is of the type asked for. -/
def FaultValue.as? {ε : Type} (value : FaultValue ε) (target : CastTarget) :
    Option (target.Value ε) :=
  if same : value.1 = target then some (same ▸ value.2) else none

section

variable {ε : Type}

/-- The value of an error, under its own type. -/
def KnownFault.value : KnownFault → FaultValue ε
  | .originGone => ⟨.known .originGone, ()⟩
  | .quotaExceeded holder => ⟨.known .quotaExceeded, holder⟩
  | .missingArgument name => ⟨.known .missingArgument, name⟩
  | .unknownField field => ⟨.known .subscribeError, .unknownField field⟩
  | .config error => ⟨.known .configError, error⟩
  | .registry error => ⟨.known .registryError, error⟩
  | .chained message sources => ⟨.known .chained, message, sources⟩
  | .foreign error => ⟨.foreign error.type, error⟩

/-- The value of an error, under its own type. -/
def TypedError.value : TypedError ε → FaultValue ε
  | .known error => error.value
  | .fieldError error => ⟨.known .fieldError, error⟩
  | .failedSubscription error => ⟨.known .subscribeError, .field error⟩

/-- The value of a remark: a text is of the type of texts, anything else of its own type. -/
def Remark.value : Remark ε → FaultValue ε
  | .text words => ⟨.known .text, words⟩
  | .shown value => value.value

end

/-! ## Carriers -/

/-- What stands behind an error: an error with a type of its own, or what a carrier holds. -/
inductive Cause (ε : Type) where
  | typed (error : TypedError ε)
  | carried (error : ε)

/-- What every error lets see. -/
structure ErrorView (ε : Type) where
  /-- Its text. -/
  text : String
  /-- Its text together with those of what stands behind it. -/
  fullText : String
  /-- What stands behind it. -/
  cause? : Option (Cause ε)

/-- What this library asks of a carrier of errors. -/
class ErrorCarrier (ε : Type) where
  /-- Holds an error with a type of its own. -/
  ofError : TypedError ε → ε
  /-- Holds a remark, as an error that is nothing else. -/
  ofRemark : Remark ε → ε
  /-- Puts a remark in front of an error. -/
  withRemark : ε → Remark ε → ε
  /-- What an error that is held lets see. -/
  view : ε → ErrorView ε
  /-- The value of the type asked for, if there is one in an error that is held. -/
  recover? : ε → (target : CastTarget) → Option (target.Value ε)
  /-- What a wrapper lets see that declares itself transparent, given what it wraps. -/
  transparent : ErrorView ε → ErrorView ε

section

open ErrorCarrier

variable {ε : Type} [ErrorCarrier ε]

/-- What an error with a type of its own lets see. The wrappers are transparent. -/
def TypedError.view : TypedError ε → ErrorView ε
  | .known error =>
    { text := error.message
      fullText := error.message
      cause? := error.source?.map fun source => .typed (.known source) }
  | .fieldError error => transparent (ErrorCarrier.view error.fault)
  | .failedSubscription error => transparent (transparent (ErrorCarrier.view error.fault))

def Remark.display : Remark ε → String
  | .text words => words
  | .shown value => value.view.text

def Cause.view : Cause ε → ErrorView ε
  | .typed error => error.view
  | .carried error => ErrorCarrier.view error

/-- The texts of an error and of all that stands behind it, from one cause to the next. -/
inductive Cause.Chain : Cause ε → List String → Prop
  | last {cause : Cause ε} (ends : cause.view.cause? = none) : Chain cause [cause.view.text]
  | next {cause behind : Cause ε} {texts : List String} (source : cause.view.cause? = some behind)
      (rest : Chain behind texts) : Chain cause (cause.view.text :: texts)

end

open ErrorCarrier in
/-- What is taken for granted of a carrier. -/
class LawfulErrorCarrier (ε : Type) [ErrorCarrier ε] : Prop where
  /-- An error that is held shows its own text only. -/
  text_ofError : ∀ error : TypedError ε, (view (ofError error)).text = error.view.text
  /-- What stands behind an error stands behind it when it is held. -/
  cause?_ofError : ∀ error : TypedError ε, (view (ofError error)).cause? = error.view.cause?
  /-- A remark shows its text. -/
  text_ofRemark : ∀ remark : Remark ε, (view (ofRemark remark)).text = remark.display
  /-- Nothing stands behind a remark. -/
  cause?_ofRemark : ∀ remark : Remark ε, (view (ofRemark remark)).cause? = none
  /-- An error with a remark in front shows the remark only. -/
  text_withRemark : ∀ (error : ε) (remark : Remark ε),
    (view (withRemark error remark)).text = remark.display
  /-- Behind a remark stands the error that it was put in front of. -/
  cause?_withRemark : ∀ (error : ε) (remark : Remark ε),
    (view (withRemark error remark)).cause? = some (.carried error)
  /-- With all that stands behind it, an error is written from the outermost text on, each further
  one behind a colon. -/
  fullText_eq : ∀ (error : ε) (text : String) (texts : List String),
    (Cause.carried error).Chain (text :: texts) →
      (view error).fullText = texts.foldl (fun written behind => written ++ ": " ++ behind) text
  /-- An error that is held is found under its own type and under no other. -/
  recover?_ofError : ∀ (error : TypedError ε) (target : CastTarget),
    recover? (ofError error) target = error.value.as? target
  /-- A remark is found under its own type and under no other. -/
  recover?_ofRemark : ∀ (remark : Remark ε) (target : CastTarget),
    recover? (ofRemark remark) target = remark.value.as? target
  /-- A remark in front is found under its type; under any other type, what is found is what is
  found without the remark. -/
  recover?_withRemark : ∀ (error : ε) (remark : Remark ε) (target : CastTarget),
    recover? (withRemark error remark) target =
      (remark.value.as? target).or (recover? error target)
  /-- A transparent wrapper forwards the text of what it wraps. -/
  text_transparent : ∀ view : ErrorView ε, (transparent view).text = view.text
  /-- A transparent wrapper forwards the text with the causes. -/
  fullText_transparent : ∀ view : ErrorView ε, (transparent view).fullText = view.fullText
  /-- A transparent wrapper forwards the cause. -/
  cause?_transparent : ∀ view : ErrorView ε, (transparent view).cause? = view.cause?

/-! ## Field errors -/

namespace FieldErrorOf

open ErrorCarrier

variable {ε : Type} [ErrorCarrier ε]

/-- A field error that holds an error with a type of its own. -/
def new (error : TypedError ε) : FieldErrorOf ε := { fault := ofError error }

/-- A field error that is nothing but a remark. -/
def msg (remark : Remark ε) : FieldErrorOf ε := { fault := ofRemark remark }

def ofText (words : String) : FieldErrorOf ε := msg (.text words)

def ofKnown (error : KnownFault) : FieldErrorOf ε := new (.known error)

def view (error : FieldErrorOf ε) : ErrorView ε := (TypedError.fieldError error).view

def message (error : FieldErrorOf ε) : String := error.view.text

/-- The text of a field error with those of all that stands behind it. -/
def fullMessage (error : FieldErrorOf ε) : String := error.view.fullText

/-- The value of the type asked for, if there is one in the error that is held. -/
def recover? (error : FieldErrorOf ε) (target : CastTarget) : Option (target.Value ε) :=
  ErrorCarrier.recover? error.fault target

/-- The value of a known type. -/
def cast? (error : FieldErrorOf ε) (type : FaultType) : Option (type.Value ε) :=
  error.recover? (.known type)

/-- The known types of which there is a value in the error that is held. -/
def types (error : FieldErrorOf ε) : List FaultType :=
  FaultType.all.filter fun type => (error.cast? type).isSome

end FieldErrorOf

/-- The text of a failed subscription; that of a failed field is the field's own. -/
def SubscribeErrorOf.message {ε : Type} [ErrorCarrier ε] : SubscribeErrorOf ε → String
  | .unknownField name => (KnownFault.unknownField name).message
  | .field error => (TypedError.failedSubscription error).view.text

end SubscriptionFields
