import SubscriptionFields.Telemetry.Filter

/-!
# Installing a logger

A process has at most one logger, and the first one that is installed stays. A configuration whose
filter is not well formed installs nothing; its filter is looked at before anything else.
-/

set_option autoImplicit false

namespace SubscriptionFields

/-- How logging is configured. -/
structure TelemetryConfig where
  /-- The text of the filter. -/
  filter : String := "info"
  /-- Whether records are written as structured lines; else they are written for readers. -/
  json : Bool := false
  deriving DecidableEq, Repr

namespace Telemetry

/-- A logger in place. -/
structure Logger where
  filter : Filter
  json : Bool
  deriving DecidableEq, Repr

/-- Why no logger was installed. -/
inductive InstallError where
  | malformedFilter
  | alreadyInstalled
  deriving DecidableEq, Repr

/-- The logger of a configuration, if it can be installed where there is the given one or none. -/
def install (installed : Option Logger) (config : TelemetryConfig) : Except InstallError Logger :=
  match Filter.parse? config.filter, installed with
  | none, _ => .error .malformedFilter
  | some _, some _ => .error .alreadyInstalled
  | some filter, none => .ok { filter, json := config.json }

/-- Installs the configurations one after the other: what each of them came to, and the logger that
is in place in the end. -/
def installAll (installed : Option Logger) :
    List TelemetryConfig → List (Except InstallError Logger) × Option Logger
  | [] => ([], installed)
  | config :: configs =>
    let answer := install installed config
    let later := installAll (answer.toOption.or installed) configs
    (answer :: later.1, later.2)

end Telemetry

end SubscriptionFields
