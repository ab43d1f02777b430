import SubscriptionFields.Field.Registry
import SubscriptionFields.Settings.Form
import SubscriptionFields.Telemetry.Installation

/-!
# Configurations

The registry and the logger are configured by small texts. All settings have defaults.
-/

set_option autoImplicit false

namespace SubscriptionFields

open Settings

def RegistryConfig.form : Form RegistryConfig where
  name := "RegistryConfig"
  settings :=
    [.flag "reject_duplicates" fun value config => { config with rejectDuplicates := value }]
  default := {}

def RegistryConfig.read (text : String) : Except ReadError RegistryConfig :=
  form.read text

/-- A configuration of the registry, as it is shown to developers. -/
def RegistryConfig.inspect (config : RegistryConfig) : String :=
  "RegistryConfig \x7b reject_duplicates: " ++ toString config.rejectDuplicates ++ " \x7d"

def TelemetryConfig.form : Form TelemetryConfig where
  name := "TelemetryConfig"
  settings :=
    [.text "filter" fun value config => { config with filter := value },
      .flag "json" fun value config => { config with json := value }]
  default := {}

def TelemetryConfig.read (text : String) : Except ReadError TelemetryConfig :=
  form.read text

end SubscriptionFields
