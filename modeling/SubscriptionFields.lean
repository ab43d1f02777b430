import SubscriptionFields.Payload.ObjectTable
import SubscriptionFields.Request.Family
import SubscriptionFields.Session.Session
import SubscriptionFields.Settings.Config
import SubscriptionFields.Telemetry.Installation
import SubscriptionFields.Text.Concealed
import SubscriptionFields.Proofs.AdapterSelection
import SubscriptionFields.Proofs.RegistryInvariant
import SubscriptionFields.Proofs.Adaptation
import SubscriptionFields.Proofs.Binding
import SubscriptionFields.Proofs.DeliverySteps
import SubscriptionFields.Proofs.DeliveryRun
import SubscriptionFields.Proofs.Opening
import SubscriptionFields.Proofs.TracedLayers
import SubscriptionFields.Proofs.FirstAccepted
import SubscriptionFields.Proofs.Routing
import SubscriptionFields.Proofs.Permanence
import SubscriptionFields.Proofs.SequentialHistory
import SubscriptionFields.Proofs.Interleaving
import SubscriptionFields.Proofs.Linearization
import SubscriptionFields.Proofs.DeliveryLikeness
import SubscriptionFields.Proofs.ServingForms
import SubscriptionFields.Proofs.ErrorIdentity
import SubscriptionFields.Proofs.FieldIndependence
import SubscriptionFields.Proofs.Rearrangement
import SubscriptionFields.Proofs.GivingUp
import SubscriptionFields.Proofs.Transparency
import SubscriptionFields.Proofs.Consumption
import SubscriptionFields.Proofs.LifecycleRules
import SubscriptionFields.Proofs.Lifecycle
import SubscriptionFields.Proofs.EnteredSpans
import SubscriptionFields.Proofs.Silence
import SubscriptionFields.Proofs.Requests
import SubscriptionFields.Proofs.RequestTelemetry
import SubscriptionFields.Proofs.BindingOrder
import SubscriptionFields.Proofs.RegistrationRules
import SubscriptionFields.Proofs.JournalEntries
import SubscriptionFields.Proofs.RegistryJournal
import SubscriptionFields.Proofs.DeliveryCourse
import SubscriptionFields.Proofs.ExactDelivery
import SubscriptionFields.Proofs.ShapeGrammar
import SubscriptionFields.Proofs.ShortNames
import SubscriptionFields.Proofs.TypeTexts
import SubscriptionFields.Proofs.DescriptionEquality
import SubscriptionFields.Proofs.ReadyMadeBinders
import SubscriptionFields.Proofs.FaultLayers
import SubscriptionFields.Proofs.ContextLineage
