import HermesClaude.Library.System
import HermesClaude.Library.Channel
import HermesClaude.Library.Register
import HermesClaude.Python.Value
import HermesClaude.Python.Json
import HermesClaude.Billing.Evidence
import HermesClaude.Content.ZeroNative
import HermesClaude.Content.Projection
import HermesClaude.Bridge.Calls
import HermesClaude.Bridge.SchemaMeaning
import HermesClaude.Session.Step
import HermesClaude.Session.TurnResults
import HermesClaude.Session.Isolation
import HermesClaude.Session.Liveness
import HermesClaude.Runtime.ToolNames
import HermesClaude.Runtime.Terminal
import HermesClaude.Runtime.Phase
import HermesClaude.Runtime.Abandon
import HermesClaude.Session.Endings
import HermesClaude.Session.Teardown
import HermesClaude.Session.CompactionPhases
import HermesClaude.Session.LifecycleSteps
import HermesClaude.Session.Watchdog
import HermesClaude.Runtime.Conversation
import HermesClaude.Runtime.Fidelity
import HermesClaude.Runtime.Authorization
import HermesClaude.Runtime.Bookkeeping
import HermesClaude.Runtime.Resumption
import HermesClaude.Runtime.ModelProvenance
import HermesClaude.Parity.CanonicalForm
import HermesClaude.Parity.ResultRoundTrip
import HermesClaude.Parity.RunnerResume
import HermesClaude.Runtime.TurnInputErrors
import HermesClaude.Runtime.FailedSetup
import HermesClaude.Content.StreamTools
import HermesClaude.Billing.Aliases
import HermesClaude.Billing.Acceptance
import HermesClaude.Billing.Environment
import HermesClaude.Parity.GatewayEvents
import HermesClaude.Parity.GatewayQueue
import HermesClaude.Parity.EventAccumulator
import HermesClaude.Parity.ObserverLifecycle
import HermesClaude.Parity.ObserverOperations
import HermesClaude.Parity.PathTraces
import HermesClaude.Parity.Observer
import HermesClaude.Parity.GradedPolicies
import HermesClaude.Parity.GradedTrialSets
import HermesClaude.Parity.InventoryDrift
import HermesClaude.Bridge.PlainJsonSharing
import HermesClaude.Parity.GradingOrder
import HermesClaude.Runtime.TurnText
import HermesClaude.Runtime.TurnImages
import HermesClaude.Bridge.RequestIds
import HermesClaude.Bridge.BoundedText
import HermesClaude.Content.ToolArguments
import HermesClaude.Prompt.SchemaLabels
import HermesClaude.Prompt.Bearer
import HermesClaude.Prompt.Append
import HermesClaude.Content.ProjectorBounds
import HermesClaude.Billing.AuthAcceptance
import HermesClaude.Billing.BoundedCli
import HermesClaude.Parity.LiveBudget
import HermesClaude.Parity.PassedResults
import HermesClaude.Library.Indexed
import HermesClaude.Runtime.FrozenContract
import HermesClaude.Runtime.ToolObservations
import HermesClaude.Parity.GatewayInventory
import HermesClaude.Parity.BuiltInventories
import HermesClaude.Parity.OwnershipReceipts
import HermesClaude.Parity.OwnershipEvidence
import HermesClaude.Parity.BoundReceipts
import HermesClaude.Parity.BackgroundDelivery
import HermesClaude.Parity.PathEvents
