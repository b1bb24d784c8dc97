import SparkRoute.Config.Agreement
import SparkRoute.Config.Routed
import SparkRoute.Config.Suppression
import SparkRoute.Gateway.Continuation
import SparkRoute.Gateway.GuardrailContext
import SparkRoute.Gateway.GuardrailRelease
import SparkRoute.Gateway.MaskFinal
import SparkRoute.Gateway.ModelCatalog
import SparkRoute.Gateway.Retry
import SparkRoute.Gateway.SseFraming
import SparkRoute.Ledger.Conservation
import SparkRoute.Lifecycle.AdmittedLeases
import SparkRoute.Lifecycle.Ownership
import SparkRoute.Lifecycle.Queue
import SparkRoute.Lifecycle.Rejection
import SparkRoute.ModelRouter.Pin
import SparkRoute.ModelRouter.Projection
import SparkRoute.Pii.Stability
import SparkRoute.Pii.StreamSafety
import SparkRoute.Registry.Fencing
import SparkRoute.Registry.Pagination
import SparkRoute.ResponsesState.ExpiredFiles
import SparkRoute.Routing.Preference
import SparkRoute.Routing.RetryBudget
import SparkRoute.Routing.Window
import SparkRoute.SavedTrace.Consistency
import SparkRoute.SavedTrace.Repair
import SparkRoute.Sparkrun.Budget
import SparkRoute.Sparkrun.ColdStart
import SparkRoute.Sparkrun.Ownership
