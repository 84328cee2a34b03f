import Bridgefu.CallEngine.Guards
import Bridgefu.CallEngine.MediaGraph
import Bridgefu.CallService.PlanValidity
import Bridgefu.Persistence.RequestReplay
import Bridgefu.Persistence.Placement
import Bridgefu.Persistence.Capacity
import Bridgefu.Persistence.EventLog
import Bridgefu.Persistence.Deadlines
import Bridgefu.Persistence.ProviderTargets
import Bridgefu.Persistence.History
import Bridgefu.Persistence.Attachments
import Bridgefu.Persistence.Promotion
import Bridgefu.Persistence.Controls
import Bridgefu.Coordination.OrderedProjection
import Bridgefu.Coordination.Convergence
import Bridgefu.Broadcast.Deletion
import Bridgefu.Broadcast.Grants
import Bridgefu.Broadcast.Fencing
import Bridgefu.ApiRateLimit.Bound
import Bridgefu.Worker.Health
import Bridgefu.Gateway.RouteOwnership
import Bridgefu.Gateway.Sessions
import Bridgefu.Gateway.Prepare
import Bridgefu.Gateway.IngressCleanup
import Bridgefu.Gateway.Rtcp
import Bridgefu.PrivateEgress.CommandReplay
import Bridgefu.PrivateEgress.Agreement
import Bridgefu.Providers.CircuitBreaker
