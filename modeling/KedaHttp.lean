import KedaHttp.Foundation.Transition
import KedaHttp.Foundation.GoMap
import KedaHttp.Foundation.MachineInt
import KedaHttp.Foundation.GoStrings
import KedaHttp.Foundation.MergePatch
import KedaHttp.Foundation.Url
import KedaHttp.Foundation.NetAddr
import KedaHttp.Foundation.Commutation
import KedaHttp.Foundation.JsonText
import KedaHttp.Foundation.Json
import KedaHttp.Foundation.JsonTypes
import KedaHttp.Foundation.UrlString
import KedaHttp.Foundation.Broadcaster
import KedaHttp.Foundation.Broadcast
import KedaHttp.Foundation.BroadcastProgress
import KedaHttp.Foundation.Backoff
import KedaHttp.Queue.Memory
import KedaHttp.Queue.Rpc
import KedaHttp.Interceptor.Host
import KedaHttp.Interceptor.Counting
import KedaHttp.Interceptor.Accounting
import KedaHttp.Interceptor.Cooldown
import KedaHttp.Interceptor.Retention
import KedaHttp.Interceptor.Window
import KedaHttp.Interceptor.Drift
import KedaHttp.Scaler.FetchCounts
import KedaHttp.Scaler.FetchSafety
import KedaHttp.Scaler.FetchProgress
import KedaHttp.Scaler.FetchOutcome
import KedaHttp.Scaler.FetchLeaks
import KedaHttp.Scaler.FetchOverHTTP
import KedaHttp.Routing.Table
import KedaHttp.Routing.TableText
import KedaHttp.Routing.Updater
import KedaHttp.Routing.Propagation
import KedaHttp.Scaler.Handlers
import KedaHttp.Scaler.Snapshots
import KedaHttp.Scaler.Metrics
import KedaHttp.Scaler.Pinging
import KedaHttp.Interceptor.ForwardWait
import KedaHttp.Interceptor.Crowd
import KedaHttp.Interceptor.CrowdProgress
import KedaHttp.Interceptor.Dialing
import KedaHttp.Interceptor.Forwarding
import KedaHttp.Interceptor.TargetURL
import KedaHttp.Interceptor.RequestForwarder
import KedaHttp.Interceptor.Proxy
import KedaHttp.Interceptor.HostKeys
import KedaHttp.Interceptor.RemoteAddress
import KedaHttp.Interceptor.ColdStartHeader
import KedaHttp.Interceptor.Gateway
import KedaHttp.Operator.Cluster
import KedaHttp.Operator.Reconcile
import KedaHttp.Operator.Effects
import KedaHttp.Operator.Outcomes
import KedaHttp.Operator.System
import KedaHttp.Operator.Patching
import KedaHttp.Operator.Publishing
import KedaHttp.Operator.Commuting
import KedaHttp.Operator.Finalizers
import KedaHttp.Operator.Entries
import KedaHttp.Operator.Guarding
import KedaHttp.Operator.Conditions
import KedaHttp.Operator.Convergence
import KedaHttp.Operator.Ownership
import KedaHttp.Operator.Removal
import KedaHttp.Operator.Restart
import KedaHttp.Operator.ScaledObjects
import KedaHttp.HostList
import KedaHttp.Isolation
import KedaHttp.EndToEnd
import KedaHttp.ScaleToZero
import KedaHttp.ColdStart
