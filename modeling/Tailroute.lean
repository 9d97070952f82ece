import Tailroute.Theory.Table
import Tailroute.Theory.Transition
import Tailroute.Theory.TextOrder
import Tailroute.Theory.Calendar
import Tailroute.Theory.Split
import Tailroute.Common.Text
import Tailroute.Common.Api
import Tailroute.Common.Rfc3339
import Tailroute.Storage.Store
import Tailroute.Storage.PutRoutes
import Tailroute.Storage.Operations
import Tailroute.Storage.LiveRoutes
import Tailroute.Storage.Purge
import Tailroute.Controller.Config
import Tailroute.Dns.Registry
import Tailroute.Controller.Tasks
import Tailroute.Controller.History
import Tailroute.Controller.Ownership
import Tailroute.Controller.Revocation
import Tailroute.Controller.Enrollment
import Tailroute.Controller.Refresh
import Tailroute.Controller.LeaseTable
import Tailroute.Dns.Forwarding
import Tailroute.Common.Backend
import Tailroute.Theory.LastWrite
import Tailroute.Agent.StaticRoutes
import Tailroute.Docker.BackendResolve
import Tailroute.Agent.Routes
import Tailroute.Agent.Reconcile
import Tailroute.Controller.Sessions
import Tailroute.Dns.LoopDetection
import Tailroute.Proxy.HostHeader
import Tailroute.Storage.EnabledServices
import Tailroute.Controller.ClickToEnable
import Tailroute.Controller.PutHandler
import Tailroute.Controller.Policy
import Tailroute.Controller.Expiry
import Tailroute.Theory.Unordered
import Tailroute.Docker.Inspect
import Tailroute.Agent.RouteOrder
import Tailroute.Agent.EventLoop
import Tailroute.Theory.Framing
import Tailroute.Dns.Wire
import Tailroute.Dns.Responses
import Tailroute.Dns.Snapshot
import Tailroute.Dns.RecordTtl
import Tailroute.Docker.Resolution
import Tailroute.Docker.Candidate
import Tailroute.Docker.TcpPorts
import Tailroute.Agent.Precedence
import Tailroute.Storage.Transaction
import Tailroute.Controller.ConflictExpiry
import Tailroute.Common.HostGrammar
import Tailroute.Controller.AllowedSuffixes
import Tailroute.Controller.EnrollFailure
import Tailroute.Controller.DnsSupervisor
import Tailroute.Controller.Backup
import Tailroute.Docker.BackendUrl
import Tailroute.Proxy.ForwardedHeaders
import Tailroute.Agent.StatusScan
import Tailroute.Storage.Discovery
import Tailroute.Theory.Handlers
import Tailroute.Controller.AdminViews
import Tailroute.Controller.Api
import Tailroute.Controller.Access
import Tailroute.Controller.References
import Tailroute.Controller.Outsiders
import Tailroute.Controller.Refusals
import Tailroute.Controller.ApiLeases
import Tailroute.Controller.Served
import Tailroute.Controller.IntentHistory
import Tailroute.Dns.TcpFraming
import Tailroute.Controller.LastPut
import Tailroute.Controller.Restarts
import Tailroute.Proxy.Handle
import Tailroute.Proxy.Relay
import Tailroute.Fleet.Server
import Tailroute.Fleet.RouteSync
import Tailroute.Fleet.Identity
import Tailroute.Theory.Backoff
import Tailroute.Agent.Recovery
import Tailroute.Controller.DnsBackoff
import Tailroute.Controller.Probe
import Tailroute.Docker.CandidateList
import Tailroute.Fleet.Dashboard
import Tailroute.Fleet.ClickToRoute
import Tailroute.Agent.Address
import Tailroute.Fleet.ProxyAddress
