/-
# Common.Api — the messages between agents and the controller

The bodies of the enroll, heartbeat, routes, discovery and desired-services
requests, as `tailsvc-common` declares them.
-/
import Tailroute.Common.Text

namespace Tailroute.Common

set_option autoImplicit false

structure EnrollRequest where
  displayName : Text
  tailscaleIpv4 : Text
  dockerEngineId : Text
deriving DecidableEq

structure HeartbeatRouteRef where
  hostname : Text
  backendFingerprint : Text
deriving DecidableEq

structure HeartbeatRequest where
  tailscaleIpv4 : Text
  routes : List HeartbeatRouteRef
deriving DecidableEq

structure RouteEntry where
  hostname : Text
  backend : Text
  containerId : Option Text
  containerName : Option Text
deriving DecidableEq

structure RouteConflict where
  hostname : Text
  ownerAgentId : Text
  leaseExpiresAt : Int
deriving DecidableEq

structure PutRoutesResponse where
  accepted : List Text
  conflicts : List RouteConflict
deriving DecidableEq

structure DiscoveredContainerDto where
  identityKey : Text
  containerId : Text
  containerName : Text
  image : Text
  networkMode : Option Text
  suggestedBackend : Option Text
  publishedPorts : List UInt16
  exposedPorts : List UInt16
  composeProject : Option Text
  composeService : Option Text
  hasTailsvcLabels : Bool
deriving DecidableEq

structure EnableServiceRequest where
  agentId : Text
  identityKey : Text
  containerName : Option Text
  hostnames : List Text
  backend : Text
deriving DecidableEq

structure EnableServiceResponse where
  id : Text
deriving DecidableEq

structure DesiredEnabledService where
  id : Text
  identityKey : Text
  hostnames : List Text
  backend : Text
  containerName : Option Text
deriving DecidableEq

end Tailroute.Common
