/-
# Docker.BackendResolve — which address a container is reached at

A discovered service is a container that passed label parsing, with what Docker
reports about its ports and networks. `resolve_backend` tries, in this order, the
backend label, a published host port, host networking and the container's own
address, and refuses to choose between several.
-/
import Tailroute.Theory.Unordered
import Tailroute.Common.Backend

namespace Tailroute.Docker

open Tailroute.Theory Tailroute.Common

set_option autoImplicit false

structure ServiceLabels where
  hosts : List NormalizedHostname
  port : Option UInt16
  backend : Option Backend
  network : Option Text
deriving DecidableEq

structure PublishedPort where
  containerPort : UInt16
  hostIp : Text
  hostPort : UInt16
deriving DecidableEq

/-- `networks` maps a network's name to the container's address in it. -/
structure DiscoveredService where
  containerId : Text
  containerName : Text
  labels : ServiceLabels
  networkMode : Option Text
  publishedPorts : List PublishedPort
  networks : Table Text Text
  exposedPorts : List UInt16

/-! ## The parts of the resolution -/

def singleExposedPort (svc : DiscoveredService) : Option UInt16 :=
  match svc.exposedPorts with
  | [port] => some port
  | _ => none

def singlePublishedContainerPort (svc : DiscoveredService) : Option UInt16 :=
  let ports := (svc.publishedPorts.map PublishedPort.containerPort).insertionSort (· ≤ ·)
  match ports.destutter (· ≠ ·) with
  | [port] => some port
  | _ => none

/-- A binding that answers on the host itself. -/
def PublishedPort.isLocal (p : PublishedPort) : Bool :=
  p.hostIp == "127.0.0.1".toList || p.hostIp == "0.0.0.0".toList || p.hostIp.isEmpty

def selectPublishedPort (svc : DiscoveredService) (containerPort : UInt16) :
    Except Error (Option PublishedPort) :=
  match svc.publishedPorts.filter fun p => p.containerPort == containerPort with
  | [] => .ok none
  | [binding] => .ok (some binding)
  | bindings =>
      match bindings.filter PublishedPort.isLocal with
      | [binding] => .ok (some binding)
      | _ => .error (.ambiguousBackend "multiple published bindings for port".toList)

def selectContainerIp (svc : DiscoveredService) : Except Error Text :=
  match svc.labels.network with
  | some net =>
      match svc.networks.find? net with
      | some ip => .ok ip
      | none => .error (.ambiguousBackend ("network ".toList ++ net ++ " not found".toList))
  | none =>
      match svc.networks.rows with
      | [] => .error (.ambiguousBackend "no container IP".toList)
      | [network] => .ok network.2
      | _ => .error (.ambiguousBackend "multiple networks; set tailsvc.network".toList)

/-- The port the service listens on inside its container. -/
def servicePort (svc : DiscoveredService) : Option UInt16 :=
  svc.labels.port <|> singleExposedPort svc <|> singlePublishedContainerPort svc

/-- The backend of a published binding; a wildcard address is reached on loopback. -/
def PublishedPort.backend (p : PublishedPort) : Backend where
  host :=
    if p.hostIp = "0.0.0.0".toList ∨ p.hostIp = [] then "127.0.0.1".toList else p.hostIp
  port := p.hostPort

/-! ## The resolution -/

def resolveBackend (svc : DiscoveredService) : Except Error Backend :=
  match svc.labels.backend with
  | some b => .ok b
  | none =>
      match servicePort svc with
      | none => .error (.ambiguousBackend "no port specified".toList)
      | some port =>
          match selectPublishedPort svc port with
          | .error e => .error e
          | .ok (some binding) => .ok binding.backend
          | .ok none =>
              if svc.networkMode = some "host".toList then .ok ⟨"127.0.0.1".toList, port⟩
              else
                match selectContainerIp svc with
                | .error e => .error e
                | .ok ip => .ok ⟨ip, port⟩

/-- The URL an agent registers for a resolved backend. -/
def backendUrl (backend : Backend) : Text :=
  "http://".toList ++ backend.authority ++ "/".toList

theorem backendUrl_eq_baseUrl (backend : Backend) : backendUrl backend = backend.baseUrl := rfl

/-! ## Orders of the lists -/

/-- Two services that differ in the order of what Docker reports as maps. -/
structure SameService (svc svc' : DiscoveredService) : Prop where
  containerId : svc.containerId = svc'.containerId
  containerName : svc.containerName = svc'.containerName
  labels : svc.labels = svc'.labels
  networkMode : svc.networkMode = svc'.networkMode
  publishedPorts : svc.publishedPorts.Perm svc'.publishedPorts
  networks : svc.networks.rows.Perm svc'.networks.rows
  exposedPorts : svc.exposedPorts.Perm svc'.exposedPorts

variable {svc svc' : DiscoveredService}

theorem singleExposedPort_congr (same : SameService svc svc') :
    singleExposedPort svc = singleExposedPort svc' := by
  unfold singleExposedPort
  rcases eq_or_two_le_of_perm same.exposedPorts with eq | ⟨_, _, _, _, _, _, many, many'⟩
  · rw [eq]
  · rw [many, many']

/-- Sorting forgets the order. -/
theorem singlePublishedContainerPort_congr (same : SameService svc svc') :
    singlePublishedContainerPort svc = singlePublishedContainerPort svc' := by
  have total : Std.Total (fun a b : UInt16 => a ≤ b) := ⟨UInt16.le_total⟩
  have trans : IsTrans UInt16 (fun a b => a ≤ b) := ⟨fun _ _ _ => UInt16.le_trans⟩
  have order := same.publishedPorts.map PublishedPort.containerPort
  have sorted : (svc.publishedPorts.map PublishedPort.containerPort).insertionSort (· ≤ ·) =
      (svc'.publishedPorts.map PublishedPort.containerPort).insertionSort (· ≤ ·) := by
    apply List.Perm.eq_of_pairwise
    · intro a b _ _ le ge
      exact UInt16.le_antisymm le ge
    · exact List.pairwise_insertionSort _ _
    · exact List.pairwise_insertionSort _ _
    · exact (List.perm_insertionSort _ _).trans (order.trans (List.perm_insertionSort _ _).symm)
  unfold singlePublishedContainerPort
  rw [sorted]

theorem selectPublishedPort_congr (same : SameService svc svc') (port : UInt16) :
    selectPublishedPort svc port = selectPublishedPort svc' port := by
  unfold selectPublishedPort
  have order := same.publishedPorts.filter fun p => p.containerPort == port
  rcases eq_or_two_le_of_perm order with eq | ⟨_, _, _, _, _, _, many, many'⟩
  · rw [eq]
  · have narrowed := order.filter PublishedPort.isLocal
    rw [many, many'] at narrowed ⊢
    rcases eq_or_two_le_of_perm narrowed with eq | ⟨_, _, _, _, _, _, several, several'⟩
    · simp only [eq]
    · simp only [several, several']

theorem selectContainerIp_congr (same : SameService svc svc') :
    selectContainerIp svc = selectContainerIp svc' := by
  unfold selectContainerIp
  rw [same.labels]
  cases svc'.labels.network with
  | some net => simp only [Table.find?_eq_of_perm same.networks net]
  | none =>
      rcases eq_or_two_le_of_perm same.networks with eq | ⟨_, _, _, _, _, _, many, many'⟩
      · simp only [eq]
      · simp only [many, many']

/-- **Which backend is chosen does not depend on any order.** -/
theorem resolveBackend_congr (same : SameService svc svc') :
    resolveBackend svc = resolveBackend svc' := by
  have port : servicePort svc = servicePort svc' := by
    unfold servicePort
    rw [same.labels, singleExposedPort_congr same, singlePublishedContainerPort_congr same]
  unfold resolveBackend
  rw [same.labels, port, same.networkMode, selectContainerIp_congr same]
  simp only [selectPublishedPort_congr same]

end Tailroute.Docker
