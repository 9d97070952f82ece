/-
# Agent.Routes — the route set of a reconcile, and what the controller stores

`reconcile_once` fills its draft from three sources, each over the one before:
Docker labels, the intents an admin enabled, and static routes. Every source is a
list of writes (`labelWrites`, `intentWrites`, `staticWrites`), and the proxy map
is the table those writes leave (`draft_localRoutes`). The lists sent to the
controller repeat hostnames and the map does not; they agree because each tier
keeps `Draft.Agrees`.

The controller upserts the sent list entry by entry under lowercase hostnames.
For normalized hostnames that reads the last entry of each, so every accepted
hostname is stored with the backend the agent's own proxy uses
(`agent_and_controller_agree`).
-/
import Mathlib.Data.List.Find
import Tailroute.Agent.StaticRoutes
import Tailroute.Docker.BackendResolve
import Tailroute.Storage.Operations

namespace Tailroute.Agent

open Tailroute.Theory Tailroute.Common Tailroute.Proxy Tailroute.Docker Tailroute.Storage

set_option autoImplicit false

/-! ## Labels -/

def labelRoute (svc : DiscoveredService) (backend : Backend) : BackendRoute :=
  ⟨backend, some svc.containerId, some svc.containerName⟩

/-- The loop body over discovered services; one without a backend is skipped. -/
def addService (d : Draft) (svc : DiscoveredService) : Draft :=
  match resolveBackend svc with
  | .error _ => d
  | .ok backend =>
      let url := backendUrl backend
      svc.labels.hosts.foldl (fun d host => d.push host.text (labelRoute svc backend) url) d

def addServices (d : Draft) (services : List DiscoveredService) : Draft :=
  services.foldl addService d

/-- What one service writes. -/
def serviceWrites (svc : DiscoveredService) : List (Text × BackendRoute) :=
  match resolveBackend svc with
  | .error _ => []
  | .ok backend => svc.labels.hosts.map fun host => (host.text, labelRoute svc backend)

def labelWrites (services : List DiscoveredService) : List (Text × BackendRoute) :=
  services.flatMap serviceWrites

theorem addService_eq (d : Draft) (svc : DiscoveredService) :
    addService d svc = d.pushAll (serviceWrites svc) := by
  unfold addService serviceWrites
  cases resolveBackend svc with
  | error e => rfl
  | ok backend =>
      simp only [Draft.pushAll, List.foldl_map, backendUrl_eq_baseUrl]
      rfl

theorem addServices_eq (d : Draft) (services : List DiscoveredService) :
    addServices d services = d.pushAll (labelWrites services) := by
  rw [addServices, Draft.pushAll, labelWrites, List.foldl_flatMap]
  congr 1
  funext d svc
  exact addService_eq d svc

/-! ## Enabled intents -/

section Intents

variable (parseUrl : UrlParser)

def intentRoute (d : DesiredEnabledService) (backend : Backend) : BackendRoute :=
  ⟨backend, none, d.containerName.or (some "enabled".toList)⟩

/-- The loop body over the controller's intents; one with a bad backend is
skipped. -/
def addIntent (draft : Draft) (d : DesiredEnabledService) : Draft :=
  match parseBackendUrl parseUrl d.backend with
  | .error _ => draft
  | .ok backend =>
      let url := backend.baseUrl
      d.hostnames.foldl (fun draft host => draft.override host (intentRoute d backend) url) draft

def addIntents (draft : Draft) (desired : List DesiredEnabledService) : Draft :=
  desired.foldl (addIntent parseUrl) draft

/-- What one intent writes. -/
def desiredWrites (d : DesiredEnabledService) : List (Text × BackendRoute) :=
  match parseBackendUrl parseUrl d.backend with
  | .error _ => []
  | .ok backend => d.hostnames.map fun host => (host, intentRoute d backend)

def intentWrites (desired : List DesiredEnabledService) : List (Text × BackendRoute) :=
  desired.flatMap (desiredWrites parseUrl)

theorem addIntent_eq (draft : Draft) (d : DesiredEnabledService) :
    addIntent parseUrl draft d = draft.overrideAll (desiredWrites parseUrl d) := by
  unfold addIntent desiredWrites
  cases parseBackendUrl parseUrl d.backend with
  | error e => rfl
  | ok backend =>
      rw [Draft.overrideAll, List.foldl_map]
      rfl

theorem addIntents_eq (draft : Draft) (desired : List DesiredEnabledService) :
    addIntents parseUrl draft desired = draft.overrideAll (intentWrites parseUrl desired) := by
  rw [addIntents, Draft.overrideAll, intentWrites, List.foldl_flatMap]
  congr 1
  funext draft d
  exact addIntent_eq parseUrl draft d

/-! ## The route set -/

/-- The three structures `reconcile_once` builds. -/
def draft (services : List DiscoveredService) (desired : List DesiredEnabledService)
    (staticRoutes : List PreparedStaticRoute) : Draft :=
  (applyStaticRoutes (addIntents parseUrl (addServices .empty services) desired)
    staticRoutes).draft

/-- The writes of a reconcile, in order. -/
def routeWrites (services : List DiscoveredService) (desired : List DesiredEnabledService)
    (staticRoutes : List PreparedStaticRoute) : List (Text × BackendRoute) :=
  labelWrites services ++ intentWrites parseUrl desired ++ staticWrites staticRoutes

variable {parseUrl} {services : List DiscoveredService} {desired : List DesiredEnabledService}
  {staticRoutes : List PreparedStaticRoute}

/-- **The proxy map is what the writes leave.** -/
theorem draft_localRoutes :
    (draft parseUrl services desired staticRoutes).localRoutes =
      Table.empty.writeAll (routeWrites parseUrl services desired staticRoutes) := by
  rw [draft, applyStaticRoutes_draft, Draft.localRoutes_overrideAll, addIntents_eq,
    Draft.localRoutes_overrideAll, addServices_eq, Draft.localRoutes_pushAll, routeWrites,
    Table.writeAll_append, Table.writeAll_append]
  rfl

theorem draft_find? (host : Text) :
    (draft parseUrl services desired staticRoutes).localRoutes.find? host =
      lastWrite (routeWrites parseUrl services desired staticRoutes) host := by
  rw [draft_localRoutes, Table.find?_writeAll, Table.find?_empty, Option.or_none]

theorem draft_agrees : (draft parseUrl services desired staticRoutes).Agrees := by
  rw [draft, applyStaticRoutes_draft, addIntents_eq, addServices_eq]
  exact ((Draft.agrees_empty.pushAll _).overrideAll _).overrideAll _

/-! ## Hostnames are normalized -/

theorem normalized_of_labelWrites {write : Text × BackendRoute}
    (member : write ∈ labelWrites services) : Normalized write.1 := by
  obtain ⟨svc, -, written⟩ := List.mem_flatMap.mp member
  unfold serviceWrites at written
  split at written
  · cases written
  · obtain ⟨host, -, rfl⟩ := List.mem_map.mp written
    exact host.normalized

theorem normalized_of_intentWrites
    (normalized : ∀ d ∈ desired, ∀ host ∈ d.hostnames, Normalized host)
    {write : Text × BackendRoute} (member : write ∈ intentWrites parseUrl desired) :
    Normalized write.1 := by
  obtain ⟨d, listed, written⟩ := List.mem_flatMap.mp member
  unfold desiredWrites at written
  split at written
  · cases written
  · obtain ⟨host, named, rfl⟩ := List.mem_map.mp written
    exact normalized d listed host named

theorem normalized_of_staticWrites {write : Text × BackendRoute}
    (member : write ∈ staticWrites staticRoutes) : Normalized write.1 := by
  obtain ⟨sr, -, written⟩ := List.mem_flatMap.mp member
  obtain ⟨host, named, rfl⟩ := List.mem_map.mp written
  exact sr.normalized host named

/-- Every hostname in the proxy map is normalized. -/
theorem normalized_of_find? (normalized : ∀ d ∈ desired, ∀ host ∈ d.hostnames, Normalized host)
    {host : Text} {route : BackendRoute}
    (found : (draft parseUrl services desired staticRoutes).localRoutes.find? host = some route) :
    Normalized host := by
  rw [draft_find?] at found
  have written := mem_of_lastWrite found
  rw [routeWrites, List.mem_append, List.mem_append] at written
  rcases written with (label | intent) | static
  · exact normalized_of_labelWrites label
  · exact normalized_of_intentWrites normalized intent
  · exact normalized_of_staticWrites static

/-- Every hostname sent to the controller is stored as it is sent. -/
theorem lowercase_apiRoutes (normalized : ∀ d ∈ desired, ∀ host ∈ d.hostnames, Normalized host) :
    ∀ entry ∈ (draft parseUrl services desired staticRoutes).apiRoutes,
      entry.host = entry.hostname := by
  intro entry member
  have key := draft_agrees.mem_apiRoutes.mp (List.mem_map_of_mem member)
  obtain ⟨route, found⟩ := Table.mem_keys_iff.mp key
  exact (normalized_of_find? normalized found).1

/-! ## The controller's view -/

/-- Under lowercase hostnames the controller's last entry is the sender's. -/
theorem lastEntry_eq_lastWith {entries : List RouteEntry}
    (lowercase : ∀ entry ∈ entries, entry.host = entry.hostname) (host : Text) :
    lastEntry entries host = lastWith RouteEntry.hostname entries host := by
  rw [lastEntry, lastWith]
  apply List.find?_congr
  intro entry member
  rw [lowercase entry (List.mem_reverse.mp member)]

/-- **Agent and controller agree on every route.** -/
theorem agent_and_controller_agree (parseUrl : UrlParser) (services : List DiscoveredService)
    (desired : List DesiredEnabledService) (staticRoutes : List PreparedStaticRoute)
    (normalized : ∀ d ∈ desired, ∀ host ∈ d.hostnames, Normalized host) :
    let d := draft parseUrl services desired staticRoutes
    (∀ host, (host ∈ d.apiRoutes.map RouteEntry.hostname ↔ host ∈ d.localRoutes.keys) ∧
      (host ∈ d.hbRefs.map HeartbeatRouteRef.hostname ↔ host ∈ d.localRoutes.keys)) ∧
    (∀ host route, d.localRoutes.find? host = some route →
      (∃ entry, lastWith RouteEntry.hostname d.apiRoutes host = some entry ∧
        entry.backend = route.backend.baseUrl ∧ entry.containerId = route.containerId ∧
          entry.containerName = route.containerName) ∧
      ∃ ref, lastWith HeartbeatRouteRef.hostname d.hbRefs host = some ref ∧
        ref.backendFingerprint = route.backend.fingerprint) ∧
    ∀ (s after : Store) (rfc : Rfc3339) (ttl now : Int) (agentId : Text)
      (outcome : PutRoutesOutcome),
      s.putRoutes rfc ttl now agentId d.apiRoutes = .ok (outcome, after) →
        ∀ host ∈ outcome.accepted, ∃ row route, after.routes.find? host = some row ∧
          SharedRouteStore.resolve d.localRoutes host = some route ∧
            row.backend = route.backend.baseUrl := by
  intro d
  have agrees : d.Agrees := draft_agrees
  refine ⟨fun host => ⟨agrees.mem_apiRoutes, agrees.mem_hbRefs⟩, ?_, ?_⟩
  · intro host route found
    refine ⟨⟨Draft.apiEntry host route, ?_, rfl, rfl, rfl⟩, Draft.hbRef host route, ?_, rfl⟩
    · rw [agrees.api, found, Option.map_some]
    · rw [agrees.hb, found, Option.map_some]
  · intro s after rfc ttl now agentId outcome stored host taken
    unfold Store.putRoutes at stored
    split at stored
    · cases stored
      obtain ⟨entry, last, row⟩ := transaction_find?_of_accepted taken
      rw [lastEntry_eq_lastWith (lowercase_apiRoutes normalized), agrees.api] at last
      obtain ⟨route, found, rfl⟩ := Option.map_eq_some_iff.mp last
      refine ⟨_, route, row, ?_, rfl⟩
      rw [resolve_of_normalized _ (normalized_of_find? normalized found), found]
    · cases stored

end Intents

/-! ## A contested hostname -/

def webHost : NormalizedHostname := ⟨"web".toList, by decide, by decide +kernel⟩

/-- A container labelled `web` that listens on port 80 of one network. -/
def webContainer (id ip : Text) : DiscoveredService where
  containerId := id
  containerName := id
  labels := ⟨[webHost], some 80, none, none⟩
  networkMode := none
  publishedPorts := []
  networks := Table.empty.upsert "bridge".toList ip
  exposedPorts := []

/-- An admin enabled `web` at another backend. -/
def webIntent : DesiredEnabledService where
  id := "en_1".toList
  identityKey := "compose:web".toList
  hostnames := ["web".toList]
  backend := "http://10.0.0.9:8080".toList
  containerName := none

def oneAgent : Store :=
  { Store.empty with
    agents := Table.empty.upsert "agt_a".toList
      (Store.enrolledRow 0 "a".toList ⟨"a".toList, "100.64.0.1".toList, "e".toList⟩) }

/-- Two containers and an intent claim one hostname; the controller stores the
backend that the proxy uses. -/
theorem agent_and_controller_agree_contested :
    let services := [webContainer "c1".toList "172.18.0.2".toList,
      webContainer "c2".toList "172.18.0.3".toList]
    let d := draft httpUrl services [webIntent] []
    (∀ d ∈ [webIntent], ∀ host ∈ d.hostnames, Normalized host) ∧
      ∃ outcome after,
        oneAgent.putRoutes layoutParser 90 10 "agt_a".toList d.apiRoutes = .ok (outcome, after) ∧
        "web".toList ∈ outcome.accepted ∧
        ∃ row route, after.routes.find? "web".toList = some row ∧
          SharedRouteStore.resolve d.localRoutes "web".toList = some route ∧
            row.backend = route.backend.baseUrl := by
  intro services d
  have normalized : ∀ d ∈ [webIntent], ∀ host ∈ d.hostnames, Normalized host := by
    decide +kernel
  obtain ⟨-, -, stored⟩ := agent_and_controller_agree httpUrl services [webIntent] [] normalized
  have accepted : "web".toList ∈
      (oneAgent.transactRoutes layoutParser 90 10 "agt_a".toList d.apiRoutes).1.accepted := by
    decide +kernel
  have answered : oneAgent.putRoutes layoutParser 90 10 "agt_a".toList d.apiRoutes =
      .ok (oneAgent.transactRoutes layoutParser 90 10 "agt_a".toList d.apiRoutes) := rfl
  exact ⟨normalized, _, _, answered, accepted, stored _ _ _ _ _ _ _ answered _ accepted⟩

end Tailroute.Agent
