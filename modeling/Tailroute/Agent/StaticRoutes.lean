/-
# Agent.StaticRoutes — the route set under construction, and static routes

An agent builds its routes in three structures at once: the map for its own
proxy, the list it sends to the controller and the references of its heartbeat.
A `Draft` is the three together. Two statements write to it. `push` is what
Docker labels use: it overwrites the map but leaves earlier list entries of the
hostname in place. `override` removes those first; enabled intents and static
routes use it.

Both keep the structures in step: `Agrees` says that under every hostname the
last entry of each list describes the route in the map.
-/
import Tailroute.Theory.LastWrite
import Tailroute.Common.Api
import Tailroute.Proxy.Routes

namespace Tailroute.Agent

open Tailroute.Theory Tailroute.Common Tailroute.Proxy

set_option autoImplicit false

/-! ## Drafts -/

/-- `local`, `api_routes` and `hb_refs` of a reconcile. -/
structure Draft where
  localRoutes : SharedRouteStore
  apiRoutes : List RouteEntry
  hbRefs : List HeartbeatRouteRef

namespace Draft

def empty : Draft := ⟨.empty, [], []⟩

/-- Insert into the map and append to both lists. -/
def push (d : Draft) (host : Text) (route : BackendRoute) (url : Text) : Draft where
  localRoutes := d.localRoutes.upsert host route
  apiRoutes := d.apiRoutes ++ [⟨host, url, route.containerId, route.containerName⟩]
  hbRefs := d.hbRefs ++ [⟨host, route.backend.fingerprint⟩]

/-- Remove the prior entries of a hostname from both lists. -/
def retain (d : Draft) (host : Text) : Draft :=
  { d with
    apiRoutes := d.apiRoutes.filter fun r => decide (r.hostname ≠ host)
    hbRefs := d.hbRefs.filter fun r => decide (r.hostname ≠ host) }

/-- `push` that replaces the entries of a hostname the map already has. -/
def override (d : Draft) (host : Text) (route : BackendRoute) (url : Text) : Draft :=
  if host ∈ d.localRoutes.keys then (d.retain host).push host route url
  else d.push host route url

@[simp] theorem localRoutes_override (d : Draft) (host : Text) (route : BackendRoute)
    (url : Text) : (d.override host route url).localRoutes = d.localRoutes.upsert host route := by
  unfold override
  split <;> rfl

/-! ## The structures agree -/

/-- The entry that describes a route to the controller. -/
def apiEntry (host : Text) (route : BackendRoute) : RouteEntry :=
  ⟨host, route.backend.baseUrl, route.containerId, route.containerName⟩

/-- The reference that describes a route in a heartbeat. -/
def hbRef (host : Text) (route : BackendRoute) : HeartbeatRouteRef :=
  ⟨host, route.backend.fingerprint⟩

/-- The last entries under each hostname describe its route in the map. -/
structure Agrees (d : Draft) : Prop where
  api : ∀ host, lastWith RouteEntry.hostname d.apiRoutes host =
    (d.localRoutes.find? host).map (apiEntry host)
  hb : ∀ host, lastWith HeartbeatRouteRef.hostname d.hbRefs host =
    (d.localRoutes.find? host).map (hbRef host)

theorem agrees_empty : empty.Agrees := ⟨fun _ => rfl, fun _ => rfl⟩

variable {d : Draft} {host : Text} {route : BackendRoute}

theorem Agrees.push (agrees : d.Agrees) : (d.push host route route.backend.baseUrl).Agrees := by
  constructor
  all_goals
    intro other
    simp only [Draft.push, lastWith_concat, Table.find?_upsert, agrees.api, agrees.hb]
    by_cases same : host = other
    · subst same
      simp [apiEntry, hbRef]
    · simp [same, Ne.symm same]

theorem Agrees.override (agrees : d.Agrees) :
    (d.override host route route.backend.baseUrl).Agrees := by
  unfold Draft.override
  split
  · -- the removed entries are exactly those under the hostname that is written next
    constructor
    all_goals
      intro other
      simp only [Draft.push, Draft.retain, lastWith_concat, lastWith_filter_ne,
        Table.find?_upsert, agrees.api, agrees.hb]
      by_cases same : host = other
      · subst same
        simp [apiEntry, hbRef]
      · simp [same, Ne.symm same]
  · exact agrees.push

/-- The controller is sent the hostnames of the map. -/
theorem Agrees.mem_apiRoutes (agrees : d.Agrees) :
    host ∈ d.apiRoutes.map RouteEntry.hostname ↔ host ∈ d.localRoutes.keys := by
  rw [← lastWith_isSome, agrees.api, Option.isSome_map, Table.mem_keys_iff,
    Option.isSome_iff_exists]

/-- A heartbeat refers to the hostnames of the map. -/
theorem Agrees.mem_hbRefs (agrees : d.Agrees) :
    host ∈ d.hbRefs.map HeartbeatRouteRef.hostname ↔ host ∈ d.localRoutes.keys := by
  rw [← lastWith_isSome, agrees.hb, Option.isSome_map, Table.mem_keys_iff,
    Option.isSome_iff_exists]

/-! ## Lists of writes -/

/-- Push a list of routes, each with its own URL. -/
def pushAll (d : Draft) (writes : List (Text × BackendRoute)) : Draft :=
  writes.foldl (fun d write => d.push write.1 write.2 write.2.backend.baseUrl) d

/-- Override with a list of routes, each with its own URL. -/
def overrideAll (d : Draft) (writes : List (Text × BackendRoute)) : Draft :=
  writes.foldl (fun d write => d.override write.1 write.2 write.2.backend.baseUrl) d

theorem localRoutes_pushAll (d : Draft) (writes : List (Text × BackendRoute)) :
    (d.pushAll writes).localRoutes = d.localRoutes.writeAll writes := by
  induction writes generalizing d with
  | nil => rfl
  | cons write writes ih => exact ih _

theorem localRoutes_overrideAll (d : Draft) (writes : List (Text × BackendRoute)) :
    (d.overrideAll writes).localRoutes = d.localRoutes.writeAll writes := by
  induction writes generalizing d with
  | nil => rfl
  | cons write writes ih =>
      refine (ih _).trans ?_
      rw [localRoutes_override]
      rfl

theorem Agrees.pushAll (agrees : d.Agrees) (writes : List (Text × BackendRoute)) :
    (d.pushAll writes).Agrees :=
  List.foldlRecOn writes _ agrees fun _ kept _ _ => kept.push

theorem Agrees.overrideAll (agrees : d.Agrees) (writes : List (Text × BackendRoute)) :
    (d.overrideAll writes).Agrees :=
  List.foldlRecOn writes _ agrees fun _ kept _ _ => kept.override

end Draft

/-! ## Static routes -/

structure StaticRouteConfig where
  hosts : List Text
  backend : Text
deriving DecidableEq

/-- A validated entry: its hostnames are normalized and its URL is the URL of its
backend. -/
structure PreparedStaticRoute where
  hosts : List Text
  backend : Backend
  backendUrl : Text
  normalized : ∀ host ∈ hosts, Normalized host
  url : backendUrl = backend.baseUrl

section Prepare

variable (idna : Idna) (parseUrl : UrlParser)

/-- One entry; `none` is an entry skipped with a warning. -/
def prepareStaticRoute (e : StaticRouteConfig) : Option PreparedStaticRoute :=
  match parseBackendUrl parseUrl e.backend with
  | .error _ => none
  | .ok backend =>
      let hosts := e.hosts.filterMap fun h => (normalizeHostname idna h).toOption
      if hosts = [] then none
      else some
        { hosts := hosts.map NormalizedHostname.text
          backend
          backendUrl := backend.baseUrl
          normalized := by
            intro host member
            obtain ⟨n, -, rfl⟩ := List.mem_map.mp member
            exact n.normalized
          url := rfl }

def prepareStaticRoutes (entries : List StaticRouteConfig) : List PreparedStaticRoute :=
  entries.filterMap (prepareStaticRoute idna parseUrl)

end Prepare

/-- The draft together with the two numbers `apply_static_routes` returns. -/
structure Applied where
  draft : Draft
  written : Nat
  overridden : Nat

/-- The route of a static entry. -/
def PreparedStaticRoute.route (sr : PreparedStaticRoute) : BackendRoute :=
  ⟨sr.backend, none, some "static".toList⟩

def applyStaticHost (sr : PreparedStaticRoute) (a : Applied) (host : Text) : Applied where
  draft := a.draft.override host sr.route sr.backendUrl
  written := a.written + 1
  overridden := if host ∈ a.draft.localRoutes.keys then a.overridden + 1 else a.overridden

def applyStaticRoute (a : Applied) (sr : PreparedStaticRoute) : Applied :=
  sr.hosts.foldl (applyStaticHost sr) a

def applyStaticRoutes (d : Draft) (staticRoutes : List PreparedStaticRoute) : Applied :=
  staticRoutes.foldl applyStaticRoute ⟨d, 0, 0⟩

/-! ## What static routes write -/

def PreparedStaticRoute.writes (sr : PreparedStaticRoute) : List (Text × BackendRoute) :=
  sr.hosts.map fun host => (host, sr.route)

def staticWrites (staticRoutes : List PreparedStaticRoute) : List (Text × BackendRoute) :=
  staticRoutes.flatMap PreparedStaticRoute.writes

theorem applyStaticHosts (sr : PreparedStaticRoute) (hosts : List Text) (a : Applied) :
    (hosts.foldl (applyStaticHost sr) a).draft =
      a.draft.overrideAll (hosts.map fun host => (host, sr.route)) := by
  induction hosts generalizing a with
  | nil => rfl
  | cons host hosts ih =>
      refine (ih _).trans ?_
      show ((a.draft.override host sr.route sr.backendUrl).overrideAll _) = _
      rw [sr.url]
      rfl

/-- **Applying static routes is overriding with their writes, in order.** -/
theorem applyStaticRoutes_draft (d : Draft) (staticRoutes : List PreparedStaticRoute) :
    (applyStaticRoutes d staticRoutes).draft = d.overrideAll (staticWrites staticRoutes) := by
  have fold : ∀ a : Applied, (staticRoutes.foldl applyStaticRoute a).draft =
      a.draft.overrideAll (staticWrites staticRoutes) := by
    induction staticRoutes with
    | nil => exact fun _ => rfl
    | cons sr rest ih =>
        intro a
        refine (ih _).trans ?_
        rw [applyStaticRoute, applyStaticHosts]
        exact List.foldl_append.symm
  exact fold ⟨d, 0, 0⟩

end Tailroute.Agent
