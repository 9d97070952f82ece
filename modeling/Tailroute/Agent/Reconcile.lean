/-
# Agent.Reconcile — one reconcile against a controller that may fail

`reconcile_with_backoff` runs `reconcile_once` and, when that fails,
`refresh_local_routes`. The two rebuild the proxy table from scratch, from
different sources: the second knows Docker labels and static routes but not the
intents an admin enabled at the controller. A failed fetch of the intents is
treated as an empty list by the first.

A `Round` is what Docker and the controller answer to each call of one
`reconcile_with_backoff`; Docker is listed twice when the second function runs.
`intent_route_kept_iff` says for which rounds a route of an enabled intent stays
in the table and in the full set sent to the controller.
-/
import Tailroute.Agent.Routes

namespace Tailroute.Agent

open Tailroute.Theory Tailroute.Common Tailroute.Proxy Tailroute.Docker

set_option autoImplicit false

/-! ## The agent -/

/-- `CONTROLLER_BACKOFF_BASE`, in milliseconds. -/
def controllerBackoffBase : Nat := 500

/-- `CONTROLLER_BACKOFF_MAX`, in milliseconds. -/
def controllerBackoffMax : Nat := 30000

structure AgentRun where
  staticRoutes : List StaticRouteConfig
  routes : SharedRouteStore
  tailscaleIp : Text
  controllerBackoff : Nat

def AgentRun.bumpControllerBackoff (run : AgentRun) : AgentRun :=
  { run with controllerBackoff := min (run.controllerBackoff * 2) controllerBackoffMax }

/-- What each call of one `reconcile_with_backoff` is answered. -/
structure Round where
  candidates : Except Text (List DiscoveredContainerDto)
  putDiscovery : Except Text Unit
  services : Except Text (List DiscoveredService)
  desiredServices : Except Text (List DesiredEnabledService)
  putRoutes : Except Text PutRoutesResponse
  heartbeat : Except Text Unit
  servicesAgain : Except Text (List DiscoveredService)

/-- The requests with a body that the agent sends. -/
inductive Sent where
  | putDiscovery (services : List DiscoveredContainerDto)
  | putRoutes (routes : List RouteEntry)
  | heartbeat (request : HeartbeatRequest)
deriving DecidableEq

section Reconcile

variable (idna : Idna) (parseUrl : UrlParser)

/-! ## One reconcile -/

/-- The discovery report; its answer is ignored. -/
def reportDiscovery (round : Round) : List Sent :=
  match round.candidates with
  | .ok services => [.putDiscovery services]
  | .error _ => []

def reconcileOnce (run : AgentRun) (round : Round) : Except Text Unit × AgentRun × List Sent :=
  let reported := reportDiscovery round
  match round.services with
  | .error e => (.error e, run, reported)
  | .ok services =>
      let d := addServices .empty services
      let d :=
        match round.desiredServices with
        | .ok desired => addIntents parseUrl d desired
        | .error _ => d
      let prepared := prepareStaticRoutes idna parseUrl run.staticRoutes
      let d := (applyStaticRoutes d prepared).draft
      -- the local proxy first, so that controller outages do not stop serving
      let run := { run with routes := d.localRoutes }
      let sent := reported ++ [.putRoutes d.apiRoutes]
      match round.putRoutes with
      | .error e => (.error e, run, sent)
      | .ok _ => (.ok (), run, sent ++ [.heartbeat ⟨run.tailscaleIp, d.hbRefs⟩])

/-- The label loop of `refresh_local_routes`: it fills the map only. -/
def insertService (routes : SharedRouteStore) (svc : DiscoveredService) : SharedRouteStore :=
  match resolveBackend svc with
  | .error _ => routes
  | .ok backend =>
      svc.labels.hosts.foldl (fun routes host => routes.upsert host.text (labelRoute svc backend))
        routes

def refreshLocalRoutes (run : AgentRun) (round : Round) : Except Text AgentRun :=
  match round.servicesAgain with
  | .error e => .error e
  | .ok services =>
      let routes := services.foldl insertService Table.empty
      let prepared := prepareStaticRoutes idna parseUrl run.staticRoutes
      let d := (applyStaticRoutes ⟨routes, [], []⟩ prepared).draft
      .ok { run with routes := d.localRoutes }

def reconcileWithBackoff (run : AgentRun) (round : Round) : AgentRun × List Sent :=
  match reconcileOnce idna parseUrl run round with
  | (.ok _, run, sent) => ({ run with controllerBackoff := controllerBackoffBase }, sent)
  | (.error _, run, sent) =>
      let run := run.bumpControllerBackoff
      match refreshLocalRoutes idna parseUrl run round with
      | .ok run => (run, sent)
      | .error _ => (run, sent)

/-! ## What the two functions write -/

/-- The intents `reconcile_once` works with: a failed fetch counts as none. -/
def Round.intents (round : Round) : List DesiredEnabledService :=
  match round.desiredServices with
  | .ok desired => desired
  | .error _ => []

/-- The static routes of the agent, prepared. -/
def AgentRun.prepared (run : AgentRun) : List PreparedStaticRoute :=
  prepareStaticRoutes idna parseUrl run.staticRoutes

/-- The structures a reconcile builds from a listing of the containers. -/
def Round.draft (round : Round) (run : AgentRun) (services : List DiscoveredService) : Draft :=
  Agent.draft parseUrl services round.intents (run.prepared idna parseUrl)

theorem insertServices_eq (services : List DiscoveredService) (routes : SharedRouteStore) :
    services.foldl insertService routes = routes.writeAll (labelWrites services) := by
  rw [Table.writeAll, labelWrites, List.foldl_flatMap]
  congr 1
  funext routes svc
  unfold insertService serviceWrites
  cases resolveBackend svc with
  | error e => rfl
  | ok backend => rw [List.foldl_map]

variable {idna parseUrl} {run : AgentRun} {round : Round}
  {services again : List DiscoveredService}

theorem reconcileOnce_eq (listed : round.services = .ok services) :
    reconcileOnce idna parseUrl run round =
      let d := round.draft idna parseUrl run services
      let after := { run with routes := d.localRoutes }
      let sent := reportDiscovery round ++ [.putRoutes d.apiRoutes]
      match round.putRoutes with
      | .error e => (.error e, after, sent)
      | .ok _ => (.ok (), after, sent ++ [.heartbeat ⟨run.tailscaleIp, d.hbRefs⟩]) := by
  unfold reconcileOnce Round.draft Agent.draft Round.intents
  rw [listed]
  cases round.desiredServices <;> rfl

/-- `refresh_local_routes` writes the labels and the static routes. -/
theorem refreshLocalRoutes_eq (relisted : round.servicesAgain = .ok again) :
    refreshLocalRoutes idna parseUrl run round =
      .ok { run with
        routes := Table.empty.writeAll
          (labelWrites again ++ staticWrites (run.prepared idna parseUrl)) } := by
  unfold refreshLocalRoutes
  rw [relisted]
  simp only [applyStaticRoutes_draft, Draft.localRoutes_overrideAll, insertServices_eq,
    Table.writeAll_append]
  rfl

/-- A reconcile whose PUT succeeds installs the draft. -/
theorem routes_of_put_ok (listed : round.services = .ok services) {response : PutRoutesResponse}
    (put : round.putRoutes = .ok response) :
    (reconcileWithBackoff idna parseUrl run round).1.routes =
      (round.draft idna parseUrl run services).localRoutes := by
  rw [reconcileWithBackoff, reconcileOnce_eq listed, put]

/-- After a failed PUT the table is the refreshed one. -/
theorem routes_of_put_error (listed : round.services = .ok services)
    (relisted : round.servicesAgain = .ok again) {e : Text} (put : round.putRoutes = .error e) :
    (reconcileWithBackoff idna parseUrl run round).1.routes =
      Table.empty.writeAll (labelWrites again ++ staticWrites (run.prepared idna parseUrl)) := by
  rw [reconcileWithBackoff, reconcileOnce_eq listed, put]
  simp only [refreshLocalRoutes_eq relisted]
  rfl

/-- The one full route set that is sent is the draft's. -/
theorem putRoutes_sent_iff (listed : round.services = .ok services) {routes : List RouteEntry} :
    Sent.putRoutes routes ∈ (reconcileWithBackoff idna parseUrl run round).2 ↔
      routes = (round.draft idna parseUrl run services).apiRoutes := by
  have discovery : Sent.putRoutes routes ∉ reportDiscovery round := by
    unfold reportDiscovery
    cases round.candidates <;> simp
  have sent : (reconcileWithBackoff idna parseUrl run round).2 =
      (reconcileOnce idna parseUrl run round).2.2 := by
    unfold reconcileWithBackoff
    split
    · rename_i done
      rw [done]
    · rename_i failed
      simp only [failed]
      split <;> rfl
  rw [sent, reconcileOnce_eq listed]
  cases round.putRoutes <;> simp [discovery]

/-! ## Precedence of the static routes -/

/-- Some static route names the hostname. -/
def StaticHost (staticRoutes : List PreparedStaticRoute) (host : Text) : Prop :=
  ∃ sr ∈ staticRoutes, host ∈ sr.hosts

/-- The last write of the hostname leads to the backend. -/
def LeadsTo (writes : List (Text × BackendRoute)) (host : Text) (backend : Backend) : Prop :=
  (lastWrite writes host).map BackendRoute.backend = some backend

variable {staticRoutes : List PreparedStaticRoute} {host : Text} {backend : Backend}

theorem mem_staticWrites {route : BackendRoute} :
    (host, route) ∈ staticWrites staticRoutes ↔
      ∃ sr ∈ staticRoutes, host ∈ sr.hosts ∧ sr.route = route := by
  simp only [staticWrites, PreparedStaticRoute.writes, List.mem_flatMap, List.mem_map,
    Prod.mk.injEq]
  constructor
  · rintro ⟨sr, listed, _, named, rfl, rfl⟩
    exact ⟨sr, listed, named, rfl⟩
  · rintro ⟨sr, listed, named, rfl⟩
    exact ⟨sr, listed, host, named, rfl, rfl⟩

theorem staticHost_iff :
    StaticHost staticRoutes host ↔ host ∈ (staticWrites staticRoutes).map Prod.fst := by
  simp only [List.mem_map, Prod.exists, exists_and_right, exists_eq_right, mem_staticWrites]
  constructor
  · rintro ⟨sr, listed, named⟩
    exact ⟨sr.route, sr, listed, named, rfl⟩
  · rintro ⟨_, sr, listed, named, -⟩
    exact ⟨sr, listed, named⟩

theorem lastWrite_static_none (free : ¬StaticHost staticRoutes host) :
    lastWrite (staticWrites staticRoutes) host = none := by
  rw [staticHost_iff, ← lastWrite_isSome] at free
  simpa using free

/-- A table with static routes on top serves the backend or a static one iff the
hostname is static or the routes below lead to the backend. -/
theorem served_iff (below : List (Text × BackendRoute)) :
    (∃ route, lastWrite (below ++ staticWrites staticRoutes) host = some route ∧
        (route.backend = backend ∨
          ∃ sr ∈ staticRoutes, host ∈ sr.hosts ∧ route.backend = sr.backend)) ↔
      StaticHost staticRoutes host ∨ LeadsTo below host backend := by
  rw [lastWrite_append]
  by_cases static : StaticHost staticRoutes host
  · obtain ⟨route, last⟩ := exists_lastWrite (staticHost_iff.mp static)
    obtain ⟨sr, listed, named, rfl⟩ := mem_staticWrites.mp (mem_of_lastWrite last)
    refine iff_of_true ⟨sr.route, ?_, Or.inr ⟨sr, listed, named, rfl⟩⟩ (Or.inl static)
    rw [last, Option.some_or]
  · rw [lastWrite_static_none static, Option.none_or, or_iff_right static, LeadsTo,
      Option.map_eq_some_iff]
    apply exists_congr
    intro route
    apply and_congr_right
    intro _
    exact or_iff_left fun ⟨sr, listed, named, _⟩ => static ⟨sr, listed, named⟩

/-! ## Which hostnames are sent -/

/-- The full set sent to the controller names the hostnames of every source. -/
theorem sent_host_iff :
    host ∈ (round.draft idna parseUrl run services).apiRoutes.map RouteEntry.hostname ↔
      host ∈ (labelWrites services).map Prod.fst ∨
        host ∈ (intentWrites parseUrl round.intents).map Prod.fst ∨
          StaticHost (run.prepared idna parseUrl) host := by
  have agrees : (round.draft idna parseUrl run services).Agrees := draft_agrees
  rw [agrees.mem_apiRoutes, Table.mem_keys_iff, ← Option.isSome_iff_exists, Round.draft,
    draft_find?, lastWrite_isSome, staticHost_iff, routeWrites, List.map_append,
    List.map_append, List.mem_append, List.mem_append, or_assoc]

theorem mem_of_leadsTo {writes : List (Text × BackendRoute)} (leads : LeadsTo writes host backend) :
    host ∈ writes.map Prod.fst := by
  obtain ⟨route, last, -⟩ := Option.map_eq_some_iff.mp leads
  exact List.mem_map_of_mem (mem_of_lastWrite last)

/-- Writes that mention the hostname decide it, whatever lies below. -/
theorem leadsTo_append {below above : List (Text × BackendRoute)}
    (mentioned : host ∈ above.map Prod.fst) :
    LeadsTo (below ++ above) host backend ↔ LeadsTo above host backend := by
  obtain ⟨route, last⟩ := exists_lastWrite mentioned
  rw [LeadsTo, LeadsTo, lastWrite_append, last, Option.some_or]

/-! ## Enabled intents through controller trouble -/

/-- An intent with this backend is enabled for the hostname. -/
def Enabled (parseUrl : UrlParser) (intents : List DesiredEnabledService) (host : Text)
    (backend : Backend) : Prop :=
  ∃ d ∈ intents, host ∈ d.hostnames ∧ parseBackendUrl parseUrl d.backend = .ok backend

/-- After the round the proxy serves the hostname at the intent's backend or at a
static one, and the full route set that was sent has it. -/
structure RouteKept (idna : Idna) (parseUrl : UrlParser) (run : AgentRun) (round : Round)
    (host : Text) (backend : Backend) : Prop where
  served : ∃ route, (reconcileWithBackoff idna parseUrl run round).1.routes.find? host = some route ∧
    (route.backend = backend ∨
      ∃ sr ∈ run.prepared idna parseUrl, host ∈ sr.hosts ∧ route.backend = sr.backend)
  sent : ∀ routes, Sent.putRoutes routes ∈ (reconcileWithBackoff idna parseUrl run round).2 →
    host ∈ routes.map RouteEntry.hostname

/-- What keeps the route: a static route, the intent itself when both calls
succeed, and otherwise container labels that lead to the same backend. -/
def Sheltered (idna : Idna) (parseUrl : UrlParser) (run : AgentRun) (round : Round)
    (services again : List DiscoveredService) (host : Text) (backend : Backend) : Prop :=
  StaticHost (run.prepared idna parseUrl) host ∨
    match round.putRoutes, round.desiredServices with
    | .ok _, .ok desired => LeadsTo (intentWrites parseUrl desired) host backend
    | .ok _, .error _ => LeadsTo (labelWrites services) host backend
    | .error _, .ok _ => LeadsTo (labelWrites again) host backend
    | .error _, .error _ =>
        LeadsTo (labelWrites again) host backend ∧ host ∈ (labelWrites services).map Prod.fst

theorem mem_intentWrites_of_enabled {intents : List DesiredEnabledService}
    (enabled : Enabled parseUrl intents host backend) :
    host ∈ (intentWrites parseUrl intents).map Prod.fst := by
  obtain ⟨d, listed, named, parsed⟩ := enabled
  refine List.mem_map.mpr ⟨(host, intentRoute d backend), ?_, rfl⟩
  rw [intentWrites, List.mem_flatMap]
  refine ⟨d, listed, ?_⟩
  rw [desiredWrites, parsed]
  exact List.mem_map_of_mem named

/-- The round keeps the route iff its table serves it and its draft names it. -/
theorem routeKept_iff (listed : round.services = .ok services)
    {below : List (Text × BackendRoute)}
    (table : ∀ host, (reconcileWithBackoff idna parseUrl run round).1.routes.find? host =
      lastWrite (below ++ staticWrites (run.prepared idna parseUrl)) host) :
    RouteKept idna parseUrl run round host backend ↔
      (StaticHost (run.prepared idna parseUrl) host ∨ LeadsTo below host backend) ∧
        (host ∈ (labelWrites services).map Prod.fst ∨
          host ∈ (intentWrites parseUrl round.intents).map Prod.fst ∨
            StaticHost (run.prepared idna parseUrl) host) := by
  rw [← served_iff, ← sent_host_iff, ← table]
  constructor
  · intro kept
    exact ⟨kept.served, kept.sent _ ((putRoutes_sent_iff listed).mpr rfl)⟩
  · rintro ⟨served, named⟩
    refine ⟨served, ?_⟩
    intro routes sent
    rw [(putRoutes_sent_iff listed).mp sent]
    exact named

theorem routeKept_iff_sheltered (listed : round.services = .ok services)
    (relisted : round.servicesAgain = .ok again) {intents : List DesiredEnabledService}
    (offered : ∀ desired, round.desiredServices = .ok desired → desired = intents)
    (enabled : Enabled parseUrl intents host backend) :
    RouteKept idna parseUrl run round host backend ↔
      Sheltered idna parseUrl run round services again host backend := by
  have mentioned := mem_intentWrites_of_enabled enabled
  unfold Sheltered
  cases put : round.putRoutes with
  | ok response =>
      have table : ∀ host, (reconcileWithBackoff idna parseUrl run round).1.routes.find? host =
          lastWrite ((labelWrites services ++ intentWrites parseUrl round.intents) ++
            staticWrites (run.prepared idna parseUrl)) host := by
        intro host
        rw [routes_of_put_ok listed put, Round.draft, draft_find?]
        rfl
      rw [routeKept_iff listed table]
      cases fetched : round.desiredServices with
      | ok desired =>
          obtain rfl := offered desired fetched
          have intents : round.intents = desired := by rw [Round.intents, fetched]
          rw [intents, leadsTo_append mentioned]
          simp only [mentioned]
          tauto
      | error e =>
          have intents : round.intents = [] := by rw [Round.intents, fetched]
          have labelled : LeadsTo (labelWrites services) host backend →
              host ∈ (labelWrites services).map Prod.fst := mem_of_leadsTo
          rw [intents]
          simp only [intentWrites, List.flatMap_nil, List.append_nil, List.map_nil,
            List.not_mem_nil, false_or]
          tauto
  | error e =>
      have table : ∀ host, (reconcileWithBackoff idna parseUrl run round).1.routes.find? host =
          lastWrite (labelWrites again ++ staticWrites (run.prepared idna parseUrl)) host := by
        intro host
        rw [routes_of_put_error listed relisted put, Table.find?_writeAll, Table.find?_empty,
          Option.or_none]
      rw [routeKept_iff listed table]
      cases fetched : round.desiredServices with
      | ok desired =>
          obtain rfl := offered desired fetched
          have intents : round.intents = desired := by rw [Round.intents, fetched]
          rw [intents]
          simp only [mentioned]
          tauto
      | error e =>
          have intents : round.intents = [] := by rw [Round.intents, fetched]
          rw [intents]
          simp only [intentWrites, List.flatMap_nil, List.map_nil, List.not_mem_nil, false_or]
          tauto

/-! ## The refreshed table and the reconciled one -/

theorem containerId_of_labelWrites {route : BackendRoute}
    (written : (host, route) ∈ labelWrites services) : route.containerId ≠ none := by
  obtain ⟨svc, -, written⟩ := List.mem_flatMap.mp written
  unfold serviceWrites at written
  split at written
  · cases written
  · obtain ⟨_, -, same⟩ := List.mem_map.mp written
    obtain ⟨-, rfl⟩ := Prod.mk.inj same
    exact Option.some_ne_none _

theorem containerId_of_intentWrites {intents : List DesiredEnabledService} {route : BackendRoute}
    (written : (host, route) ∈ intentWrites parseUrl intents) : route.containerId = none := by
  obtain ⟨d, -, written⟩ := List.mem_flatMap.mp written
  unfold desiredWrites at written
  split at written
  · cases written
  · obtain ⟨_, -, same⟩ := List.mem_map.mp written
    obtain ⟨-, rfl⟩ := Prod.mk.inj same
    rfl

/-- Leaving the intents out changes a hostname iff an intent names it and no
static route does: a label route carries a container id and an intent's does
not, so the two are never the same route. -/
theorem lastWrite_without_intents {intents : List DesiredEnabledService} :
    lastWrite (labelWrites services ++ staticWrites staticRoutes) host =
        lastWrite (routeWrites parseUrl services intents staticRoutes) host ↔
      (host ∈ (intentWrites parseUrl intents).map Prod.fst → StaticHost staticRoutes host) := by
  rw [routeWrites, lastWrite_append, lastWrite_append, lastWrite_append]
  by_cases static : StaticHost staticRoutes host
  · obtain ⟨route, last⟩ := exists_lastWrite (staticHost_iff.mp static)
    simp [last, static]
  · rw [lastWrite_static_none static, Option.none_or, Option.none_or, ← lastWrite_isSome]
    cases intent : lastWrite (intentWrites parseUrl intents) host with
    | none => simp
    | some route =>
        refine iff_of_false ?_ (by simpa using static)
        intro same
        rw [Option.some_or] at same
        exact containerId_of_labelWrites (mem_of_lastWrite same)
          (containerId_of_intentWrites (mem_of_lastWrite intent))

/-- The same round with every call answered. -/
def Round.answered (round : Round) (services : List DiscoveredService)
    (intents : List DesiredEnabledService) (response : PutRoutesResponse) : Round :=
  { round with
    services := .ok services
    desiredServices := .ok intents
    putRoutes := .ok response }

/-- **When an enabled route survives controller trouble.** -/
theorem intent_route_kept_iff (run : AgentRun) (round : Round)
    {intents : List DesiredEnabledService} (listed : round.services = .ok services)
    (relisted : round.servicesAgain = .ok again)
    (offered : ∀ desired, round.desiredServices = .ok desired → desired = intents)
    (enabled : Enabled parseUrl intents host backend) :
    (RouteKept idna parseUrl run round host backend ↔
      Sheltered idna parseUrl run round services again host backend) ∧
    ∀ e response, round.putRoutes = .error e →
      ((∀ name, (reconcileWithBackoff idna parseUrl run round).1.routes.find? name =
          (reconcileWithBackoff idna parseUrl run
            (round.answered again intents response)).1.routes.find? name) ↔
        ∀ name ∈ (intentWrites parseUrl intents).map Prod.fst,
          StaticHost (run.prepared idna parseUrl) name) := by
  refine ⟨routeKept_iff_sheltered listed relisted offered enabled, ?_⟩
  intro e response put
  apply forall_congr'
  intro name
  have answered : (round.answered again intents response).services = .ok again := rfl
  rw [routes_of_put_error listed relisted put, routes_of_put_ok answered rfl, Round.draft,
    draft_find?, Table.find?_writeAll, Table.find?_empty, Option.or_none]
  exact lastWrite_without_intents

end Reconcile

/-! ## One enabled service and no containers -/

/-- An agent with no static routes that has not reconciled yet. -/
def freshAgent : AgentRun := ⟨[], Table.empty, "100.64.0.1".toList, controllerBackoffBase⟩

/-- A round over no containers in which the two calls may fail. -/
def bareRound (desiredServices : Except Text (List DesiredEnabledService))
    (putRoutes : Except Text PutRoutesResponse) : Round where
  candidates := .ok []
  putDiscovery := .ok ()
  services := .ok []
  desiredServices := desiredServices
  putRoutes := putRoutes
  heartbeat := .ok ()
  servicesAgain := .ok []

def webBackend : Backend := ⟨"10.0.0.9".toList, 8080⟩

theorem webIntent_enabled : Enabled httpUrl [webIntent] "web".toList webBackend :=
  ⟨webIntent, List.mem_singleton_self _, List.mem_singleton_self _, by decide +kernel⟩

/-- A round in which both calls fail and a container is labelled with the same backend. -/
def shelteredRound : Round :=
  let labelled : DiscoveredService :=
    { webContainer "c1".toList "172.18.0.2".toList with
      labels := ⟨[webHost], none, some webBackend, none⟩ }
  { bareRound (.error "timeout".toList) (.error "timeout".toList) with
    services := .ok [labelled]
    servicesAgain := .ok [labelled] }

/-- With every call answered the enabled route is installed and sent; with both failing it
is so where the labels lead to its backend. -/
theorem intent_route_kept_answered :
    RouteKept asciiIdna httpUrl freshAgent (bareRound (.ok [webIntent]) (.ok ⟨[], []⟩))
        "web".toList webBackend ∧
      RouteKept asciiIdna httpUrl freshAgent shelteredRound "web".toList webBackend := by
  constructor
  · have offered : ∀ desired, (bareRound (.ok [webIntent]) (.ok ⟨[], []⟩)).desiredServices =
        .ok desired → desired = [webIntent] := by
      intro desired fetched
      cases fetched
      rfl
    refine (intent_route_kept_iff freshAgent _ rfl rfl offered webIntent_enabled).1.mpr (Or.inr ?_)
    show Option.map BackendRoute.backend (lastWrite (intentWrites httpUrl [webIntent]) _) = _
    decide +kernel
  · have offered : ∀ desired, shelteredRound.desiredServices = .ok desired →
        desired = [webIntent] := by
      intro desired fetched
      cases fetched
    refine (intent_route_kept_iff freshAgent _ rfl rfl offered webIntent_enabled).1.mpr (Or.inr ?_)
    show Option.map BackendRoute.backend (lastWrite _ _) = _ ∧ _ ∈ _
    decide +kernel

/-- **Controller trouble drops an enabled route.** The route is installed; then a
round in which only the intents cannot be fetched sends a full route set without
it, and a round in which only the PUT fails removes it from the proxy. -/
theorem outage_drops_enabled_route :
    let timeout : Text := "timeout".toList
    let before := (reconcileWithBackoff asciiIdna httpUrl freshAgent
      (bareRound (.ok [webIntent]) (.ok ⟨[], []⟩))).1
    let unfetched := bareRound (.error timeout) (.ok ⟨[], []⟩)
    let unsent := bareRound (.ok [webIntent]) (.error timeout)
    Enabled httpUrl [webIntent] "web".toList webBackend ∧
      (before.routes.find? "web".toList).map BackendRoute.backend = some webBackend ∧
      Sent.putRoutes [] ∈ (reconcileWithBackoff asciiIdna httpUrl before unfetched).2 ∧
      (reconcileWithBackoff asciiIdna httpUrl before unfetched).1.routes.find? "web".toList = none ∧
      (reconcileWithBackoff asciiIdna httpUrl before unsent).1.routes.find? "web".toList = none ∧
      ¬RouteKept asciiIdna httpUrl before unfetched "web".toList webBackend ∧
      ¬RouteKept asciiIdna httpUrl before unsent "web".toList webBackend := by
  intro timeout before unfetched unsent
  have dropped : ∀ round ∈ [unfetched, unsent],
      (reconcileWithBackoff asciiIdna httpUrl before round).1.routes.find? "web".toList = none := by
    intro round listed
    rcases List.mem_pair.mp listed with rfl | rfl <;> decide +kernel
  have gone : ∀ round ∈ [unfetched, unsent],
      ¬RouteKept asciiIdna httpUrl before round "web".toList webBackend := by
    intro round listed kept
    obtain ⟨route, found, -⟩ := kept.served
    rw [dropped round listed] at found
    cases found
  refine ⟨webIntent_enabled, by decide +kernel, by decide +kernel, ?_, ?_, ?_, ?_⟩
  · exact dropped _ (by simp)
  · exact dropped _ (by simp)
  · exact gone _ (by simp)
  · exact gone _ (by simp)

end Tailroute.Agent
