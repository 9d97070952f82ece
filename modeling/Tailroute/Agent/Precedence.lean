/-
# Agent.Precedence — static over enabled over label

A reconcile writes the routes of the labels, of the enabled intents and of the static
routes, one list after the other and each entry over the ones before. Every hostname
therefore reads the last entry that names it in the highest tier that names it at all.

An entry that cannot be used writes nothing: a service without a backend, an intent or
a static route with a bad backend, a bad hostname of a static route. `routes_precedence`
states both: which route a hostname has, and that lists which differ only in such
entries leave the same routes.
-/
import Tailroute.Agent.RouteOrder

namespace Tailroute.Agent

open Tailroute.Theory Tailroute.Common Tailroute.Proxy Tailroute.Docker

set_option autoImplicit false

section Precedence

variable (idna : Idna) (parseUrl : UrlParser)

/-! ## What an entry gives a hostname -/

/-- The service has a backend and the hostname is among its labels. -/
def ServiceGives (host : Text) (svc : DiscoveredService) (route : BackendRoute) : Prop :=
  ∃ backend, resolveBackend svc = .ok backend ∧
    host ∈ svc.labels.hosts.map NormalizedHostname.text ∧ route = labelRoute svc backend

/-- The intent has a valid backend and lists the hostname. -/
def IntentGives (host : Text) (d : DesiredEnabledService) (route : BackendRoute) : Prop :=
  ∃ backend, parseBackendUrl parseUrl d.backend = .ok backend ∧
    host ∈ d.hostnames ∧ route = intentRoute d backend

/-- The entry has a valid backend and lists a host that normalizes to the hostname. -/
def StaticGives (host : Text) (e : StaticRouteConfig) (route : BackendRoute) : Prop :=
  ∃ backend, parseBackendUrl parseUrl e.backend = .ok backend ∧
    (∃ raw ∈ e.hosts, ∃ name, normalizeHostname idna raw = .ok name ∧ name.text = host) ∧
      route = ⟨backend, none, some "static".toList⟩

/-- The route of a static entry for one hostname. -/
def staticRoute (host : Text) (e : StaticRouteConfig) : Option BackendRoute :=
  (prepareStaticRoute idna parseUrl e).bind fun sr =>
    if host ∈ sr.hosts then some sr.route else none

variable {idna parseUrl} {host : Text} {route : BackendRoute}

theorem serviceRoute_eq_some (svc : DiscoveredService) (route : BackendRoute) :
    serviceRoute host svc = some route ↔ ServiceGives host svc route := by
  unfold serviceRoute ServiceGives
  cases resolveBackend svc with
  | error e => simp
  | ok backend => simp [eq_comm]

theorem desiredRoute_eq_some (d : DesiredEnabledService) (route : BackendRoute) :
    desiredRoute parseUrl host d = some route ↔ IntentGives parseUrl host d route := by
  unfold desiredRoute IntentGives
  cases parseBackendUrl parseUrl d.backend with
  | error e => simp
  | ok backend => simp [eq_comm]

theorem mem_normalizedHosts {hosts : List Text} :
    host ∈ (hosts.filterMap fun raw => (normalizeHostname idna raw).toOption).map
        NormalizedHostname.text ↔
      ∃ raw ∈ hosts, ∃ name, normalizeHostname idna raw = .ok name ∧ name.text = host := by
  have read : ∀ raw name, (normalizeHostname idna raw).toOption = some name ↔
      normalizeHostname idna raw = .ok name := by
    intro raw name
    cases normalizeHostname idna raw <;> simp [Except.toOption]
  simp only [List.mem_map, List.mem_filterMap, read]
  constructor
  · rintro ⟨name, ⟨raw, listed, normalized⟩, same⟩
    exact ⟨raw, listed, name, normalized, same⟩
  · rintro ⟨raw, listed, name, normalized, same⟩
    exact ⟨name, ⟨raw, listed, normalized⟩, same⟩

/-- An entry without a valid host is skipped as a whole, and it would have given
nothing. -/
theorem staticRoute_eq_some (e : StaticRouteConfig) (route : BackendRoute) :
    staticRoute idna parseUrl host e = some route ↔ StaticGives idna parseUrl host e route := by
  unfold staticRoute prepareStaticRoute StaticGives
  cases parseBackendUrl parseUrl e.backend with
  | error e => simp
  | ok backend =>
      rw [← mem_normalizedHosts]
      simp only
      split
      · rename_i none
        simp [none]
      · simp [PreparedStaticRoute.route, eq_comm]

theorem lastWrite_preparedWrites (entries : List StaticRouteConfig) (host : Text) :
    lastWrite (staticWrites (prepareStaticRoutes idna parseUrl entries)) host =
      lastSome (entries.map (staticRoute idna parseUrl host)) := by
  rw [staticWrites, lastWrite_flatMap, prepareStaticRoutes, lastSome_map_filterMap]
  simp only [PreparedStaticRoute.writes, lastWrite_map_const]
  rfl

/-! ## The routes of a reconcile -/

/-- Docker and the controller answer every call of the reconcile. -/
structure Succeeds (round : Round) (services : List DiscoveredService)
    (desired : List DesiredEnabledService) : Prop where
  listed : round.services = .ok services
  reported : round.putDiscovery = .ok ()
  fetched : round.desiredServices = .ok desired
  put : ∃ response, round.putRoutes = .ok response
  heartbeat : round.heartbeat = .ok ()

variable {run : AgentRun} {round : Round} {services services' : List DiscoveredService}
  {desired desired' : List DesiredEnabledService}

theorem Succeeds.find? (succeeds : Succeeds round services desired) (host : Text) :
    (reconcileOnce idna parseUrl run round).2.1.routes.find? host =
      (lastSome (run.staticRoutes.map (staticRoute idna parseUrl host))).or
        ((lastSome (desired.map (desiredRoute parseUrl host))).or
          (lastSome (services.map (serviceRoute host)))) := by
  obtain ⟨response, put⟩ := succeeds.put
  have installed : (reconcileOnce idna parseUrl run round).2.1.routes =
      (round.draft idna parseUrl run services).localRoutes := by
    rw [reconcileOnce_eq succeeds.listed, put]
  have intents : round.intents = desired := by rw [Round.intents, succeeds.fetched]
  rw [installed, Round.draft, intents, draft_find?, routeWrites, lastWrite_append,
    lastWrite_append, lastWrite_labelWrites, lastWrite_intentWrites, AgentRun.prepared,
    lastWrite_preparedWrites]

variable (idna parseUrl)

/-- The route is that of the last static entry that gives one; if there is none, of the
last intent; if there is none, of the last service. -/
def Precedence (host : Text) (entries : List StaticRouteConfig)
    (desired : List DesiredEnabledService) (services : List DiscoveredService)
    (route : BackendRoute) : Prop :=
  LastGives (StaticGives idna parseUrl host) entries route ∨
    NoneGives (StaticGives idna parseUrl host) entries ∧
      (LastGives (IntentGives parseUrl host) desired route ∨
        NoneGives (IntentGives parseUrl host) desired ∧
          LastGives (ServiceGives host) services route)

/-! ## Entries that cannot be used -/

def validStatic (e : StaticRouteConfig) : Bool :=
  (parseBackendUrl parseUrl e.backend).toOption.isSome

def validIntent (d : DesiredEnabledService) : Bool :=
  (parseBackendUrl parseUrl d.backend).toOption.isSome

def resolvable (svc : DiscoveredService) : Bool := (resolveBackend svc).toOption.isSome

/-- The entry without its invalid hosts. -/
def validHosts (e : StaticRouteConfig) : StaticRouteConfig :=
  { e with hosts := e.hosts.filter fun raw => (normalizeHostname idna raw).toOption.isSome }

/-- The lists differ only in services without a backend, in intents and static entries
with an invalid backend, and in invalid hosts of static entries. -/
structure SameUsable (entries entries' : List StaticRouteConfig)
    (desired desired' : List DesiredEnabledService)
    (services services' : List DiscoveredService) : Prop where
  entries : (entries.filter (validStatic parseUrl)).map (validHosts idna) =
    (entries'.filter (validStatic parseUrl)).map (validHosts idna)
  desired : desired.filter (validIntent parseUrl) = desired'.filter (validIntent parseUrl)
  services : services.filter resolvable = services'.filter resolvable

variable {idna parseUrl}

/-- A host that normalizes is a valid one. -/
theorem staticRoute_validHosts (e : StaticRouteConfig) :
    staticRoute idna parseUrl host (validHosts idna e) = staticRoute idna parseUrl host e := by
  apply Option.ext
  intro route
  rw [staticRoute_eq_some, staticRoute_eq_some]
  constructor
  · rintro ⟨backend, parsed, ⟨raw, listed, named⟩, rfl⟩
    exact ⟨backend, parsed, ⟨raw, List.mem_of_mem_filter listed, named⟩, rfl⟩
  · rintro ⟨backend, parsed, ⟨raw, listed, name, normalized, same⟩, rfl⟩
    refine ⟨backend, parsed, ⟨raw, List.mem_filter.mpr ⟨listed, ?_⟩, name, normalized, same⟩, rfl⟩
    rw [normalized]
    rfl

/-- The usable static entries decide. -/
theorem lastSome_staticRoute (entries : List StaticRouteConfig) :
    lastSome (((entries.filter (validStatic parseUrl)).map (validHosts idna)).map
        (staticRoute idna parseUrl host)) =
      lastSome (entries.map (staticRoute idna parseUrl host)) := by
  rw [List.map_map]
  have same : staticRoute idna parseUrl host ∘ validHosts idna = staticRoute idna parseUrl host :=
    funext staticRoute_validHosts
  rw [same]
  apply lastSome_map_filter_ok fun e : StaticRouteConfig => parseBackendUrl parseUrl e.backend
  intro e route gives
  obtain ⟨backend, parsed, -⟩ := (staticRoute_eq_some e route).mp gives
  exact ⟨backend, parsed⟩

theorem lastSome_desiredRoute (desired : List DesiredEnabledService) :
    lastSome ((desired.filter (validIntent parseUrl)).map (desiredRoute parseUrl host)) =
      lastSome (desired.map (desiredRoute parseUrl host)) := by
  apply lastSome_map_filter_ok fun d : DesiredEnabledService => parseBackendUrl parseUrl d.backend
  intro d route gives
  obtain ⟨backend, parsed, -⟩ := (desiredRoute_eq_some d route).mp gives
  exact ⟨backend, parsed⟩

theorem lastSome_serviceRoute (services : List DiscoveredService) :
    lastSome ((services.filter resolvable).map (serviceRoute host)) =
      lastSome (services.map (serviceRoute host)) := by
  apply lastSome_map_filter_ok resolveBackend
  intro svc route gives
  obtain ⟨backend, resolved, -⟩ := (serviceRoute_eq_some svc route).mp gives
  exact ⟨backend, resolved⟩

/-- **Route precedence.** A hostname has the route of the last entry that gives it one,
static before enabled before label, and no route if no entry does. Entries that cannot
be used change no route. -/
theorem routes_precedence (idna : Idna) (parseUrl : UrlParser) (run : AgentRun) (round : Round)
    (services : List DiscoveredService) (desired : List DesiredEnabledService)
    (succeeds : Succeeds round services desired) :
    (∀ host route,
      (reconcileOnce idna parseUrl run round).2.1.routes.find? host = some route ↔
        Precedence idna parseUrl host run.staticRoutes desired services route) ∧
    (∀ host,
      (reconcileOnce idna parseUrl run round).2.1.routes.find? host = none ↔
        NoneGives (StaticGives idna parseUrl host) run.staticRoutes ∧
          NoneGives (IntentGives parseUrl host) desired ∧
            NoneGives (ServiceGives host) services) ∧
    ∀ run' round' services' desired', Succeeds round' services' desired' →
      SameUsable idna parseUrl run.staticRoutes run'.staticRoutes desired desired' services
        services' →
      ∀ host, (reconcileOnce idna parseUrl run' round').2.1.routes.find? host =
        (reconcileOnce idna parseUrl run round).2.1.routes.find? host := by
  refine ⟨?_, ?_, ?_⟩
  · intro host route
    rw [succeeds.find?, Option.or_eq_some_iff, Option.or_eq_some_iff,
      lastSome_map_eq_some_iff staticRoute_eq_some, lastSome_map_eq_none_iff staticRoute_eq_some,
      lastSome_map_eq_some_iff desiredRoute_eq_some, lastSome_map_eq_none_iff desiredRoute_eq_some,
      lastSome_map_eq_some_iff serviceRoute_eq_some]
    rfl
  · intro host
    rw [succeeds.find?, Option.or_eq_none_iff, Option.or_eq_none_iff,
      lastSome_map_eq_none_iff staticRoute_eq_some, lastSome_map_eq_none_iff desiredRoute_eq_some,
      lastSome_map_eq_none_iff serviceRoute_eq_some]
  · intro run' round' services' desired' succeeds' same host
    rw [succeeds'.find?, succeeds.find?, ← lastSome_staticRoute run.staticRoutes, same.entries,
      lastSome_staticRoute, ← lastSome_desiredRoute desired, same.desired, lastSome_desiredRoute,
      ← lastSome_serviceRoute services, same.services, lastSome_serviceRoute]

end Precedence

/-! ## A hostname in all three tiers -/

/-- A static entry for `web` whose backend is not an `http` URL. -/
def brokenStatic : StaticRouteConfig := ⟨["web".toList], "ftp://10.0.0.5:21".toList⟩

def contestedRun : AgentRun := ⟨[brokenStatic], Table.empty, "100.64.0.1".toList, 500⟩

def contestedServices : List DiscoveredService :=
  [webContainer "c1".toList "172.18.0.2".toList, webContainer "c2".toList "172.18.0.3".toList]

def contestedRound : Round where
  candidates := .ok []
  putDiscovery := .ok ()
  services := .ok contestedServices
  desiredServices := .ok [webIntent]
  putRoutes := .ok ⟨[], []⟩
  heartbeat := .ok ()
  servicesAgain := .ok []

/-- The static entry is unusable, so the intent decides, over both containers. -/
theorem routes_precedence_contested :
    (reconcileOnce asciiIdna httpUrl contestedRun contestedRound).2.1.routes.find? "web".toList =
      some (intentRoute webIntent ⟨"10.0.0.9".toList, 8080⟩) := by
  have succeeds : Succeeds contestedRound contestedServices [webIntent] :=
    ⟨rfl, rfl, rfl, ⟨_, rfl⟩, rfl⟩
  refine ((routes_precedence asciiIdna httpUrl contestedRun contestedRound contestedServices
    [webIntent] succeeds).1 _ _).mpr (Or.inr ⟨?_, Or.inl ?_⟩)
  · rintro e listed route ⟨backend, parsed, -⟩
    cases List.mem_singleton.mp listed
    have refused : (parseBackendUrl httpUrl brokenStatic.backend).toOption = none := by
      decide +kernel
    rw [parsed] at refused
    cases refused
  · exact ⟨[], webIntent, [], rfl, ⟨_, by decide +kernel, List.mem_singleton_self _, rfl⟩, by simp⟩

end Tailroute.Agent
