/-
# Agent.RouteOrder — does the route map depend on an iteration order

Docker lists containers in some order and reports labels, ports, exposed ports and
networks as hash maps; the controller lists intents in some order. `resolve_backend`
refuses to choose, so the order of ports and networks never matters
(`resolveBackend_congr`). Three orders do: of the labels, when several keys differ
only in letter case; of the containers, when two of them name one hostname; and of
the intents, when two of them do. The last writer wins.

`orderFree_iff` says for which containers and intents the route map of
`reconcile_once` is the same for all orders.
-/
import Tailroute.Agent.Reconcile
import Tailroute.Docker.Inspect

namespace Tailroute.Agent

open Tailroute.Theory Tailroute.Common Tailroute.Proxy Tailroute.Docker

set_option autoImplicit false

section Order

variable (idna : Idna) (parseUrl : UrlParser)

/-! ## What a source gives a hostname -/

/-- The route of a discovered service for one hostname. -/
def serviceRoute (host : Text) (svc : DiscoveredService) : Option BackendRoute :=
  match resolveBackend svc with
  | .error _ => none
  | .ok backend =>
      if host ∈ svc.labels.hosts.map NormalizedHostname.text then some (labelRoute svc backend)
      else none

/-- The route of an enabled intent for one hostname. -/
def desiredRoute (host : Text) (d : DesiredEnabledService) : Option BackendRoute :=
  match parseBackendUrl parseUrl d.backend with
  | .error _ => none
  | .ok backend => if host ∈ d.hostnames then some (intentRoute d backend) else none

/-- The route of a listed container for one hostname. -/
def containerRoute (host : Text) (l : ListedContainer) : Option BackendRoute :=
  (listService idna parseUrl l).bind (serviceRoute host)

theorem lastWrite_serviceWrites (svc : DiscoveredService) (host : Text) :
    lastWrite (serviceWrites svc) host = serviceRoute host svc := by
  unfold serviceWrites serviceRoute
  cases resolveBackend svc with
  | error e => rfl
  | ok backend =>
      have written := lastWrite_map_const (svc.labels.hosts.map NormalizedHostname.text)
        (labelRoute svc backend) host
      rw [List.map_map] at written
      exact written

theorem lastWrite_desiredWrites (d : DesiredEnabledService) (host : Text) :
    lastWrite (desiredWrites parseUrl d) host = desiredRoute parseUrl host d := by
  unfold desiredWrites desiredRoute
  cases parseBackendUrl parseUrl d.backend with
  | error e => rfl
  | ok backend => exact lastWrite_map_const d.hostnames (intentRoute d backend) host

theorem lastWrite_labelWrites (services : List DiscoveredService) (host : Text) :
    lastWrite (labelWrites services) host = lastSome (services.map (serviceRoute host)) := by
  rw [labelWrites, lastWrite_flatMap]
  simp only [lastWrite_serviceWrites]

theorem lastWrite_intentWrites (desired : List DesiredEnabledService) (host : Text) :
    lastWrite (intentWrites parseUrl desired) host =
      lastSome (desired.map (desiredRoute parseUrl host)) := by
  rw [intentWrites, lastWrite_flatMap]
  simp only [lastWrite_desiredWrites]

theorem lastWrite_listedWrites (containers : List ListedContainer) (host : Text) :
    lastWrite (labelWrites (listServices idna parseUrl containers)) host =
      lastSome (containers.map (containerRoute idna parseUrl host)) := by
  rw [lastWrite_labelWrites, listServices, lastSome_map_filterMap]
  rfl

/-! ## The route map -/

/-- The route map `reconcile_once` installs when Docker lists the containers and the
controller the intents. -/
def reconciledRoutes (run : AgentRun) (round : Round) (containers : List ListedContainer)
    (desired : List DesiredEnabledService) : SharedRouteStore :=
  (reconcileOnce idna parseUrl run
    { round with
      services := .ok (listServices idna parseUrl containers)
      desiredServices := .ok desired }).2.1.routes

theorem reconciledRoutes_find? (run : AgentRun) (round : Round)
    (containers : List ListedContainer) (desired : List DesiredEnabledService) (host : Text) :
    (reconciledRoutes idna parseUrl run round containers desired).find? host =
      (lastWrite (staticWrites (run.prepared idna parseUrl)) host).or
        ((lastSome (desired.map (desiredRoute parseUrl host))).or
          (lastSome (containers.map (containerRoute idna parseUrl host)))) := by
  have built : reconciledRoutes idna parseUrl run round containers desired =
      (draft parseUrl (listServices idna parseUrl containers) desired
        (run.prepared idna parseUrl)).localRoutes := by
    rw [reconciledRoutes, reconcileOnce_eq rfl]
    cases round.putRoutes <;> rfl
  rw [built, draft_find?, routeWrites, lastWrite_append, lastWrite_append, lastWrite_intentWrites,
    lastWrite_listedWrites]

/-- The route map is the same for every order of the containers, their maps and the
intents. -/
def OrderFree (run : AgentRun) (round : Round) (containers : List ListedContainer)
    (desired : List DesiredEnabledService) : Prop :=
  ∀ containers' desired', Rearranged containers containers' → desired.Perm desired' →
    ∀ host, (reconciledRoutes idna parseUrl run round containers' desired').find? host =
      (reconciledRoutes idna parseUrl run round containers desired).find? host

/-! ## Containers under every reading of their labels -/

/-- The labels of a listed container. -/
def containerLabels (l : ListedContainer) : Table Text Text :=
  match l.inspect with
  | .ok c => c.labels
  | .error _ => .empty

/-- The service of a listed container, given the value found for each label name. -/
def serviceUnder (choice : LabelName → Option Text) (l : ListedContainer) :
    Option DiscoveredService :=
  match l.id, l.inspect with
  | some id, .ok c => inspectLabelled (readLabels idna parseUrl choice) id c
  | _, _ => none

/-- What a container may give a hostname, whichever of the labels whose keys differ only
in letter case are read. -/
def MayGive (host : Text) (l : ListedContainer) (o : Option BackendRoute) : Prop :=
  ∃ choice, Chooses (containerLabels l) choice ∧
    (serviceUnder idna parseUrl choice l).bind (serviceRoute host) = o

theorem serviceRoute_congr {svc svc' : DiscoveredService} (same : SameService svc svc')
    (host : Text) : serviceRoute host svc = serviceRoute host svc' := by
  unfold serviceRoute labelRoute
  rw [resolveBackend_congr same, same.labels, same.containerId, same.containerName]

variable {idna parseUrl} {host : Text} {l l' : ListedContainer}

theorem serviceUnder_congr (same : SameListed l l') (choice : LabelName → Option Text) :
    (serviceUnder idna parseUrl choice l).bind (serviceRoute host) =
      (serviceUnder idna parseUrl choice l').bind (serviceRoute host) := by
  cases same with
  | failed id e => rfl
  | inspected id same =>
      cases id with
      | none => rfl
      | some id =>
          have related := inspectLabelled_congr same (readLabels idna parseUrl choice) id
          simp only [serviceUnder]
          generalize inspectLabelled (readLabels idna parseUrl choice) id _ = here at related ⊢
          generalize inspectLabelled (readLabels idna parseUrl choice) id _ = there at related ⊢
          cases related with
          | none => rfl
          | some same => exact serviceRoute_congr same host

/-- In another order of its maps a container gives what it may give. -/
theorem mayGive_of_same (same : SameListed l l') :
    MayGive idna parseUrl host l (containerRoute idna parseUrl host l') := by
  refine ⟨findLabel (containerLabels l'), ?_, ?_⟩
  · cases same with
    | failed id e => exact chooses_findLabel (.refl _)
    | inspected id same => exact chooses_findLabel same.labels
  · rw [serviceUnder_congr same]
    obtain ⟨id, inspect⟩ := l'
    cases id <;> cases inspect <;> rfl

/-- What a container may give it gives in some order of its labels. -/
theorem exists_same_of_mayGive {o : Option BackendRoute} (may : MayGive idna parseUrl host l o) :
    ∃ l', SameListed l l' ∧ containerRoute idna parseUrl host l' = o := by
  obtain ⟨choice, chooses, rfl⟩ := may
  obtain ⟨id, inspect⟩ := l
  cases inspect with
  | error e =>
      refine ⟨_, .failed id e, ?_⟩
      cases id <;> rfl
  | ok c =>
      obtain ⟨labels', order, rfl⟩ := exists_findLabel chooses
      refine ⟨⟨id, .ok { c with labels := labels' }⟩, .inspected id ?_, ?_⟩
      · exact { SameInspect.refl c with labels := order }
      · cases id <;> rfl

/-- Over all orders the containers leave what sources that may give it leave. -/
theorem outcome_mayGive_iff {containers : List ListedContainer} {o : Option BackendRoute} :
    Outcome (MayGive idna parseUrl host) containers o ↔
      ∃ containers', Rearranged containers containers' ∧
        lastSome (containers'.map (containerRoute idna parseUrl host)) = o := by
  constructor
  · rintro ⟨listed, os, order, may, last⟩
    have realized : ∃ containers', List.Forall₂ SameListed listed containers' ∧
        containers'.map (containerRoute idna parseUrl host) = os := by
      clear order last
      induction may with
      | nil => exact ⟨[], .nil, rfl⟩
      | cons here _ ih =>
          obtain ⟨l', same, rfl⟩ := exists_same_of_mayGive here
          obtain ⟨rest, sames, rfl⟩ := ih
          exact ⟨l' :: rest, .cons same sames, rfl⟩
    obtain ⟨containers', sames, rfl⟩ := realized
    exact ⟨containers', ⟨listed, order, sames⟩, last⟩
  · rintro ⟨containers', ⟨listed, order, sames⟩, last⟩
    refine ⟨listed, _, order, ?_, last⟩
    rw [List.forall₂_map_right_iff]
    exact sames.imp fun _ _ same => mayGive_of_same same

/-! ## When no order matters -/

variable (idna parseUrl)

/-- Some intent with a valid backend lists the hostname. -/
def Intended (host : Text) (desired : List DesiredEnabledService) : Prop :=
  ∃ d ∈ desired, ∃ route, desiredRoute parseUrl host d = some route

/-- One route for the hostname. An intended hostname has the same route in all the
intents that list it. Any other hostname is named by no container, whichever of its
labels are read, or all containers that may name it give the same route and one of
them names it whichever labels are read. -/
structure HostSettled (host : Text) (containers : List ListedContainer)
    (desired : List DesiredEnabledService) : Prop where
  intents : Intended parseUrl host desired →
    ∃ route, ∀ d ∈ desired, ∀ r, desiredRoute parseUrl host d = some r → r = route
  containers : ¬Intended parseUrl host desired →
    (∀ l ∈ containers, ∀ route, ¬MayGive idna parseUrl host l (some route)) ∨
      ∃ route, (∀ l ∈ containers, ∀ r, MayGive idna parseUrl host l (some r) → r = route) ∧
        ∃ l ∈ containers, ¬MayGive idna parseUrl host l none

variable {idna parseUrl} {containers : List ListedContainer}
  {desired desired' : List DesiredEnabledService}

theorem lastSome_desired_ne_none (order : desired.Perm desired')
    (intended : Intended parseUrl host desired) :
    lastSome (desired'.map (desiredRoute parseUrl host)) ≠ none := by
  intro nothing
  obtain ⟨d, listed, route, given⟩ := intended
  apply lastSome_eq_none_iff.mp nothing route
  rw [← given]
  exact List.mem_map_of_mem (order.mem_iff.mp listed)

theorem lastSome_desired_eq_none (order : desired.Perm desired')
    (unintended : ¬Intended parseUrl host desired) :
    lastSome (desired'.map (desiredRoute parseUrl host)) = none := by
  rw [lastSome_eq_none_iff]
  intro route given
  obtain ⟨d, listed, same⟩ := List.mem_map.mp given
  exact unintended ⟨d, order.mem_iff.mpr listed, route, same⟩

/-- Intents alone: their order does not matter iff they agree. -/
theorem intents_settled_iff (intended : Intended parseUrl host desired) :
    (∃ route, ∀ d ∈ desired, ∀ r, desiredRoute parseUrl host d = some r → r = route) ↔
      ∀ desired', desired.Perm desired' →
        lastSome (desired'.map (desiredRoute parseUrl host)) =
          lastSome (desired.map (desiredRoute parseUrl host)) := by
  have settled : Settled (fun d o => desiredRoute parseUrl host d = o) desired ↔ _ :=
    settled_iff fun d _ => ⟨_, rfl⟩
  obtain ⟨d, listed, route, given⟩ := intended
  constructor
  · rintro ⟨one, agree⟩ desired' order
    refine settled.mp (Or.inr ⟨one, agree, d, listed, ?_⟩) _ _
      (outcome_fun_iff.mpr ⟨desired', order, rfl⟩) (outcome_fun_iff.mpr ⟨desired, .refl _, rfl⟩)
    show ¬desiredRoute parseUrl host d = none
    rw [given]
    exact Option.some_ne_none route
  · intro same
    have unique : Settled (fun d o => desiredRoute parseUrl host d = o) desired := by
      refine settled.mpr fun o o' outcome outcome' => ?_
      obtain ⟨desired₁, order₁, rfl⟩ := outcome_fun_iff.mp outcome
      obtain ⟨desired₂, order₂, rfl⟩ := outcome_fun_iff.mp outcome'
      rw [same desired₁ order₁, same desired₂ order₂]
    rcases unique with silent | ⟨one, agree, -⟩
    · exact absurd given (silent d listed route)
    · exact ⟨one, agree⟩

/-- Containers alone: their orders do not matter iff they settle the hostname. -/
theorem containers_settled_iff :
    Settled (MayGive idna parseUrl host) containers ↔
      ∀ containers', Rearranged containers containers' →
        lastSome (containers'.map (containerRoute idna parseUrl host)) =
          lastSome (containers.map (containerRoute idna parseUrl host)) := by
  rw [settled_iff fun l _ => ⟨_, mayGive_of_same (SameListed.refl l)⟩]
  constructor
  · intro unique containers' rearranged
    exact unique _ _ (outcome_mayGive_iff.mpr ⟨containers', rearranged, rfl⟩)
      (outcome_mayGive_iff.mpr ⟨containers, .refl containers, rfl⟩)
  · intro same o o' outcome outcome'
    obtain ⟨containers₁, rearranged₁, rfl⟩ := outcome_mayGive_iff.mp outcome
    obtain ⟨containers₂, rearranged₂, rfl⟩ := outcome_mayGive_iff.mp outcome'
    rw [same containers₁ rearranged₁, same containers₂ rearranged₂]

/-- **When the routes are a function of the containers and the intents.** The route
map is the same for every order exactly if every hostname that is not static is
settled. -/
theorem orderFree_iff (idna : Idna) (parseUrl : UrlParser) (run : AgentRun) (round : Round)
    (containers : List ListedContainer) (desired : List DesiredEnabledService) :
    OrderFree idna parseUrl run round containers desired ↔
      ∀ host, ¬StaticHost (run.prepared idna parseUrl) host →
        HostSettled idna parseUrl host containers desired := by
  constructor
  · intro free host unstatic
    have same : ∀ containers' desired', Rearranged containers containers' →
        desired.Perm desired' →
        (lastSome (desired'.map (desiredRoute parseUrl host))).or
            (lastSome (containers'.map (containerRoute idna parseUrl host))) =
          (lastSome (desired.map (desiredRoute parseUrl host))).or
            (lastSome (containers.map (containerRoute idna parseUrl host))) := by
      intro containers' desired' rearranged order
      have equal := free containers' desired' rearranged order host
      rw [reconciledRoutes_find?, reconciledRoutes_find?, lastWrite_static_none unstatic,
        Option.none_or, Option.none_or] at equal
      exact equal
    refine ⟨?_, ?_⟩
    · intro intended
      refine (intents_settled_iff intended).mpr fun desired' order => ?_
      have equal := same containers desired' (.refl containers) order
      obtain ⟨r, given⟩ := Option.ne_none_iff_exists'.mp
        (lastSome_desired_ne_none (.refl desired) intended)
      obtain ⟨r', given'⟩ := Option.ne_none_iff_exists'.mp
        (lastSome_desired_ne_none order intended)
      rw [given, given', Option.some_or, Option.some_or] at equal
      rw [given, given', equal]
    · intro unintended
      refine containers_settled_iff.mpr fun containers' rearranged => ?_
      have equal := same containers' desired rearranged (.refl desired)
      rw [lastSome_desired_eq_none (.refl desired) unintended, Option.none_or,
        Option.none_or] at equal
      exact equal
  · intro settled containers' desired' rearranged order host
    rw [reconciledRoutes_find?, reconciledRoutes_find?]
    by_cases static : StaticHost (run.prepared idna parseUrl) host
    · obtain ⟨route, last⟩ := exists_lastWrite (staticHost_iff.mp static)
      rw [last, Option.some_or, Option.some_or]
    · have one := settled host static
      by_cases intended : Intended parseUrl host desired
      · rw [(intents_settled_iff intended).mp (one.intents intended) desired' order]
        obtain ⟨r, given⟩ := Option.ne_none_iff_exists'.mp
          (lastSome_desired_ne_none (.refl desired) intended)
        rw [given, Option.some_or, Option.some_or]
      · rw [lastSome_desired_eq_none order intended,
          lastSome_desired_eq_none (.refl desired) intended,
          containers_settled_iff.mp (one.containers intended) containers' rearranged]

end Order

/-! ## Two orders, two backends -/

/-- A running container with labels, alone in one network. -/
def plainContainer (ip : Text) (labels : Table Text Text) : ContainerInspect where
  running := some true
  name := none
  networkMode := none
  labels
  ports := .empty
  exposedPorts := .empty
  networks := Table.empty.upsert "bridge".toList (some ip)

def webLabels (port : Text) : Table Text Text :=
  ((Table.empty.upsert "tailsvc.enable".toList "true".toList).upsert
    "tailsvc.hosts".toList "web".toList).upsert "tailsvc.port".toList port

/-- A second spelling of a key that is there already. -/
def shoutedPort : Table Text Text := (webLabels "80".toList).upsert "TAILSVC.PORT".toList "81".toList

/-- The same labels, the second spelling first. -/
def shoutedFirst : Table Text Text :=
  ⟨shoutedPort.rows.reverse, (List.reverse_perm _).map Prod.fst |>.nodup_iff.mpr shoutedPort.keysNodup⟩

def listedPlain (id ip : Text) (labels : Table Text Text) : ListedContainer :=
  ⟨some id, .ok (plainContainer ip labels)⟩

/-- The backend a hostname is routed to, for an agent without static routes and a
controller without intents. -/
def servedBackend (containers : List ListedContainer) (host : Text) : Option Backend :=
  ((reconciledRoutes asciiIdna httpUrl ⟨[], .empty, [], 0⟩
    ⟨.error [], .ok (), .ok [], .ok [], .ok ⟨[], []⟩, .ok (), .ok []⟩ containers []).find?
      host).map BackendRoute.backend

/-- **Swapping two containers, or the labels of one, reroutes a hostname.** -/
theorem reordered_containers_rerouted :
    let c₁ := listedPlain "c1".toList "172.18.0.2".toList (webLabels "80".toList)
    let c₂ := listedPlain "c2".toList "172.18.0.3".toList (webLabels "80".toList)
    let c := listedPlain "c3".toList "172.18.0.4".toList shoutedPort
    let c' := listedPlain "c3".toList "172.18.0.4".toList shoutedFirst
    (Rearranged [c₁, c₂] [c₂, c₁] ∧
      servedBackend [c₁, c₂] "web".toList = some ⟨"172.18.0.3".toList, 80⟩ ∧
      servedBackend [c₂, c₁] "web".toList = some ⟨"172.18.0.2".toList, 80⟩) ∧
    (Rearranged [c] [c'] ∧
      servedBackend [c] "web".toList = some ⟨"172.18.0.4".toList, 80⟩ ∧
      servedBackend [c'] "web".toList = some ⟨"172.18.0.4".toList, 81⟩) ∧
    ¬OrderFree asciiIdna httpUrl ⟨[], .empty, [], 0⟩
      ⟨.error [], .ok (), .ok [], .ok [], .ok ⟨[], []⟩, .ok (), .ok []⟩ [c₁, c₂] [] := by
  intro c₁ c₂ c c'
  have swapped : Rearranged [c₁, c₂] [c₂, c₁] :=
    ⟨[c₂, c₁], List.Perm.swap c₂ c₁ [], List.forall₂_same.mpr fun l _ => SameListed.refl l⟩
  have relabelled : Rearranged [c] [c'] :=
    ⟨[c], .refl _, .cons (.inspected _ { SameInspect.refl _ with
      labels := (List.reverse_perm _).symm }) .nil⟩
  have first : servedBackend [c₁, c₂] "web".toList = some ⟨"172.18.0.3".toList, 80⟩ := by
    decide +kernel
  have second : servedBackend [c₂, c₁] "web".toList = some ⟨"172.18.0.2".toList, 80⟩ := by
    decide +kernel
  have spelled : servedBackend [c] "web".toList = some ⟨"172.18.0.4".toList, 80⟩ := by
    decide +kernel
  have shouted : servedBackend [c'] "web".toList = some ⟨"172.18.0.4".toList, 81⟩ := by
    decide +kernel
  refine ⟨⟨swapped, first, second⟩, ⟨relabelled, spelled, shouted⟩, ?_⟩
  intro free
  have same := congrArg (Option.map BackendRoute.backend)
    (free _ [] swapped (.refl []) "web".toList)
  have equal : servedBackend [c₂, c₁] "web".toList = servedBackend [c₁, c₂] "web".toList := same
  rw [first, second] at equal
  exact absurd equal (by decide)

end Tailroute.Agent
