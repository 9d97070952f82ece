/-
# Controller.AdminViews — what the admin pages show

The pure part of `admin_agents`, `admin_routes`, `admin_dashboard` and
`admin_discovery`: how the handlers put together the lists they have read. Each page
rebuilds a fact that other parts of the controller decide by themselves. The route
pages show the routes that DNS answers (`adminRouteViews_dns`), although address and
lease come from two queries. The discovery page marks a container as enabled exactly if
its agent is told to serve it (`discoveryItem_desired`).
-/
import Tailroute.Controller.ClickToEnable
import Tailroute.Storage.Discovery

namespace Tailroute.Controller

open Tailroute.Theory Tailroute.Common Tailroute.Storage

set_option autoImplicit false

/-! ## Agents and routes -/

inductive Health where
  | healthy
  | stale
deriving DecidableEq

structure AdminAgentView where
  agentId : Text
  displayName : Text
  tailscaleIpv4 : Text
  dockerEngineId : Text
  createdAt : Int
  lastSeenAt : Option Int
  status : Health
deriving DecidableEq

/-- The closure that `admin_agents` and `admin_dashboard` share. -/
def adminAgentView (ttl now : Int) (a : AgentRecord) : AdminAgentView where
  agentId := a.agentId
  displayName := a.displayName
  tailscaleIpv4 := a.tailscaleIpv4
  dockerEngineId := a.dockerEngineId
  createdAt := a.createdAt
  lastSeenAt := a.lastSeenAt
  status :=
    match a.lastSeenAt with
    | some ls => if now - ls < ttl then .healthy else .stale
    | none => .stale

structure AdminRouteView where
  hostname : Text
  agentId : Text
  tailscaleIpv4 : Text
  backend : Text
  containerId : Option Text
  containerName : Option Text
  leaseExpiresAt : Int
deriving DecidableEq

/-- The address of a route's agent, empty if the agent is not listed. -/
def addressOf (agents : List AgentRecord) (row : AdminRoute) : Text :=
  ((byAgent agents AgentRecord.tailscaleIpv4).find? row.agentId).getD []

def adminRouteViews (rows : List AdminRoute) (agents : List AgentRecord) : List AdminRouteView :=
  rows.map fun row =>
    ⟨row.hostname, row.agentId, addressOf agents row, row.backend, row.containerId,
      row.containerName, row.leaseExpiresAt⟩

inductive ProbeStatus where
  | ok
  | fail
  | timeout
  | skipped
deriving DecidableEq

structure ProbeResult where
  status : ProbeStatus
  ms : Option Nat
  detail : Option Text
deriving DecidableEq

structure AdminRouteHealthView where
  hostname : Text
  agentId : Text
  tailscaleIpv4 : Text
  backend : Text
  containerId : Option Text
  containerName : Option Text
  leaseExpiresAt : Int
  registration : Health
  httpProbe : ProbeStatus
  probeMs : Option Nat
  probeDetail : Option Text
deriving DecidableEq

/-- One row of the dashboard; `probe` is what `probe_via_agent` found. -/
def adminRouteHealthView (probe : Text → Text → ProbeResult) (now : Int)
    (agents : List AgentRecord) (row : AdminRoute) : AdminRouteHealthView :=
  let tsIp := addressOf agents row
  let probed :=
    if tsIp = [] then ⟨.skipped, none, some "no agent ip".toList⟩ else probe tsIp row.hostname
  { hostname := row.hostname
    agentId := row.agentId
    tailscaleIpv4 := tsIp
    backend := row.backend
    containerId := row.containerId
    containerName := row.containerName
    leaseExpiresAt := row.leaseExpiresAt
    registration := if now < row.leaseExpiresAt then .healthy else .stale
    httpProbe := probed.status
    probeMs := probed.ms
    probeDetail := probed.detail }

structure AdminDashboard where
  routes : List AdminRouteHealthView
  agents : List AdminAgentView
deriving DecidableEq

def adminDashboard (probe : Text → Text → ProbeResult) (ttl now : Int) (agents : List AgentRecord)
    (rows : List AdminRoute) : AdminDashboard where
  routes := rows.map (adminRouteHealthView probe now agents)
  agents := agents.map (adminAgentView ttl now)

section Routes

variable {s : Store} {rfc : Rfc3339} {ttl now read : Int}

/-- A listed route belongs to a live agent, has that agent's address and a lease that
ends after the listing. -/
theorem of_mem_listRoutesAdmin (read : Int) {row : AdminRoute} (listed : row ∈ s.listRoutesAdmin rfc ttl now) :
    ∃ agent seen, s.getAgent row.agentId = .ok agent ∧
      addressOf (s.listAgents rfc read) row = agent.tailscaleIpv4 ∧
      agent.lastSeenAt.bind rfc.parse = some seen ∧ now - seen < ttl ∧
      row.leaseExpiresAt = seen + ttl := by
  obtain ⟨⟨host, route, agent⟩, live, rfl⟩ := List.mem_map.mp listed
  obtain ⟨-, found, unrevoked, alive⟩ := Store.mem_liveRows.mp live
  have known : s.getAgent route.agentId = .ok agent := Store.getAgent_eq_ok.mpr ⟨found, unrevoked⟩
  unfold Store.leaseAlive at alive
  cases parsed : agent.lastSeenAt.bind rfc.parse with
  | none =>
      rw [parsed] at alive
      cases alive
  | some seen =>
      rw [parsed] at alive
      refine ⟨agent, seen, known, ?_, parsed, of_decide_eq_true alive, ?_⟩
      · rw [addressOf, find?_byAgent, known]
        rfl
      · rfl

/-- **The route page shows the routes of DNS**, with their addresses and in their order. -/
theorem listRoutesAdmin_dns :
    (s.listRoutesAdmin rfc ttl now).map (fun row =>
      DnsRoute.mk row.hostname (addressOf (s.listAgents rfc read) row)) =
        s.activeDnsRoutes rfc ttl now := by
  rw [Store.listRoutesAdmin, Store.activeDnsRoutes, List.map_map]
  apply List.map_congr_left
  rintro ⟨host, route, agent⟩ live
  obtain ⟨-, found, unrevoked, -⟩ := Store.mem_liveRows.mp live
  have known : s.getAgent route.agentId = .ok agent := Store.getAgent_eq_ok.mpr ⟨found, unrevoked⟩
  simp only [Function.comp_apply, addressOf, find?_byAgent, known]
  rfl

theorem adminRouteViews_dns :
    (adminRouteViews (s.listRoutesAdmin rfc ttl now) (s.listAgents rfc read)).map (fun view =>
      DnsRoute.mk view.hostname view.tailscaleIpv4) = s.activeDnsRoutes rfc ttl now := by
  rw [adminRouteViews, List.map_map]
  exact listRoutesAdmin_dns

theorem adminDashboard_dns (probe : Text → Text → ProbeResult) (loaded : Int) :
    (adminDashboard probe ttl loaded (s.listAgents rfc read)
        (s.listRoutesAdmin rfc ttl now)).routes.map (fun view =>
      DnsRoute.mk view.hostname view.tailscaleIpv4) = s.activeDnsRoutes rfc ttl now := by
  rw [adminDashboard, List.map_map]
  exact listRoutesAdmin_dns

/-- No row of the dashboard is stale, nor is its agent: the page read the clock before
it listed the routes. -/
theorem adminDashboard_healthy (probe : Text → Text → ProbeResult) {loaded : Int}
    (before : loaded ≤ now) {view : AdminRouteHealthView}
    (shown : view ∈ (adminDashboard probe ttl loaded (s.listAgents rfc read)
      (s.listRoutesAdmin rfc ttl now)).routes) :
    view.registration = .healthy ∧
      ∃ agent ∈ (adminDashboard probe ttl loaded (s.listAgents rfc read)
          (s.listRoutesAdmin rfc ttl now)).agents,
        agent.agentId = view.agentId ∧ agent.tailscaleIpv4 = view.tailscaleIpv4 ∧
          agent.status = .healthy := by
  obtain ⟨row, listed, rfl⟩ := List.mem_map.mp shown
  obtain ⟨agent, seen, known, address, parsed, alive, expires⟩ :=
    of_mem_listRoutesAdmin read listed
  refine ⟨?_, ?_⟩
  · have later : loaded < row.leaseExpiresAt := by omega
    simp only [adminRouteHealthView, if_pos later]
  · have record : rowToAgent rfc read row.agentId agent ∈ s.listAgents rfc read :=
      mem_listAgents.mpr ⟨agent, known, rfl⟩
    refine ⟨_, List.mem_map_of_mem record, rfl, address.symm, ?_⟩
    have fresh : loaded - seen < ttl := by omega
    simp only [adminAgentView, rowToAgent, parsed, if_pos fresh]

end Routes

/-! ## Discovery -/

/-- `serde_json` on lists of discovered containers. -/
structure ServicesJson where
  toText : List DiscoveredContainerDto → Text
  fromText : Text → Option (List DiscoveredContainerDto)

structure AdminDiscoveryItem where
  agentId : Text
  agentName : Text
  tailscaleIpv4 : Text
  identityKey : Text
  containerId : Text
  containerName : Text
  image : Text
  suggestedBackend : Option Text
  publishedPorts : List UInt16
  exposedPorts : List UInt16
  hasTailsvcLabels : Bool
  enabled : Bool
  enabledId : Option Text
  hostnames : List Text
  backend : Option Text
  discoveryUpdatedAt : Option Text
deriving DecidableEq

/-- The enable state of an item: nothing unless the intent is enabled. -/
def enabledState (json : JsonTexts) :
    Option EnabledServiceRecord → Bool × Option Text × List Text × Option Text
  | some e =>
      if e.enabled then (true, some e.id, (json.fromText e.hostnamesJson).getD [], some e.backend)
      else (false, none, [], none)
  | none => (false, none, [], none)

/-- One item of the page, from the agent's record, the intent and the reported
container. -/
def discoveryItem (json : JsonTexts) (record : Option AgentRecord)
    (intent : Option EnabledServiceRecord) (agentId updatedAt : Text) (s : DiscoveredContainerDto) :
    AdminDiscoveryItem :=
  let (enabled, enabledId, hostnames, backend) := enabledState json intent
  { agentId := agentId
    agentName := (record.map AgentRecord.displayName).getD agentId
    tailscaleIpv4 := (record.map AgentRecord.tailscaleIpv4).getD []
    identityKey := s.identityKey
    containerId := s.containerId
    containerName := s.containerName
    image := s.image
    suggestedBackend := s.suggestedBackend
    publishedPorts := s.publishedPorts
    exposedPorts := s.exposedPorts
    hasTailsvcLabels := s.hasTailsvcLabels
    enabled := enabled
    enabledId := enabledId
    hostnames := hostnames
    backend := backend
    discoveryUpdatedAt := some updatedAt }

/-- The order of the page: by agent name, then by container name. -/
def ItemLe (a b : AdminDiscoveryItem) : Prop :=
  PairLe (a.agentName, a.containerName) (b.agentName, b.containerName)

instance : DecidableRel ItemLe := fun a b =>
  inferInstanceAs (Decidable (PairLe (a.agentName, a.containerName) (b.agentName, b.containerName)))

/-- The items of one snapshot, in the order of the report. -/
def snapshotItems (json : JsonTexts) (services : ServicesJson) (agents : List AgentRecord)
    (enabled : List EnabledServiceRecord) (snap : Text × SnapshotRow) : List AdminDiscoveryItem :=
  ((services.fromText snap.2.payloadJson).getD []).map fun s =>
    discoveryItem json ((byAgent agents id).find? snap.1)
      ((EnabledServices.byPair enabled).find? (snap.1, s.identityKey)) snap.1 snap.2.updatedAt s

/-- `admin_discovery` once it has its three lists. -/
def adminDiscoveryItems (json : JsonTexts) (services : ServicesJson) (agents : List AgentRecord)
    (enabled : List EnabledServiceRecord) (snaps : List (Text × SnapshotRow)) :
    List AdminDiscoveryItem :=
  (snaps.flatMap (snapshotItems json services agents enabled)).insertionSort ItemLe

/-- The page of a database whose three lists were read at one point. -/
def discoveryPage (json : JsonTexts) (services : ServicesJson) (rfc : Rfc3339) (now : Int)
    (db : Database) : List AdminDiscoveryItem :=
  adminDiscoveryItems json services (db.store.listAgents rfc now)
    db.enabledServices.listAllEnabled db.listDiscoverySnapshots

section Discovery

variable {json : JsonTexts} {services : ServicesJson} {rfc : Rfc3339} {now : Int} {db : Database}

theorem pairLe_total (a b : Text × Text) : PairLe a b ∨ PairLe b a := by
  unfold PairLe
  rcases lt_trichotomy a.1 b.1 with below | same | above
  · exact Or.inl (Or.inl below)
  · rcases le_total a.2 b.2 with first | second
    · exact Or.inl (Or.inr ⟨same, first⟩)
    · exact Or.inr (Or.inr ⟨same.symm, second⟩)
  · exact Or.inr (Or.inl above)

theorem pairLe_trans {a b c : Text × Text} (first : PairLe a b) (second : PairLe b c) :
    PairLe a c := by
  unfold PairLe at *
  rcases first with below | ⟨same, le⟩
  · rcases second with below' | ⟨same', -⟩
    · exact Or.inl (below.trans below')
    · exact Or.inl (same' ▸ below)
  · rcases second with below' | ⟨same', le'⟩
    · exact Or.inl (same ▸ below')
    · exact Or.inr ⟨same.trans same', le.trans le'⟩

theorem adminDiscoveryItems_sorted (agents : List AgentRecord) (enabled : List EnabledServiceRecord)
    (snaps : List (Text × SnapshotRow)) :
    (adminDiscoveryItems json services agents enabled snaps).Pairwise ItemLe := by
  have : Std.Total ItemLe := ⟨fun a b => pairLe_total _ _⟩
  have : IsTrans AdminDiscoveryItem ItemLe := ⟨fun _ _ _ first second => pairLe_trans first second⟩
  exact List.pairwise_insertionSort ItemLe _

/-- An item of the page comes from the snapshot of its agent. -/
theorem mem_discoveryPage {item : AdminDiscoveryItem} :
    item ∈ discoveryPage json services rfc now db ↔
      ∃ agentId row, db.discoverySnapshots.find? agentId = some row ∧
        item ∈ snapshotItems json services (db.store.listAgents rfc now)
          db.enabledServices.listAllEnabled (agentId, row) := by
  rw [discoveryPage, adminDiscoveryItems, List.mem_insertionSort, List.mem_flatMap]
  simp only [Prod.exists, Database.mem_listDiscoverySnapshots]

/-- The enable state that the page shows for a pair is the one the agent is told. -/
theorem enabledState_desired (json : JsonTexts) (t : EnabledServices) (agentId identityKey : Text) :
    enabledState json ((EnabledServices.byPair t.listAllEnabled).find? (agentId, identityKey)) =
      match (desiredServices json t agentId).find? fun d => d.identityKey == identityKey with
      | some d => (true, some d.id, d.hostnames, some d.backend)
      | none => (false, none, [], none) := by
  rw [EnabledServices.find?_byPair, desiredServices, List.find?_map]
  cases found : t.rows.find? (agentId, identityKey) with
  | none =>
      have absent : (t.listEnabledForAgent agentId).find?
          ((fun d => d.identityKey == identityKey) ∘ desiredService json) = none := by
        rw [List.find?_eq_none]
        intro record listed same
        obtain ⟨row, stored, -, -⟩ := EnabledServices.mem_listEnabledForAgent.mp listed
        have key : record.identityKey = identityKey := by simpa [desiredService] using same
        rw [key, found] at stored
        cases stored
      rw [absent]
      rfl
  | some row =>
      by_cases enabled : row.enabled = true
      · have search := EnabledServices.find?_listEnabledForAgent found enabled
        have same : ((fun d : DesiredEnabledService => d.identityKey == identityKey) ∘
            desiredService json) = fun record => record.identityKey == identityKey := rfl
        rw [same, search]
        simp only [Option.map_some, enabledState, EnabledServices.rowToEnabled, enabled, if_true,
          desiredService]
      · have absent : (t.listEnabledForAgent agentId).find?
            ((fun d => d.identityKey == identityKey) ∘ desiredService json) = none := by
          rw [List.find?_eq_none]
          intro record listed same
          obtain ⟨row', stored, enabled', -⟩ := EnabledServices.mem_listEnabledForAgent.mp listed
          have key : record.identityKey = identityKey := by simpa [desiredService] using same
          rw [key, found] at stored
          cases stored
          exact enabled enabled'
        rw [absent]
        simp only [Option.map_some, enabledState, EnabledServices.rowToEnabled, enabled,
          Bool.false_eq_true, if_false, Option.map_none]

/-- The items of other agents, out of the items of all snapshots. -/
theorem filter_snapshotItems (agents : List AgentRecord) (enabled : List EnabledServiceRecord)
    (snaps : List (Text × SnapshotRow)) (agentId : Text) :
    (snaps.flatMap (snapshotItems json services agents enabled)).filter
        (fun item => decide (item.agentId ≠ agentId)) =
      (snaps.filter fun snap => decide (snap.1 ≠ agentId)).flatMap
        (snapshotItems json services agents enabled) := by
  induction snaps with
  | nil => rfl
  | cons snap rest ih =>
      have own : ∀ item ∈ snapshotItems json services agents enabled snap,
          item.agentId = snap.1 := by
        intro item listed
        obtain ⟨s, -, rfl⟩ := List.mem_map.mp listed
        rfl
      rw [List.flatMap_cons, List.filter_append, ih]
      by_cases same : snap.1 = agentId
      · have gone : (snapshotItems json services agents enabled snap).filter
            (fun item => decide (item.agentId ≠ agentId)) = [] := by
          rw [List.filter_eq_nil_iff]
          intro item listed
          simp [own item listed, same]
        rw [gone, List.nil_append, List.filter_cons_of_neg (by simp [same])]
      · have kept : (snapshotItems json services agents enabled snap).filter
            (fun item => decide (item.agentId ≠ agentId)) =
              snapshotItems json services agents enabled snap := by
          rw [List.filter_eq_self]
          intro item listed
          simp [own item listed, same]
        rw [kept, List.filter_cons_of_pos (by simp [same]), List.flatMap_cons]

/-- **A report replaces the agent's part of the page** and leaves the rest. -/
theorem discoveryPage_report (json : JsonTexts) (rfc : Rfc3339) (now : Int) {db' : Database}
    {at_ : Int} {agentId : Text} {reported : List DiscoveredContainerDto}
    (stored : db.putDiscoverySnapshot at_ agentId (services.toText reported) = .ok db')
    (readsBack : services.fromText (services.toText reported) = some reported) :
    (discoveryPage json services rfc now db').Perm
      (reported.map (fun s =>
          discoveryItem json ((byAgent (db.store.listAgents rfc now) id).find? agentId)
            ((EnabledServices.byPair db.enabledServices.listAllEnabled).find?
              (agentId, s.identityKey)) agentId (toRfc3339 at_) s) ++
        (discoveryPage json services rfc now db).filter
          fun item => decide (item.agentId ≠ agentId)) := by
  obtain ⟨-, rfl⟩ := Database.of_putDiscoverySnapshot stored
  have snaps := (List.perm_insertionSort (fun a b : Text × SnapshotRow => a.1 ≤ b.1) _).trans
    (db.discoverySnapshots.rows_upsert_perm agentId ⟨services.toText reported, toRfc3339 at_⟩)
  have sorted := List.perm_insertionSort (fun a b : Text × SnapshotRow => a.1 ≤ b.1)
    db.discoverySnapshots.rows
  refine (List.perm_insertionSort ItemLe _).trans ((snaps.flatMap_right _).trans ?_)
  rw [List.flatMap_cons, ← filter_snapshotItems]
  apply List.Perm.append
  · simp only [snapshotItems, readsBack, Option.getD_some, List.Perm.refl]
  · exact ((sorted.flatMap_right _).symm.trans (List.perm_insertionSort ItemLe _).symm).filter _

end Discovery

/-! ## Reports as texts -/

/-- An optional text, marked if it is there. -/
def optionText : Option Text → Text
  | none => []
  | some text => '+' :: text

def textOption : Text → Option Text
  | [] => none
  | _ :: text => some text

/-- Each port as its two bytes. -/
def portsText (ports : List UInt16) : Text :=
  ports.flatMap fun port => [Char.ofNat (port.toNat / 256), Char.ofNat (port.toNat % 256)]

def textPorts : Text → List UInt16
  | high :: low :: rest => UInt16.ofNat (high.toNat * 256 + low.toNat) :: textPorts rest
  | _ => []

/-- The fields of a container, in order. -/
def containerTexts (s : DiscoveredContainerDto) : List Text :=
  [s.identityKey, s.containerId, s.containerName, s.image, optionText s.networkMode,
    optionText s.suggestedBackend, portsText s.publishedPorts, portsText s.exposedPorts,
    optionText s.composeProject, optionText s.composeService,
    if s.hasTailsvcLabels then ['+'] else []]

def textsContainer : List Text → Option DiscoveredContainerDto
  | [identityKey, containerId, containerName, image, networkMode, suggestedBackend,
      publishedPorts, exposedPorts, composeProject, composeService, labels] =>
      some ⟨identityKey, containerId, containerName, image, textOption networkMode,
        textOption suggestedBackend, textPorts publishedPorts, textPorts exposedPorts,
        textOption composeProject, textOption composeService, !labels.isEmpty⟩
  | _ => none

/-- A codec to run concrete reports with: a container is the quoted list of its fields, and
a report the quoted list of these. -/
def quotedServices : ServicesJson where
  toText := fun services => quoteTexts (services.map fun s => quoteTexts (containerTexts s))
  fromText := fun text =>
    (unquoteTexts false [] text).bind fun containers =>
      containers.mapM fun fields => (unquoteTexts false [] fields).bind textsContainer

theorem textOption_optionText (text : Option Text) : textOption (optionText text) = text := by
  cases text <;> rfl

theorem textPorts_portsText (ports : List UInt16) : textPorts (portsText ports) = ports := by
  induction ports with
  | nil => rfl
  | cons port ports ih =>
      have bound : port.toNat < 65536 := port.toNat_lt
      have byte : ∀ n < 256, (Char.ofNat n).toNat = n := by
        intro n small
        rw [Char.toNat_ofNat, if_pos (Or.inl (by omega))]
      have bytes : port.toNat / 256 * 256 + port.toNat % 256 = port.toNat := by omega
      simp only [portsText, List.flatMap_cons, List.cons_append, List.nil_append, textPorts]
      rw [byte _ (by omega), byte _ (by omega), bytes, UInt16.ofNat_toNat]
      exact congrArg _ ih

theorem textsContainer_containerTexts (s : DiscoveredContainerDto) :
    textsContainer (containerTexts s) = some s := by
  have labels : (!(if s.hasTailsvcLabels then ['+'] else ([] : Text)).isEmpty) =
      s.hasTailsvcLabels := by
    cases s.hasTailsvcLabels <;> rfl
  simp only [textsContainer, containerTexts, textOption_optionText, textPorts_portsText, labels]

/-- Every report is read back as it was written. -/
theorem quotedServices_readsBack (services : List DiscoveredContainerDto) :
    quotedServices.fromText (quotedServices.toText services) = some services := by
  simp only [quotedServices, unquoteTexts_quoteTexts, Option.bind_some, List.mapM_map]
  induction services with
  | nil => rfl
  | cons s services ih =>
      simp [List.mapM_cons, unquoteTexts_quoteTexts, textsContainer_containerTexts, ih]

end Tailroute.Controller
