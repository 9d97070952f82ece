/-
# Fleet.ClickToRoute — from a reported container to its route

An agent reports the containers it sees, each with a backend it suggests. The admin page
shows the report, the admin enables a container with the suggested backend, the agent asks
for its intents and routes their hostnames. On the way the backend is written as a URL and
read again three times: by the enable handler, from what that stores, and by the agent.

`suggestion_is_routed` follows it from end to end. The request passes its checks if its
hostnames do and the port is not 0, and then the next reconcile of the agent routes each
hostname to the suggested backend, whatever other requests changed meanwhile, unless a
static route or another intent has the hostname.
-/
import Tailroute.Agent.Precedence
import Tailroute.Controller.AdminViews
import Tailroute.Docker.BackendUrl
import Tailroute.Docker.CandidateList

namespace Tailroute.Fleet

open Tailroute.Theory Tailroute.Common Tailroute.Storage Tailroute.Controller Tailroute.Docker
  Tailroute.Agent Tailroute.Proxy

set_option autoImplicit false

/-! ## The suggested URL -/

section Url

variable {parseUrl : UrlParser} {b : Backend}

theorem suggestedUrl_eq (b : Backend) : suggestedUrl b = hostUrl (written b.host) b.port [] := by
  have solid : ∀ c ∈ Nat.toDigits 10 b.port.toNat, c ≠ '/' := by
    intro c member
    rintro rfl
    exact absurd (Nat.isDigit_of_mem_toDigits (by decide) (by decide) member) (by decide)
  have slashed : b.baseUrl = hostUrl (written b.host) b.port [] ++ ['/'] := by
    rw [baseUrl_eq]
    simp [hostUrl]
  rw [suggestedUrl, slashed, trimEndMatches, List.rdropWhile_concat_pos _ _ _ (by simp),
    List.rdropWhile_eq_self_iff]
  intro nonempty
  have last : (hostUrl (written b.host) b.port []).getLast nonempty ∈
      Nat.toDigits 10 b.port.toNat := by
    simp only [hostUrl, List.append_nil]
    rw [List.getLast_append_of_ne_nil _ (by simp), List.getLast_append_of_ne_nil _ (by simp),
      List.getLast_cons (by simp)]
    exact List.getLast_mem _
  simpa using solid _ last

/-- The suggestion is accepted unless its port is 0, and stored as the same URL. -/
theorem parse_suggestedUrl (serializes : Serializes parseUrl)
    (serialized : Serialized parseUrl (written b.host)) :
    parseBackendUrl parseUrl (suggestedUrl b) =
      if b.port = 0 then .error (.invalidBackend "invalid port".toList)
      else .ok ⟨written b.host, b.port⟩ := by
  rw [suggestedUrl_eq, parseBackendUrl_hostUrl serializes serialized b.port (by simp)]

theorem stored_suggestedUrl (serializes : Serializes parseUrl)
    (serialized : Serialized parseUrl (written b.host)) :
    "http://".toList ++ (⟨written b.host, b.port⟩ : Backend).authority = suggestedUrl b := by
  rw [http_authority_eq, suggestedUrl_eq, written_of_serialized serializes serialized]

theorem authority_written (serializes : Serializes parseUrl)
    (serialized : Serialized parseUrl (written b.host)) :
    (⟨written b.host, b.port⟩ : Backend).authority = b.authority := by
  rw [authority_eq, authority_eq, written_of_serialized serializes serialized]

end Url

/-! ## The page and the request -/

section Enable

variable {env : EnableEnv} {b : Backend}

/-- What becomes of a request with the suggested backend: only hostnames and a port 0
stop it. -/
theorem checkEnable_suggestion (serializes : Serializes env.parseUrl)
    (serialized : Serialized env.parseUrl (written b.host)) (nonzero : b.port ≠ 0)
    {agentId identityKey : Text} {name : Option Text} {hostnames hosts : List Text}
    (some_ : hostnames ≠ []) (checked : checkHostnames env hostnames = .ok hosts) :
    checkEnable env ⟨agentId, identityKey, name, hostnames, suggestedUrl b⟩ =
      .ok ⟨name, hosts, suggestedUrl b⟩ := by
  have parsed := parse_suggestedUrl serializes serialized
  rw [if_neg nonzero] at parsed
  simp only [checkEnable, if_neg some_, checked, parsed]
  rw [stored_suggestedUrl serializes serialized]

theorem of_checkEnable_suggestion (serializes : Serializes env.parseUrl)
    (serialized : Serialized env.parseUrl (written b.host)) {agentId identityKey : Text}
    {name : Option Text} {hostnames : List Text} {intent : Intent}
    (passed : checkEnable env ⟨agentId, identityKey, name, hostnames, suggestedUrl b⟩ =
      .ok intent) :
    b.port ≠ 0 ∧ checkHostnames env hostnames = .ok intent.hostnames ∧
      intent.backend = suggestedUrl b := by
  have parsed := parse_suggestedUrl serializes serialized
  unfold checkEnable at passed
  dsimp only at passed
  split at passed
  · cases passed
  · cases checked : checkHostnames env hostnames with
    | error e =>
        rw [checked] at passed
        cases passed
    | ok hosts =>
        by_cases zero : b.port = 0
        · rw [checked, parsed, if_pos zero] at passed
          cases passed
        · rw [checked, parsed, if_neg zero] at passed
          cases passed
          exact ⟨zero, rfl, stored_suggestedUrl serializes serialized⟩

/-- An intent of the agent is known by its identity key. -/
theorem desired_unique {json : JsonTexts} {t : EnabledServices} {agentId : Text}
    {d d' : DesiredEnabledService} (listed : d ∈ desiredServices json t agentId)
    (listed' : d' ∈ desiredServices json t agentId) (same : d'.identityKey = d.identityKey) :
    d' = d := by
  have distinct : ((desiredServices json t agentId).map
      DesiredEnabledService.identityKey).Nodup := by
    rw [desiredServices, List.map_map]
    exact t.listEnabledForAgent_nodup agentId
  exact List.inj_on_of_nodup_map distinct listed' listed same

/-- An item of the page that offers a backend comes from a reported container. -/
theorem candidate_of_item {json : JsonTexts} {services : ServicesJson} {rfc : Rfc3339} {now : Int}
    {db : Database} {idna : Idna} {parseUrl : UrlParser} {containers : List ListedCandidate}
    {agentId updatedAt : Text}
    (reported : db.discoverySnapshots.find? agentId =
      some ⟨services.toText (report idna parseUrl containers), updatedAt⟩)
    (readsBack : services.fromText (services.toText (report idna parseUrl containers)) =
      some (report idna parseUrl containers))
    {item : AdminDiscoveryItem} (shown : item ∈ discoveryPage json services rfc now db)
    (own : item.agentId = agentId) {url : Text} (suggested : item.suggestedBackend = some url) :
    ∃ c ∈ listCandidates idna parseUrl containers, ∃ b, c.suggestedBackend = some b ∧
      item.identityKey = c.identityKey ∧ item.containerId = c.containerId ∧
      url = suggestedUrl b := by
  obtain ⟨agent, row, found, listed⟩ := mem_discoveryPage.mp shown
  obtain ⟨s, member, rfl⟩ := List.mem_map.mp listed
  obtain rfl : agent = agentId := own
  rw [reported] at found
  cases found
  rw [readsBack, Option.getD_some] at member
  obtain ⟨c, candidate, rfl⟩ := List.mem_map.mp member
  obtain ⟨b, offered, same⟩ := Option.map_eq_some_iff.mp
    (suggested : c.suggestedBackend.map suggestedUrl = some url)
  exact ⟨c, candidate, b, offered, rfl, rfl, same.symm⟩

end Enable

/-! ## The route -/

section Route

variable {idna : Idna} {parseUrl : UrlParser}

/-- A hostname that one intent alone has is routed as that intent says. -/
theorem route_of_intent {run : AgentRun} {round : Round} {services : List DiscoveredService}
    {desired : List DesiredEnabledService} (succeeds : Succeeds round services desired)
    {d : DesiredEnabledService} (listed : d ∈ desired) {host : Text} (named : host ∈ d.hostnames)
    {backend : Backend} (parsed : parseBackendUrl parseUrl d.backend = .ok backend)
    (unstatic : NoneGives (StaticGives idna parseUrl host) run.staticRoutes)
    (alone : ∀ d' ∈ desired, host ∈ d'.hostnames → d' = d) :
    (reconcileOnce idna parseUrl run round).2.1.routes.find? host =
      some (intentRoute d backend) := by
  have none_ : lastSome (run.staticRoutes.map (staticRoute idna parseUrl host)) = none :=
    (lastSome_map_eq_none_iff staticRoute_eq_some).mpr unstatic
  have gives : desiredRoute parseUrl host d = some (intentRoute d backend) :=
    (desiredRoute_eq_some d _).mpr ⟨backend, parsed, named, rfl⟩
  cases last : lastSome (desired.map (desiredRoute parseUrl host)) with
  | none =>
      have absent := (lastSome_map_eq_none_iff desiredRoute_eq_some).mp last
      exact absurd ((desiredRoute_eq_some d _).mp gives) (absent d listed _)
  | some route =>
      obtain ⟨d', listed', given⟩ := List.mem_map.mp (mem_of_lastSome last)
      obtain ⟨_, -, named', -⟩ := (desiredRoute_eq_some d' route).mp given
      rw [alone d' listed' named', gives] at given
      rw [succeeds.find?, none_, last, ← given]
      rfl

/-- The hostnames of a request that passed are the normalized ones. -/
theorem mem_checkHostnames {env : EnableEnv} {raws hosts : List Text}
    (checked : checkHostnames env raws = .ok hosts) :
    ∀ raw ∈ raws, ∃ name, normalizeHostname env.idna raw = .ok name ∧ name.text ∈ hosts := by
  induction raws generalizing hosts with
  | nil =>
      intro raw member
      cases member
  | cons first rest ih =>
      rw [checkHostnames] at checked
      cases normalized : normalizeHostname env.idna first with
      | error e =>
          rw [normalized] at checked
          cases checked
      | ok name =>
          rw [normalized] at checked
          dsimp only at checked
          split at checked
          · cases checked
          · cases later : checkHostnames env rest with
            | error e =>
                rw [later] at checked
                cases checked
            | ok tail =>
                rw [later] at checked
                cases checked
                intro raw member
                rcases List.mem_cons.mp member with rfl | member
                · exact ⟨name, normalized, List.mem_cons_self⟩
                · obtain ⟨name', normalized', inTail⟩ := ih later raw member
                  exact ⟨name', normalized', List.mem_cons_of_mem _ inTail⟩

end Route

/-- **What the page suggests is what the agent routes.** Whatever the database, an item of
the discovery page that offers a backend is a container of the agent's report with that
backend suggested. Enabled with it, the container has its hostnames routed there by the
next reconcile: the request passes its checks if its hostnames do and the port is not 0, and
while the pair's row stays as it was left, every successful reconcile routes each hostname
that no static route and no other intent has. -/
theorem suggestion_is_routed (env : EnableEnv) (services : ServicesJson)
    (serializes : Serializes env.parseUrl)
    (hostsRead : ∀ hosts, env.json.fromText (env.json.toText hosts) = some hosts)
    {db : Database} {rfc : Rfc3339} {now : Int} {containers : List ListedCandidate}
    {agentId updatedAt : Text}
    (reported : db.discoverySnapshots.find? agentId =
      some ⟨services.toText (report env.idna env.parseUrl containers), updatedAt⟩)
    (readsBack : services.fromText (services.toText (report env.idna env.parseUrl containers)) =
      some (report env.idna env.parseUrl containers))
    {item : AdminDiscoveryItem} (shown : item ∈ discoveryPage env.json services rfc now db)
    (own : item.agentId = agentId) {url : Text} (suggested : item.suggestedBackend = some url) :
    ∃ c ∈ listCandidates env.idna env.parseUrl containers, ∃ b, c.suggestedBackend = some b ∧
      item.identityKey = c.identityKey ∧ item.containerId = c.containerId ∧
      (Serialized env.parseUrl (written b.host) → ∀ name hostnames,
        let body : EnableServiceRequest := ⟨agentId, item.identityKey, name, hostnames, url⟩
        (∀ hosts, hostnames ≠ [] → checkHostnames env hostnames = .ok hosts → b.port ≠ 0 →
          checkEnable env body = .ok ⟨name, hosts, url⟩) ∧
        ∀ t known at_ token response t',
          Controller.adminEnableService env t true known at_ token body = (.ok response, t') →
          ∀ t'' : EnabledServices, t''.rows.find? (agentId, item.identityKey) =
              t'.rows.find? (agentId, item.identityKey) →
          ∀ run round listed, Succeeds round listed (desiredServices env.json t'' agentId) →
          ∀ raw ∈ hostnames, ∃ host, normalizeHostname env.idna raw = .ok host ∧
            (NoneGives (StaticGives env.idna env.parseUrl host.text) run.staticRoutes →
              (∀ d ∈ desiredServices env.json t'' agentId, host.text ∈ d.hostnames →
                d.identityKey = item.identityKey) →
              ∃ route, (reconcileOnce env.idna env.parseUrl run round).2.1.routes.find? host.text =
                  some route ∧ route.backend.authority = b.authority)) := by
  obtain ⟨c, candidate, b, offered, identity, id, rfl⟩ :=
    candidate_of_item reported readsBack shown own suggested
  refine ⟨c, candidate, b, offered, identity, id, ?_⟩
  intro serialized name hostnames body
  refine ⟨fun hosts some_ checked nonzero =>
    checkEnable_suggestion serializes serialized nonzero some_ checked, ?_⟩
  intro t known at_ token response t' answered t'' kept run round listed succeeds raw member
  obtain ⟨e, refused⟩ | ⟨_, _, intent, row, passed, enabled⟩ :=
    adminEnableService_cases env t true known at_ token body
  · rw [refused] at answered
    cases answered
  · rw [passed] at answered
    cases answered
    obtain ⟨nonzero, checked, stored⟩ :=
      of_checkEnable_suggestion serializes serialized enabled.checked
    obtain ⟨host, normalized, inHosts⟩ := mem_checkHostnames checked raw member
    refine ⟨host, normalized, fun unstatic alone => ?_⟩
    -- the agent is told the intent as it was stored
    have told : desiredService env.json
        (EnabledServices.rowToEnabled (agentId, item.identityKey) row) ∈
          desiredServices env.json t'' agentId :=
      List.mem_map_of_mem (EnabledServices.mem_listEnabledForAgent.mpr
        ⟨row, kept.trans enabled.found, enabled.enabled, rfl⟩)
    have named : host.text ∈ (desiredService env.json
        (EnabledServices.rowToEnabled (agentId, item.identityKey) row)).hostnames := by
      simp only [desiredService, EnabledServices.rowToEnabled, enabled.hostnames, hostsRead,
        Option.getD_some]
      exact inHosts
    have parsed : parseBackendUrl env.parseUrl (desiredService env.json
        (EnabledServices.rowToEnabled (agentId, item.identityKey) row)).backend =
          .ok ⟨written b.host, b.port⟩ := by
      simp only [desiredService, EnabledServices.rowToEnabled, enabled.backend, stored]
      rw [parse_suggestedUrl serializes serialized, if_neg nonzero]
    have routed := route_of_intent succeeds told named parsed unstatic
      fun d' listed' named' => desired_unique told listed' (alone d' listed' named')
    exact ⟨_, routed, authority_written serializes serialized⟩

/-! ## One container -/

def strictEnable : EnableEnv := { plainEnable with parseUrl := strictUrl }

/-- The agent sees one container, published on port 8080. -/
def oneContainer : List ListedCandidate := [⟨some "c1".toList, .ok (publishedWeb [overIpv4])⟩]

/-- The database with the report of that container. -/
def reportedDatabase : Database :=
  ⟨.empty, Table.empty.upsert "agt_a".toList
    ⟨quotedServices.toText (report asciiIdna strictUrl oneContainer), []⟩, .empty⟩

def enableShop : EnableServiceRequest :=
  ⟨"agt_a".toList, "name:web".toList, none, ["Shop".toList], "http://127.0.0.1:8080".toList⟩

/-- The container is enabled as the page suggests and routed under the hostname. -/
theorem suggestion_is_routed_shop :
    ∃ t' round route,
      Controller.adminEnableService strictEnable .empty true true 0 "1".toList enableShop =
        (.ok ⟨"en_1".toList⟩, t') ∧
      round.desiredServices = .ok (desiredServices strictEnable.json t' "agt_a".toList) ∧
      (reconcileOnce asciiIdna strictUrl freshAgent round).2.1.routes.find? "shop".toList =
        some route ∧ route.backend.authority = "127.0.0.1:8080".toList := by
  obtain ⟨item, shown, own, key, suggested⟩ : ∃ item ∈ discoveryPage strictEnable.json quotedServices
      layoutParser 0 reportedDatabase, item.agentId = "agt_a".toList ∧
        item.identityKey = "name:web".toList ∧
        item.suggestedBackend = some "http://127.0.0.1:8080".toList := by
    decide +kernel
  have published : ((listCandidates asciiIdna strictUrl oneContainer).all fun c =>
      decide (c.suggestedBackend = some ⟨"127.0.0.1".toList, 8080⟩)) = true := by
    decide +kernel
  have answered : (Controller.adminEnableService strictEnable .empty true true 0 "1".toList
      enableShop).1 = .ok ⟨"en_1".toList⟩ := by
    decide +kernel
  obtain ⟨c, candidate, b, offered, -, -, follows⟩ := suggestion_is_routed strictEnable quotedServices
    strictUrl_serializes unquoteTexts_quoteTexts rfl (quotedServices_readsBack _) shown own
    suggested
  have backend := of_decide_eq_true (List.all_eq_true.mp published c candidate)
  rw [offered] at backend
  cases backend
  have enabled := Prod.ext answered
    (rfl : (Controller.adminEnableService strictEnable .empty true true 0 "1".toList
      enableShop).2 = _)
  rw [key] at follows
  obtain ⟨-, routes⟩ := follows strictUrl_serializes.loopback none ["Shop".toList]
  obtain ⟨host, normalized, routed⟩ := routes _ _ _ _ _ _ enabled _ rfl freshAgent
    (bareRound (.ok _) (.ok ⟨[], []⟩)) [] ⟨rfl, rfl, rfl, ⟨_, rfl⟩, rfl⟩ "Shop".toList
    (List.mem_singleton_self _)
  have text : (normalizeHostname asciiIdna "Shop".toList).map NormalizedHostname.text =
      .ok "shop".toList := by
    decide +kernel
  have same : host.text = "shop".toList := by
    rw [show normalizeHostname asciiIdna "Shop".toList = .ok host from normalized] at text
    exact Except.ok.inj text
  have single : ((desiredServices strictEnable.json (Controller.adminEnableService strictEnable
      .empty true true 0 "1".toList enableShop).2 "agt_a".toList).all fun d =>
        decide (d.identityKey = "name:web".toList)) = true := by
    decide +kernel
  obtain ⟨route, found, authority⟩ := routed (fun _ listed => (nomatch listed))
    fun d listed _ => of_decide_eq_true (List.all_eq_true.mp single d listed)
  rw [same] at found
  exact ⟨_, _, route, enabled, rfl, found, authority⟩

end Tailroute.Fleet
