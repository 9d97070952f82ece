/-
# Controller.Served — handlers served alone

A handler that no other handler interrupts and whose statements all succeed computes a
function of the state it finds. For `put_routes` and the two click-to-enable handlers
that function is the one the earlier modules are about (`serve_putRoutes`,
`serve_adminEnable`, `serve_adminDisable`); the audit trail, which those leave out, grows
with each success of the latter two and only then.

The admin pages are read here too. Each of them shows what another part of the controller
decides: the route pages what DNS answers, the discovery page what agents are told to
serve and what they last reported.
-/
import Tailroute.Controller.Access
import Tailroute.Controller.PutHandler

namespace Tailroute.Controller

open Tailroute.Theory Tailroute.Common Tailroute.Storage Tailroute.Dns

set_option autoImplicit false

/-- Every statement succeeds. -/
def Faultless (clock : Nat → Moment StorageError) : Prop := ∀ n, (clock n).fault = none

/-- Each step comes after the one before. -/
def InTurn (clock : Nat → Moment StorageError) : Prop :=
  ∀ n, (clock n).last ≤ (clock (n + 1)).first

/-- The header carries an admin's credential. -/
def adminBears (env : ApiEnv) (t : Moment StorageError) (st : AppState)
    (authorization : Option Text) : Bool :=
  (bearerToken authorization).any fun token => Access.admin.admits env t st token

/-- The header carries the agent's credential. -/
def agentBears (env : ApiEnv) (t : Moment StorageError) (st : AppState) (agentId : Text)
    (authorization : Option Text) : Bool :=
  (bearerToken authorization).any fun token => (Access.agent agentId).admits env t st token

section Pieces

variable {env : ApiEnv} {clock : Nat → Moment StorageError} {st : AppState}

theorem Faultless.shift (clean : Faultless clock) : Faultless fun n => clock (n + 1) :=
  fun n => clean (n + 1)

theorem serve_selectThen (clean : Faultless clock)
    (next : Moment StorageError → AppState → ApiHandler) :
    (selectThen next).serve clock st = (next (clock 0) st).serve (fun n => clock (n + 1)) st := by
  simp only [selectThen, Handler.serve_read, clean 0]

theorem serve_writeThen (clean : Faultless clock)
    (write : Moment StorageError → AppState → Except StorageError AppState) (next : ApiHandler) :
    (writeThen write next).serve clock st =
      match write (clock 0) st with
      | .ok st' => next.serve (fun n => clock (n + 1)) st'
      | .error e => (.error (.storage e), st) := by
  simp only [writeThen, Handler.serve_step, attempted, clean 0]
  cases write (clock 0) st <;> rfl

theorem serve_writeAnyway (clean : Faultless clock)
    (write : Moment StorageError → AppState → AppState) (next : ApiHandler) :
    (writeAnyway write next).serve clock st =
      next.serve (fun n => clock (n + 1)) (write (clock 0) st) := by
  simp only [writeAnyway, Handler.serve_step, clean 0, Option.isSome_none, Bool.false_eq_true,
    if_false]

theorem serve_refreshThen (clean : Faultless clock) (a : Answer) :
    (refreshThen env a).serve clock st =
      (.ok a, { st with registry := refreshDns env.lease st.store (clock 0).last }) := by
  rw [refreshThen, serve_selectThen clean]
  rfl

/-- A check that passes changes sessions at most. -/
theorem serve_checkAdmin {authorization : Option Text}
    (good : adminBears env (clock 0) st authorization = true) (next : ApiHandler) :
    ∃ sessions, (checkAdmin env authorization next).serve clock st =
      next.serve (fun n => clock (n + 1)) { st with sessions := sessions } := by
  unfold checkAdmin
  cases bears : bearerToken authorization with
  | none =>
      rw [adminBears, bears] at good
      cases good
  | some token =>
      rw [adminBears, bears, Option.any_some, Access.admits] at good
      exact ⟨_, by rw [Handler.serve_step, if_pos good]⟩

theorem serve_checkAdmin_refused {authorization : Option Text}
    (bad : adminBears env (clock 0) st authorization = false) (next : ApiHandler) :
    ∃ sessions, (checkAdmin env authorization next).serve clock st =
      (.error .unauthorized, { st with sessions := sessions }) := by
  unfold checkAdmin
  cases bears : bearerToken authorization with
  | none => exact ⟨st.sessions, rfl⟩
  | some token =>
      rw [adminBears, bears, Option.any_some, Access.admits] at bad
      exact ⟨_, by rw [Handler.serve_step, if_neg (by rw [bad]; exact Bool.false_ne_true)]; rfl⟩

theorem serve_verifyThen (clean : Faultless clock) (agentId token : Text) (next : ApiHandler) :
    (verifyThen env agentId token next).serve clock st =
      match st.store.verifyAgentToken env.verifyToken agentId token with
      | .ok _ => next.serve (fun n => clock (n + 1)) st
      | .error _ => (.error .unauthorized, st) := by
  simp only [verifyThen, Handler.serve_read, clean 0]
  cases st.store.verifyAgentToken env.verifyToken agentId token <;> rfl

theorem serve_checkAgent (clean : Faultless clock) {agentId : Text} {authorization : Option Text}
    (good : agentBears env (clock 0) st agentId authorization = true) (next : ApiHandler) :
    (checkAgent env agentId authorization next).serve clock st =
      next.serve (fun n => clock (n + 1)) st := by
  unfold checkAgent
  cases bears : bearerToken authorization with
  | none =>
      rw [agentBears, bears] at good
      cases good
  | some token =>
      rw [agentBears, bears, Option.any_some, Access.admits] at good
      simp only [serve_verifyThen clean]
      cases verified : st.store.verifyAgentToken env.verifyToken agentId token with
      | error e =>
          rw [verified] at good
          cases good
      | ok _ => rfl

end Pieces

/-! ## Handlers as functions -/

section Functions

variable {env : ApiEnv} {clock : Nat → Moment StorageError} {st : AppState}

/-- `put_routes` alone is the handler of `Controller.PutHandler`. -/
theorem serve_putRoutes (clean : Faultless clock) (agentId : Text) (authorization : Option Text)
    (entries : List RouteEntry) :
    let served := putRoutesHandler env.lease st.store st.registry (clock 2).last (clock 3).last
      agentId authorization entries
    (handle env (.putRoutes agentId authorization entries)).serve clock st =
      (served.answer.map .routes, { st.setStore served.store with registry := served.registry }) := by
  simp only [handle, putRoutesApi, checkAgent, putRoutesHandler]
  cases bearerToken authorization with
  | none => rfl
  | some token =>
      have verify : env.lease.verifyToken = env.verifyToken := rfl
      simp only [serve_verifyThen clean, verify]
      cases st.store.verifyAgentToken env.verifyToken agentId token with
      | error e => rfl
      | ok _ =>
          have policy : env.lease.security = env.security := rfl
          simp only [allowedThen, policy]
          cases hostnamesAllowed env.security (entries.map RouteEntry.hostname) with
          | error message => rfl
          | ok _ =>
              simp only [getAgentThen, serve_selectThen clean.shift, Store.putRoutes]
              cases st.store.getAgent agentId with
              | error e => rfl
              | ok row =>
                  have ran : (clock 2).fault = none := clean 2
                  simp only [transactThen, Handler.serve_step, Nat.zero_add, Nat.reduceAdd, ran,
                    Option.isSome_none, Bool.false_eq_true, if_false,
                    serve_refreshThen clean.shift.shift.shift]
                  rfl

/-- The enable handler alone: the answer and the table of `adminEnableService`, and one
audit event if it succeeds. -/
theorem serve_adminEnable (clean : Faultless clock) (authorization : Option Text) (token : Text)
    (body : EnableServiceRequest) :
    let enabled := Controller.adminEnableService env.enable st.database.enabledServices
      (adminBears env (clock 0) st authorization) (decide (body.agentId ∈ st.store.agents.keys))
      (clock 1).last token body
    ∃ sessions, (handle env (.adminEnableService authorization token body)).serve clock st =
      (enabled.1.map .enabled,
        { st.setEnabled enabled.2 with
          sessions := sessions
          auditEvents :=
            match enabled.1, checkEnable env.enable body with
            | .ok _, .ok intent => audit st.auditEvents (clock 2).last "service_enable".toList
                (enableDetail body.identityKey intent.hostnames)
            | _, _ => st.auditEvents }) := by
  simp only [handle, adminEnableHandler]
  cases bears : adminBears env (clock 0) st authorization with
  | false =>
      obtain ⟨sessions, refused⟩ := serve_checkAdmin_refused bears _
      exact ⟨sessions, refused⟩
  | true =>
      obtain ⟨sessions, passed⟩ := serve_checkAdmin bears _
      refine ⟨sessions, passed.trans ?_⟩
      unfold Controller.adminEnableService
      cases checkEnable env.enable body with
      | error e => rfl
      | ok intent =>
          have json : env.enable.json = env.json := rfl
          simp only [serve_writeThen clean.shift, Bool.not_true, Bool.false_eq_true, if_false,
            Nat.zero_add, json]
          cases st.database.enabledServices.upsertEnabledService
              (decide (body.agentId ∈ st.store.agents.keys)) (clock 1).last (enabledId token)
              body.agentId body.identityKey intent.containerName (env.json.toText intent.hostnames)
              intent.backend with
          | error e => rfl
          | ok t =>
              simp only [Except.map, serve_writeAnyway clean.shift.shift,
                serve_selectThen clean.shift.shift.shift, Nat.zero_add, Nat.reduceAdd]
              rfl

/-- The disable handler alone. -/
theorem serve_adminDisable (clean : Faultless clock) (authorization : Option Text) (id : Text) :
    let disabled := Controller.adminDisableService st.database.enabledServices
      (adminBears env (clock 0) st authorization) (clock 1).last id
    ∃ sessions, (handle env (.adminDisableService authorization id)).serve clock st =
      (disabled.1.map fun _ => .noContent,
        { st.setEnabled disabled.2 with
          sessions := sessions
          auditEvents :=
            match disabled.1 with
            | .ok _ => audit st.auditEvents (clock 2).last "service_disable".toList id
            | .error _ => st.auditEvents }) := by
  simp only [handle, adminDisableHandler]
  cases bears : adminBears env (clock 0) st authorization with
  | false =>
      obtain ⟨sessions, refused⟩ := serve_checkAdmin_refused bears _
      exact ⟨sessions, refused⟩
  | true =>
      obtain ⟨sessions, passed⟩ := serve_checkAdmin bears _
      refine ⟨sessions, passed.trans ?_⟩
      unfold Controller.adminDisableService
      simp only [serve_writeThen clean.shift, Bool.not_true, Bool.false_eq_true, if_false,
        Nat.zero_add]
      cases st.database.enabledServices.setEnabledService (clock 1).last id false with
      | error e => rfl
      | ok t =>
          simp only [Except.map, serve_writeAnyway clean.shift.shift, Nat.zero_add, Nat.reduceAdd]
          rfl

end Functions

/-- A clock that stands still. -/
def stillClock (now : Int) : Nat → Moment StorageError := fun _ => .at now

/-! ## Pages -/

section Pages

variable {env : ApiEnv} {clock : Nat → Moment StorageError} {st : AppState}
  {authorization : Option Text}

theorem InTurn.le (inTurn : InTurn clock) (n : Nat) : (clock n).last ≤ (clock (n + 1)).last :=
  (inTurn n).trans (clock (n + 1)).ordered

/-- The route page lists the hostnames and addresses of `active_dns_routes`. -/
theorem serve_adminRoutes (clean : Faultless clock)
    (good : adminBears env (clock 0) st authorization = true) :
    ∃ views, ((handle env (.adminRoutes authorization)).serve clock st).1 = .ok (.adminRoutes views) ∧
      views.map (fun view => DnsRoute.mk view.hostname view.tailscaleIpv4) =
        st.store.activeDnsRoutes env.rfc env.ttl (clock 1).last := by
  obtain ⟨sessions, passed⟩ := serve_checkAdmin good
    (selectThen fun t st =>
      selectThen fun t' st' =>
        answerWith (.adminRoutes (adminRouteViews (st.store.listRoutesAdmin env.rfc env.ttl t.last)
          (st'.store.listAgents env.rfc t'.last))))
  refine ⟨adminRouteViews (st.store.listRoutesAdmin env.rfc env.ttl (clock 1).last)
    (st.store.listAgents env.rfc (clock 2).last), ?_, adminRouteViews_dns⟩
  refine (congrArg Prod.fst passed).trans ?_
  simp only [serve_selectThen clean.shift, serve_selectThen clean.shift.shift, Nat.zero_add,
    Nat.reduceAdd]
  rfl

/-- What the dashboard shows. -/
theorem serve_adminDashboard (clean : Faultless clock)
    (good : adminBears env (clock 0) st authorization = true) :
    ((handle env (.adminDashboard authorization)).serve clock st).1 =
      .ok (.dashboard (adminDashboard env.probe env.ttl (clock 1).last
        (st.store.listAgents env.rfc (clock 2).last)
        (st.store.listRoutesAdmin env.rfc env.ttl (clock 3).last))) := by
  obtain ⟨sessions, passed⟩ := serve_checkAdmin good
    (.read fun now _ =>
      selectThen fun t st =>
        selectThen fun t' st' =>
          answerWith (.dashboard (adminDashboard env.probe env.ttl now.last
            (st.store.listAgents env.rfc t.last)
            (st'.store.listRoutesAdmin env.rfc env.ttl t'.last))))
  refine (congrArg Prod.fst passed).trans ?_
  simp only [Handler.serve_read, serve_selectThen clean.shift.shift,
    serve_selectThen clean.shift.shift.shift, Nat.zero_add, Nat.reduceAdd]
  rfl

/-- **The route pages show what DNS answers.** Served without interruption and without
failures, the route page and the dashboard list the routes of `active_dns_routes` with
their addresses, in the same order; no row of the dashboard is stale, and the agent of each
row is listed as healthy. -/
theorem route_pages_show_dns (clean : Faultless clock) (inTurn : InTurn clock)
    (good : adminBears env (clock 0) st authorization = true) :
    (∃ views, ((handle env (.adminRoutes authorization)).serve clock st).1 =
        .ok (.adminRoutes views) ∧
      views.map (fun view => DnsRoute.mk view.hostname view.tailscaleIpv4) =
        st.store.activeDnsRoutes env.rfc env.ttl (clock 1).last) ∧
      ∃ dashboard, ((handle env (.adminDashboard authorization)).serve clock st).1 =
          .ok (.dashboard dashboard) ∧
        dashboard.routes.map (fun view => DnsRoute.mk view.hostname view.tailscaleIpv4) =
          st.store.activeDnsRoutes env.rfc env.ttl (clock 3).last ∧
        ∀ view ∈ dashboard.routes, view.registration = .healthy ∧
          ∃ agent ∈ dashboard.agents, agent.agentId = view.agentId ∧
            agent.tailscaleIpv4 = view.tailscaleIpv4 ∧ agent.status = .healthy := by
  refine ⟨serve_adminRoutes clean good, _, serve_adminDashboard clean good, ?_, ?_⟩
  · exact adminDashboard_dns env.probe (clock 1).last
  · intro view shown
    exact adminDashboard_healthy env.probe ((inTurn.le 1).trans (inTurn.le 2)) shown

theorem route_pages_show_dns_registered :
    ∃ views, ((handle plainApi (.adminRoutes (some "Bearer pw".toList))).serve
        (stillClock 7) twoAgents).1 = .ok (.adminRoutes views) ∧
      views.map (fun view => DnsRoute.mk view.hostname view.tailscaleIpv4) =
        [⟨"web".toList, "100.64.0.1".toList⟩] := by
  have bears : adminBears plainApi (stillClock 7 0) twoAgents (some "Bearer pw".toList) = true := by
    decide
  obtain ⟨⟨views, answered, shown⟩, -⟩ :=
    route_pages_show_dns (fun _ => rfl) (fun _ => le_refl _) bears
  exact ⟨views, answered, shown.trans (by decide)⟩

/-- The discovery page is that of the database. -/
theorem serve_adminDiscovery (clean : Faultless clock)
    (good : adminBears env (clock 0) st authorization = true) :
    ((handle env (.adminDiscovery authorization)).serve clock st).1 =
      .ok (.discovery (discoveryPage env.json env.services env.rfc (clock 1).last st.database)) := by
  obtain ⟨sessions, passed⟩ := serve_checkAdmin good
    (selectThen fun t st =>
      selectThen fun _ st' =>
        selectThen fun _ st'' =>
          answerWith (.discovery (adminDiscoveryItems env.json env.services
            (st.store.listAgents env.rfc t.last) st'.database.enabledServices.listAllEnabled
            st''.database.listDiscoverySnapshots)))
  refine (congrArg Prod.fst passed).trans ?_
  simp only [serve_selectThen clean.shift, serve_selectThen clean.shift.shift,
    serve_selectThen clean.shift.shift.shift, Nat.zero_add]
  rfl

theorem serve_desiredServices (clean : Faultless clock) {agentId : Text}
    (good : agentBears env (clock 0) st agentId authorization = true) :
    (handle env (.desiredServices agentId authorization)).serve clock st =
      (.ok (.desired (desiredServices env.json st.database.enabledServices agentId)), st) := by
  have checked := serve_checkAgent clean good
    (selectThen fun _ st =>
      answerWith (.desired (desiredServices env.json st.database.enabledServices agentId)))
  refine checked.trans ?_
  rw [serve_selectThen clean.shift]
  rfl

/-- What the page says about a container whose agent is told `service`. -/
def shownState : Option DesiredEnabledService → Bool × Option Text × List Text × Option Text
  | some d => (true, some d.id, d.hostnames, some d.backend)
  | none => (false, none, [], none)

/-- **The discovery page and the agents are told the same.** The page is ordered by agent
and container name, and it shows a container of an agent whose credential is good as
enabled, with id, hostnames and backend, exactly if `desired_services` tells the agent to
serve that identity so, both requests served without interruption and without failures. -/
theorem discovery_page_matches_agents (clean : Faultless clock)
    (good : adminBears env (clock 0) st authorization = true) :
    ∃ items, ((handle env (.adminDiscovery authorization)).serve clock st).1 =
        .ok (.discovery items) ∧ items.Pairwise ItemLe ∧
      ∀ item ∈ items, ∀ clock' authorization', Faultless clock' →
        agentBears env (clock' 0) st item.agentId authorization' = true →
          ∃ services, ((handle env (.desiredServices item.agentId authorization')).serve
              clock' st).1 = .ok (.desired services) ∧
            (item.enabled, item.enabledId, item.hostnames, item.backend) =
              shownState (services.find? fun d => d.identityKey == item.identityKey) := by
  refine ⟨_, serve_adminDiscovery clean good, adminDiscoveryItems_sorted _ _ _, ?_⟩
  intro item listed clock' authorization' clean' good'
  refine ⟨_, congrArg Prod.fst (serve_desiredServices clean' good'), ?_⟩
  obtain ⟨agentId, row, -, shown⟩ := mem_discoveryPage.mp listed
  obtain ⟨s, -, rfl⟩ := List.mem_map.mp shown
  have state := enabledState_desired env.json st.database.enabledServices agentId
    s.identityKey
  simp only [discoveryItem, state]
  cases (desiredServices env.json st.database.enabledServices agentId).find?
      fun d => d.identityKey == s.identityKey <;> rfl

/-- Two agents; the first has reported a container, which is enabled. -/
def reportedState : AppState :=
  { twoAgents with
    database :=
      { twoAgents.database with
        discoverySnapshots := Table.empty.upsert "agt_a".toList
          ⟨quotedServices.toText [oneService "compose:web".toList], toRfc3339 0⟩
        enabledServices := (EnabledServices.empty.upsertEnabledService true 0 "en_1".toList
          "agt_a".toList "compose:web".toList none (quoteTexts ["app.internal".toList])
          "http://10.0.0.1:80".toList).toOption.getD .empty } }

theorem discovery_page_matches_agents_reported :
    ∃ items, ((handle plainApi (.adminDiscovery (some "Bearer pw".toList))).serve (stillClock 7)
        reportedState).1 = .ok (.discovery items) ∧
      ∀ item ∈ items, item.agentId = "agt_a".toList →
        ∃ services, ((handle plainApi (.desiredServices item.agentId (some "Bearer a".toList))).serve
            (stillClock 8) reportedState).1 = .ok (.desired services) ∧
          (item.enabled, item.enabledId, item.hostnames, item.backend) =
            shownState (services.find? fun d => d.identityKey == item.identityKey) := by
  have bears : adminBears plainApi (stillClock 7 0) reportedState (some "Bearer pw".toList) =
      true := by decide
  have owns : agentBears plainApi (stillClock 8 0) reportedState "agt_a".toList
      (some "Bearer a".toList) = true := by decide
  have clean : Faultless (stillClock 7) := fun _ => rfl
  obtain ⟨items, answered, -, told⟩ := discovery_page_matches_agents clean bears
  refine ⟨items, answered, ?_⟩
  intro item listed own
  exact told item listed (stillClock 8) (some "Bearer a".toList) (fun _ => rfl) (own ▸ owns)

/-- **A report replaces the agent's part of the page.** After a report the page, each served
without interruption and without failures, lists the reported containers, each with the
agent's name and address and the state of its intent, and what it listed for the other
agents. -/
theorem report_replaces_page (clean : Faultless clock) {agentId : Text}
    (owns : agentBears env (clock 0) st agentId authorization = true)
    {reported : List DiscoveredContainerDto}
    (readsBack : env.services.fromText (env.services.toText reported) = some reported)
    {clock' : Nat → Moment StorageError} {admin : Option Text} (clean' : Faultless clock')
    (bears : adminBears env (clock' 0) st admin = true) :
    ∃ after items items',
      (handle env (.putDiscovery agentId authorization reported)).serve clock st =
        (.ok .noContent, after) ∧
      ((handle env (.adminDiscovery admin)).serve clock' st).1 = .ok (.discovery items) ∧
      ((handle env (.adminDiscovery admin)).serve clock' after).1 = .ok (.discovery items') ∧
      items'.Perm (reported.map (fun s =>
          discoveryItem env.json
            ((st.store.getAgent agentId).toOption.map (rowToAgent env.rfc (clock' 1).last agentId))
            ((st.database.enabledServices.rows.find? (agentId, s.identityKey)).map
              (EnabledServices.rowToEnabled (agentId, s.identityKey)))
            agentId (toRfc3339 (clock 1).last) s) ++
        items.filter fun item => decide (item.agentId ≠ agentId)) := by
  have known : agentId ∈ st.store.agents.keys := by
    cases bearing : bearerToken authorization with
    | none =>
        rw [agentBears, bearing] at owns
        cases owns
    | some token =>
        rw [agentBears, bearing, Option.any_some, Access.admits] at owns
        cases found : st.store.agents.find? agentId with
        | none =>
            rw [Store.verifyAgentToken, found] at owns
            cases owns
        | some row => exact Table.mem_keys_iff.mpr ⟨row, found⟩
  -- the snapshot may be stored since the agent is enrolled
  obtain ⟨db, stored⟩ : ∃ db, st.database.putDiscoverySnapshot (clock 1).last agentId
      (env.services.toText reported) = .ok db :=
    ⟨_, by rw [Database.putDiscoverySnapshot, if_pos (Or.inr known)]⟩
  have served : (handle env (.putDiscovery agentId authorization reported)).serve clock st =
      (.ok .noContent, { st with database := db }) := by
    simp only [handle, putDiscoveryHandler, serve_checkAgent clean owns,
      serve_writeThen clean.shift, Nat.zero_add, stored]
    rfl
  have bears' : adminBears env (clock' 0) { st with database := db } admin = true := bears
  refine ⟨_, _, _, served, serve_adminDiscovery clean' bears, serve_adminDiscovery clean' bears', ?_⟩
  have page := discoveryPage_report env.json env.rfc (clock' 1).last stored readsBack
  simp only [find?_byAgent, EnabledServices.find?_byPair, id_eq] at page
  exact page

theorem report_replaces_page_once :
    ∃ after items,
      (handle plainApi (.putDiscovery "agt_b".toList (some "Bearer b".toList)
        [oneService "compose:db".toList])).serve (stillClock 7) reportedState =
          (.ok .noContent, after) ∧
      ((handle plainApi (.adminDiscovery (some "Bearer pw".toList))).serve (stillClock 8) after).1 =
        .ok (.discovery items) ∧
      items.length = 2 := by
  have clean : Faultless (stillClock 7) := fun _ => rfl
  have clean' : Faultless (stillClock 8) := fun _ => rfl
  have owns : agentBears plainApi (stillClock 7 0) reportedState "agt_b".toList
      (some "Bearer b".toList) = true := by decide
  have bears : adminBears plainApi (stillClock 8 0) reportedState (some "Bearer pw".toList) =
      true := by decide
  have readsBack : plainApi.services.fromText
      (plainApi.services.toText [oneService "compose:db".toList]) =
        some [oneService "compose:db".toList] := quotedServices_readsBack _
  obtain ⟨after, items, items', served, before, shown, same⟩ :=
    report_replaces_page clean owns readsBack clean' bears
  refine ⟨after, items', served, shown, ?_⟩
  have page := serve_adminDiscovery clean' bears
  rw [page] at before
  cases before
  rw [same.length_eq]
  decide +kernel

end Pages

end Tailroute.Controller
