/-
# Controller.Outsiders — what nobody else can take from an agent

Whoever holds neither an admin credential nor the agent's own cannot change what belongs
to the agent, its routes included while its lease lives (`outsiders_spare_agent`).
-/
import Tailroute.Controller.Access
import Tailroute.Storage.Purge

namespace Tailroute.Controller

open Tailroute.Theory Tailroute.Common Tailroute.Storage Tailroute.Dns

set_option autoImplicit false

variable {env : ApiEnv} {start : Int} {st₀ : AppState} {p : Serving} {agentId : Text}
  {row : AgentRow}

/-- Any access but the admin's and the agent's own. -/
def Outside (agentId : Text) (access : Access) : Prop :=
  access ≠ .admin ∧ access ≠ .agent agentId

instance (agentId : Text) : DecidablePred (Outside agentId) :=
  fun _ => inferInstanceAs (Decidable (_ ∧ _))

/-- What belongs to the agent is as it was in `st₀`; its routes are, while its lease
lives. -/
structure Spared (env : ApiEnv) (agentId : Text) (row : AgentRow) (st₀ : AppState) (clock : Int)
    (st : AppState) : Prop where
  enrolled : st.store.agents.find? agentId = some row
  snapshot : st.database.discoverySnapshots.find? agentId =
    st₀.database.discoverySnapshots.find? agentId
  enabled : ∀ key, st.database.enabledServices.rows.find? (agentId, key) =
    st₀.database.enabledServices.rows.find? (agentId, key)
  routes : ∀ seen, Instant.FourDigitYear seen → row.lastSeenAt = some (toRfc3339 seen) →
    clock - seen < env.ttl → ∀ host route, st₀.store.routes.find? host = some route →
      route.agentId = agentId → st.store.routes.find? host = some route

theorem leaseAlive_of_seen (rfc : Rfc3339) {ttl now seen : Int} (four : Instant.FourDigitYear seen)
    (stamp : row.lastSeenAt = some (toRfc3339 seen)) (alive : now - seen < ttl) :
    Store.leaseAlive rfc ttl now row.lastSeenAt = true := by
  simp [Store.leaseAlive, stamp, rfc.parse_toRfc3339 seen four, alive]

/-- A statement of an outsider keeps the routes of an agent whose lease lives. -/
theorem find?_routes_outside {s : Statement} {store : Store} {now seen : Int} {host : Text}
    {route : RouteRow} (outside : Outside agentId (sender s)) (configured : Configured env s)
    (found : store.agents.find? agentId = some row) (four : Instant.FourDigitYear seen)
    (stamp : row.lastSeenAt = some (toRfc3339 seen)) (alive : now - seen < env.ttl)
    (stored : store.routes.find? host = some route) (own : route.agentId = agentId) :
    (s.exec env.rfc store now).routes.find? host = some route := by
  subst own
  have lives := leaseAlive_of_seen env.rfc four stamp alive
  cases s with
  | insertToken hash =>
      rw [Statement.insertToken_exec]
      split <;> exact stored
  | markToken hash => exact stored
  | insertAgent agent hash body =>
      rw [Statement.insertAgent_exec]
      split <;> exact stored
  | heartbeat agent address =>
      rw [(Statement.heartbeat_exec_routes env.rfc store now agent address).1]
      exact stored
  | transactRoutes ttl agent entries =>
      cases configured
      have other : route.agentId ≠ agent := fun same => outside.2 (congrArg Access.agent same.symm)
      have blocked : conflictWith env.rfc env.ttl now store.agents agent store.routes host ≠
          none := by
        simp [conflictWith, existingOwner, stored, found, other, lives]
      rw [Statement.exec, find?_transactRoutes_of_other]
      · exact stored
      · rw [Store.owner, stored, Option.map_some]
        exact fun same => other (Option.some.inj same)
      · exact fun taken => blocked (mem_accepted_iff.mp taken).2
  | deleteRoute hostname => exact absurd rfl outside.1
  | markRevoked agent => exact absurd rfl outside.1
  | clearRoutes agent => exact absurd rfl outside.1
  | purgeExpiredAgents ttl =>
      cases configured
      have kept : store.expiredAgent (toRfc3339 (now - env.ttl)) route.agentId = false := by
        simp only [Store.expiredAgent, found, stamp, Store.expiredText, decide_eq_false_iff_not,
          toRfc3339_lt_iff four]
        omega
      show (store.purgeExpiredAgents env.ttl now).routes.find? host = some route
      rw [Store.purgeExpiredAgents, Table.find?_deleteWhere, stored]
      simp [kept]

theorem Spared.change {clock : Int} {t : Moment StorageError} {st st' : AppState} {access : Access}
    (spared : Spared env agentId row st₀ clock st) (before : clock ≤ t.first)
    (outside : Outside agentId access) (change : Change env t st access st') :
    Spared env agentId row st₀ t.last st' := by
  have ordered := t.ordered
  have earlier : ∀ seen, t.last - seen < env.ttl → clock - seen < env.ttl := by
    intro seen alive
    omega
  cases change with
  | stored s configured known =>
      refine ⟨?_, spared.snapshot, spared.enabled, ?_⟩
      · have change := s.agentChange_exec env.rfc st.store t.last agentId
        rw [spared.enrolled] at change
        generalize held : (s.exec env.rfc st.store t.last).agents.find? agentId = after at change
        show (s.exec env.rfc st.store t.last).agents.find? agentId = some row
        rw [held]
        cases change with
        | kept => rfl
        | seen => exact absurd rfl outside.2
        | revoked => exact absurd rfl outside.1
      · intro seen four stamp alive host route stored own
        exact find?_routes_outside outside configured spared.enrolled four stamp alive
          (spared.routes seen four stamp (earlier seen alive) host route stored own) own
  | reported agent payloadJson db ran =>
      have other : agentId ≠ agent := fun same => outside.2 (congrArg Access.agent same.symm)
      obtain ⟨-, rfl⟩ := Database.of_putDiscoverySnapshot ran
      refine ⟨spared.enrolled, ?_, spared.enabled, fun seen four stamp alive =>
        spared.routes seen four stamp (earlier seen alive)⟩
      simp only [Table.find?_upsert, if_neg other]
      exact spared.snapshot
  | enabled => exact absurd rfl outside.1
  | disabled => exact absurd rfl outside.1
  | audited => exact absurd rfl outside.1
  | refreshed =>
      exact ⟨spared.enrolled, spared.snapshot, spared.enabled, fun seen four stamp alive =>
        spared.routes seen four stamp (earlier seen alive)⟩

/-- **Outsiders cannot touch an agent.** Over any requests without an admin credential and
without the agent's own, the agent keeps its row, its report and its intents; while its
lease lives it keeps its routes, and DNS has each of them at its address. -/
theorem outsiders_spare_agent (enrolled : st₀.store.agents.find? agentId = some row)
    (reached : ApiRun env (Outside agentId) start st₀ p) :
    Spared env agentId row st₀ p.clock p.shared ∧
      ∀ seen, Instant.FourDigitYear seen → row.lastSeenAt = some (toRfc3339 seen) →
        p.clock - seen < env.ttl → row.revokedAt = none → ∀ host,
          st₀.store.owner host = some agentId →
            ⟨host, row.tailscaleIpv4⟩ ∈ p.shared.store.activeDnsRoutes env.rfc env.ttl p.clock := by
  have spared : Spared env agentId row st₀ p.clock p.shared := by
    refine reached.invariant (I := Spared env agentId row st₀) ?_ ?_ ?_ ?_
    · exact ⟨enrolled, rfl, fun _ => rfl, fun _ _ _ _ _ _ stored _ => stored⟩
    · intro clock clock' st before spared
      refine ⟨spared.enrolled, spared.snapshot, spared.enabled, ?_⟩
      intro seen four stamp alive
      exact spared.routes seen four stamp (by omega)
    · exact fun _ _ _ spared => ⟨spared.enrolled, spared.snapshot, spared.enabled, spared.routes⟩
    · exact fun _ _ _ _ _ before outside spared change => spared.change before outside change
  refine ⟨spared, ?_⟩
  intro seen four stamp alive unrevoked host owned
  obtain ⟨route, stored, own⟩ := Store.owner_eq_some.mp owned
  have kept := spared.routes seen four stamp alive host route stored own
  refine List.mem_map.mpr ⟨(host, route, row), Store.mem_liveRows.mpr ⟨kept, ?_, unrevoked, ?_⟩, rfl⟩
  · rw [own]
    exact spared.enrolled
  · exact leaseAlive_of_seen env.rfc four stamp alive

/-- The second agent asks for the name of the first, someone guesses the first agent's
token to withdraw it, and the cleanup runs. -/
theorem outsiders_spare_registered :
    ∃ p row, twoAgents.store.agents.find? "agt_a".toList = some row ∧
      ApiRun plainApi (Outside "agt_a".toList) 0 twoAgents p ∧ p.clock = 5 ∧
      Spared plainApi "agt_a".toList row twoAgents p.clock p.shared ∧
      ⟨"web".toList, row.tailscaleIpv4⟩ ∈
        p.shared.store.activeDnsRoutes layoutParser plainApi.ttl p.clock := by
  have reached : ApiRun plainApi (Outside "agt_a".toList) 0 twoAgents _ :=
    Transition.reach_of_run
      [.start 0 (.putRoutes "agt_b".toList (some "Bearer b".toList)
          [⟨"web".toList, "http://10.0.0.2:80".toList, none, none⟩]),
        .advance 0 (.at 1), .advance 0 (.at 2),
        .start 1 (.putRoutes "agt_a".toList (some "Bearer b".toList) []), .advance 1 (.at 3),
        .advance 0 (.at 4), .start 2 .cleanupTick, .advance 2 (.at 5)] rfl
  have enrolled : twoAgents.store.agents.find? "agt_a".toList = some _ := rfl
  obtain ⟨spared, answered⟩ := outsiders_spare_agent enrolled reached
  exact ⟨_, _, enrolled, reached, rfl, spared,
    answered 0 (by decide) rfl (by decide) rfl "web".toList (by decide)⟩

end Tailroute.Controller
