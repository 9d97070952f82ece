/-
# Storage.LiveRoutes — three readers, one notion of a live route

`list_routes_admin` and `active_dns_routes` join routes with agents that are not
revoked; the conflict test of `put_routes` joins with any agent. The two agree
because no sequence of operations leaves a route with a revoked owner
(`ownersLive_apply`): `put_routes` checks its agent before it writes and
`revoke_agent` deletes the routes of the agent it marks.
-/
import Tailroute.Storage.Operations

namespace Tailroute.Storage

open Tailroute.Theory Tailroute.Common

set_option autoImplicit false

variable {rfc : Rfc3339} {verifyToken : Text → Text → Bool}

/-! ## No operation leaves a route with a revoked owner -/

theorem Store.getAgent_markRevoked_of_ne (s : Store) (now : Int) {agent other : Text}
    (different : other ≠ agent) : (s.markRevoked now agent).getAgent other = s.getAgent other := by
  simp [Store.getAgent, Store.markRevoked, different]

/-- Marking takes the agent's row away and clearing takes its routes away. -/
theorem Store.OwnersLive.revokeAgent {s : Store} (live : s.OwnersLive) (now : Int) (agent : Text) :
    (s.revokeAgent now agent).OwnersLive := by
  intro host holder owned
  rw [Store.revokeAgent, Store.owner_clearRoutes, Option.filter_eq_some_iff] at owned
  obtain ⟨held, other⟩ := owned
  obtain ⟨row, known⟩ := live host holder held
  refine ⟨row, ?_⟩
  show (s.markRevoked now agent).getAgent holder = .ok row
  rw [s.getAgent_markRevoked_of_ne now (by simpa using other), known]

theorem ownersLive_apply {s : Store} (live : s.OwnersLive) (now : Int) (op : Operation) :
    (op.apply rfc verifyToken s now).OwnersLive := by
  cases op with
  | createEnrollmentToken hash =>
      have ran : (Operation.createEnrollmentToken hash).apply rfc verifyToken s now =
          (Statement.insertToken hash).exec rfc s now := by
        rw [Operation.apply, Store.createEnrollmentToken, Statement.exec]
        cases s.insertToken now hash <;> rfl
      rw [ran]
      exact live.exec rfc now _ (by simp) (by simp)
  | consumeEnrollmentToken token =>
      rw [Operation.apply, Store.consumeEnrollmentToken]
      cases s.matchingToken verifyToken token with
      | none => exact live
      | some hash => exact live.exec rfc now (.markToken hash) (by simp) (by simp)
  | enrollAgent agentId credentialHash body =>
      have ran : (Operation.enrollAgent agentId credentialHash body).apply rfc verifyToken s now =
          (Statement.insertAgent agentId credentialHash body).exec rfc s now := by
        rw [Operation.apply, Store.enrollAgent, Statement.exec]
        cases s.insertAgent now agentId credentialHash body <;> rfl
      rw [ran]
      exact live.exec rfc now _ (by simp) (by simp)
  | heartbeat agentId tailscaleIpv4 =>
      have ran : (Operation.heartbeat agentId tailscaleIpv4).apply rfc verifyToken s now =
          (Statement.heartbeat agentId tailscaleIpv4).exec rfc s now := by
        rw [Operation.apply, Statement.exec]
        cases s.heartbeat now agentId tailscaleIpv4 <;> rfl
      rw [ran]
      exact live.exec rfc now _ (by simp) (by simp)
  | putRoutes ttl agentId entries =>
      rw [Operation.apply, Store.putRoutes]
      cases known : s.getAgent agentId with
      | error e => exact live
      | ok row =>
          have checked : ∀ ttl' agent entries',
              Statement.transactRoutes ttl agentId entries = .transactRoutes ttl' agent entries' →
                ∃ row, s.getAgent agent = .ok row := by
            intro ttl' agent entries' same
            cases same
            exact ⟨row, known⟩
          exact live.exec rfc now _ checked (by simp)
  | deleteRoute hostname => exact live.exec rfc now (.deleteRoute hostname) (by simp) (by simp)
  | revokeAgent agentId => exact live.revokeAgent now agentId
  | purgeExpiredAgents ttl =>
      exact live.exec rfc now (.purgeExpiredAgents ttl) (by simp) (by simp)

theorem ownersLive_of_sequential {start : Int} {c : Clocked}
    (reached : Clocked.Sequential rfc verifyToken start c) : c.store.OwnersLive := by
  refine reached.invariant (I := fun c => c.store.OwnersLive) ?_ ?_
  · intro host agent owned
    cases owned
  · intro s call s' _ live _ taken
    unfold Clocked.step at taken
    split at taken
    · cases taken
      exact ownersLive_apply live call.1 call.2
    · cases taken

/-! ## The two listings -/

/-- Rows of the join have distinct hostnames. -/
theorem joined_hostnames_nodup (s : Store) : (s.joined.map Prod.fst).Nodup := by
  refine s.routes.keys_nodup.sublist (Table.filterMap_keys_sublist ?_ s.routes.rows)
  intro row out joins
  split at joins
  · cases joins
    rfl
  · cases joins

theorem liveRows_hostnames_nodup (s : Store) (rfc : Rfc3339) (ttl now : Int) :
    ((s.liveRows rfc ttl now).map Prod.fst).Nodup :=
  (joined_hostnames_nodup s).sublist (List.filter_sublist.map _)

theorem activeDnsRoutes_hostnames (s : Store) (rfc : Rfc3339) (ttl now : Int) :
    (s.activeDnsRoutes rfc ttl now).map DnsRoute.hostname =
      (s.liveRows rfc ttl now).map Prod.fst := by
  simp [Store.activeDnsRoutes, Function.comp_def]

theorem listRoutesAdmin_hostnames (s : Store) (rfc : Rfc3339) (ttl now : Int) :
    (s.listRoutesAdmin rfc ttl now).map AdminRoute.hostname =
      (s.liveRows rfc ttl now).map Prod.fst := by
  simp [Store.listRoutesAdmin, Function.comp_def]

theorem mem_active_hostnames {s : Store} {ttl now : Int} {host : Text} :
    host ∈ (s.activeDnsRoutes rfc ttl now).map DnsRoute.hostname ↔
      ∃ route agent, s.routes.find? host = some route ∧ s.agents.find? route.agentId = some agent ∧
        agent.revokedAt = none ∧ Store.leaseAlive rfc ttl now agent.lastSeenAt = true := by
  rw [activeDnsRoutes_hostnames, List.mem_map]
  constructor
  · rintro ⟨⟨host, route, agent⟩, member, rfl⟩
    exact ⟨route, agent, Store.mem_liveRows.mp member⟩
  · rintro ⟨route, agent, live⟩
    exact ⟨(host, route, agent), Store.mem_liveRows.mpr live, rfl⟩

/-! ## The conflict test -/

/-- **Another agent is refused a hostname exactly when DNS serves it.** -/
theorem conflictWith_iff_active {s : Store} (live : s.OwnersLive) {ttl now : Int}
    {host holder agent : Text} :
    (∃ expiry, conflictWith rfc ttl now s.agents agent s.routes host = some (holder, expiry)) ↔
      host ∈ (s.activeDnsRoutes rfc ttl now).map DnsRoute.hostname ∧
        s.owner host = some holder ∧ holder ≠ agent := by
  simp only [conflictWith_eq_some, mem_active_hostnames, Store.owner_eq_some]
  constructor
  · rintro ⟨expiry, route, row, stored, rfl, found, other, alive, -⟩
    -- the test did not look at `revoked_at`; the invariant does
    obtain ⟨_, known⟩ := live host _ (Store.owner_eq_some.mpr ⟨route, stored, rfl⟩)
    obtain ⟨found', unrevoked⟩ := Store.getAgent_eq_ok.mp known
    rw [found] at found'
    cases found'
    exact ⟨⟨route, row, stored, found, unrevoked, alive⟩, ⟨route, stored, rfl⟩, other⟩
  · rintro ⟨⟨route, row, stored, found, -, alive⟩, ⟨route', stored', rfl⟩, other⟩
    rw [stored] at stored'
    cases stored'
    exact ⟨_, route, row, stored, rfl, found, other, alive, rfl⟩

theorem mem_conflicts {s : Store} {ttl now : Int} {agent host holder : Text}
    {entries : List RouteEntry} :
    (∃ conflict ∈ (s.transactRoutes rfc ttl now agent entries).1.conflicts,
        conflict.hostname = host ∧ conflict.ownerAgentId = holder) ↔
      host ∈ entries.map RouteEntry.host ∧
        ∃ expiry, conflictWith rfc ttl now s.agents agent s.routes host = some (holder, expiry) := by
  simp only [Store.transactRoutes, transaction_conflicts, List.mem_filterMap, Option.map_eq_some_iff]
  constructor
  · rintro ⟨conflict, ⟨named, requested, held, blocked, rfl⟩, rfl, rfl⟩
    exact ⟨requested, held.2, blocked⟩
  · rintro ⟨requested, expiry, blocked⟩
    exact ⟨⟨host, holder, expiry⟩, ⟨host, requested, _, blocked, rfl⟩, rfl, rfl⟩

theorem mem_accepted {s : Store} {ttl now : Int} {agent host : Text} {entries : List RouteEntry} :
    host ∈ (s.transactRoutes rfc ttl now agent entries).1.accepted ↔
      host ∈ entries.map RouteEntry.host ∧
        conflictWith rfc ttl now s.agents agent s.routes host = none := by
  simp only [Store.transactRoutes, transaction_accepted, List.mem_filter, Option.isNone_iff_eq_none]

theorem conflictWith_eq_none_iff {s : Store} (live : s.OwnersLive) {ttl now : Int}
    {host agent : Text} :
    conflictWith rfc ttl now s.agents agent s.routes host = none ↔
      ¬∃ holder, host ∈ (s.activeDnsRoutes rfc ttl now).map DnsRoute.hostname ∧
        s.owner host = some holder ∧ holder ≠ agent := by
  simp only [← conflictWith_iff_active live]
  rw [Option.eq_none_iff_forall_ne_some]
  simp only [not_exists, Prod.forall, ne_eq]

/-- **One notion of a live route.** In every state of a sequential run the two
listings name the same hostnames, each once, and a `put_routes` is refused a
hostname exactly when they list it for another agent. -/
theorem live_routes_agree {start : Int} {c : Clocked}
    (reached : Clocked.Sequential rfc verifyToken start c) (ttl now : Int) :
    let served := (c.store.activeDnsRoutes rfc ttl now).map DnsRoute.hostname
    (c.store.listRoutesAdmin rfc ttl now).map AdminRoute.hostname = served ∧ served.Nodup ∧
      ∀ agent row entries, c.store.getAgent agent = .ok row →
        ∃ outcome after, c.store.putRoutes rfc ttl now agent entries = .ok (outcome, after) ∧
          ∀ host ∈ entries.map RouteEntry.host,
            (∀ holder,
              (∃ conflict ∈ outcome.conflicts,
                conflict.hostname = host ∧ conflict.ownerAgentId = holder) ↔
                  host ∈ served ∧ c.store.owner host = some holder ∧ holder ≠ agent) ∧
            (host ∈ outcome.accepted ↔
              ¬∃ holder, host ∈ served ∧ c.store.owner host = some holder ∧ holder ≠ agent) ∧
            (host ∉ served → host ∈ outcome.accepted ∧ after.owner host = some agent) ∧
            (host ∈ served → host ∈ outcome.accepted → c.store.owner host = some agent) := by
  intro served
  have live := ownersLive_of_sequential reached
  refine ⟨?_, ?_, ?_⟩
  · rw [listRoutesAdmin_hostnames, ← activeDnsRoutes_hostnames]
  · rw [show served = _ from activeDnsRoutes_hostnames _ _ _ _]
    exact liveRows_hostnames_nodup _ _ _ _
  · intro agent row entries known
    refine ⟨(c.store.transactRoutes rfc ttl now agent entries).1,
      (c.store.transactRoutes rfc ttl now agent entries).2, ?_, ?_⟩
    · rw [Store.putRoutes, known]
    · intro host requested
      have accepted : host ∈ (c.store.transactRoutes rfc ttl now agent entries).1.accepted ↔
          ¬∃ holder, host ∈ served ∧ c.store.owner host = some holder ∧ holder ≠ agent := by
        rw [mem_accepted, ← conflictWith_eq_none_iff live]
        exact and_iff_right requested
      refine ⟨?_, accepted, ?_, ?_⟩
      · intro holder
        rw [mem_conflicts, conflictWith_iff_active live]
        exact and_iff_right requested
      · intro unserved
        have free : ¬∃ holder, host ∈ served ∧ c.store.owner host = some holder ∧ holder ≠ agent :=
          fun ⟨_, listed, _⟩ => unserved listed
        refine ⟨accepted.mpr free, ?_⟩
        rw [Store.owner_transactRoutes, if_pos requested,
          if_pos ((conflictWith_eq_none_iff live).mpr free)]
      · intro listed taken
        obtain ⟨route, _, stored, _⟩ := mem_active_hostnames.mp listed
        have held : c.store.owner host = some route.agentId :=
          Store.owner_eq_some.mpr ⟨route, stored, rfl⟩
        by_contra foreign
        exact accepted.mp taken ⟨route.agentId, listed, held, fun same => foreign (same ▸ held)⟩

/-- Two agents enroll and the first registers a hostname. -/
def contestedCalls : List (Int × Operation) :=
  [(0, .enrollAgent "agt_a".toList "a".toList ⟨"a".toList, "100.64.0.1".toList, "e".toList⟩),
    (1, .enrollAgent "agt_b".toList "b".toList ⟨"b".toList, "100.64.0.2".toList, "e".toList⟩),
    (2, .putRoutes 90 "agt_a".toList [⟨"Web".toList, "http://10.0.0.1:80".toList, none, none⟩])]

theorem live_routes_agree_contested :
    ∃ c, Clocked.Sequential layoutParser (fun hash token => hash == token) 0 c ∧
      (∃ row, c.store.getAgent "agt_b".toList = .ok row) ∧
      "web".toList ∈ (c.store.activeDnsRoutes layoutParser 90 60).map DnsRoute.hostname ∧
      ∃ outcome after,
        c.store.putRoutes layoutParser 90 60 "agt_b".toList
          [⟨"WEB".toList, "http://10.0.0.2:80".toList, none, none⟩] = .ok (outcome, after) ∧
        ∃ conflict ∈ outcome.conflicts,
          conflict.hostname = "web".toList ∧ conflict.ownerAgentId = "agt_a".toList := by
  have reached : Clocked.Sequential layoutParser (fun hash token => hash == token) 0 _ :=
    Transition.reach_of_run contestedCalls rfl
  refine ⟨_, reached, ⟨_, rfl⟩, by decide, ?_⟩
  obtain ⟨-, -, put⟩ := live_routes_agree reached 90 60
  obtain ⟨outcome, after, answered, each⟩ := put "agt_b".toList _
    [⟨"WEB".toList, "http://10.0.0.2:80".toList, none, none⟩] rfl
  refine ⟨outcome, after, answered, ?_⟩
  exact ((each "web".toList (by decide)).1 "agt_a".toList).mpr ⟨by decide, by decide, by decide⟩

end Tailroute.Storage
