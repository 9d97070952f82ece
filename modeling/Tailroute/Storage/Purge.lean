/-
# Storage.Purge — the cleanup deletes dead routes and nothing else

`purge_expired_agents` compares the stored `last_seen_at` with its cutoff as
text. For timestamps of four-digit years the comparison is chronological while
the cutoff stays before year 10000 (`expiredAgent_iff`). A purged store is then
the unpurged one less some routes of agents whose lease has run out (`Trimmed`),
and no statement but a heartbeat can make such a route matter again: listings and
`put_routes` answers stay the same through any later statements.

A cutoff from year 10000 on is written with a sign and sorts below every
timestamp, so that the purge deletes nothing at all.
-/
import Tailroute.Storage.LiveRoutes

namespace Tailroute.Storage

open Tailroute.Theory Tailroute.Common

set_option autoImplicit false

variable {rfc : Rfc3339}

/-! ## Stores whose timestamps are written in four-digit years -/

/-- One statement at a later instant. -/
def Clocked.execute (rfc : Rfc3339) (c : Clocked) (call : Int × Statement) : Option Clocked :=
  if c.clock ≤ call.1 then some ⟨call.1, call.2.exec rfc c.store call.1⟩ else none

/-- Enrollments and heartbeats happen in years 0000–9999. -/
def StampedInFourDigits (_ : Clocked) (call : Int × Statement) : Prop :=
  call.2.stampsLastSeen = true → Instant.FourDigitYear call.1

instance (c : Clocked) (call : Int × Statement) : Decidable (StampedInFourDigits c call) :=
  inferInstanceAs (Decidable (_ → _))

/-- The store is reached from the empty database by any interleaving of
statements. -/
def Clocked.Reachable (rfc : Rfc3339) (start : Int) (c : Clocked) : Prop :=
  Transition.Reach (Clocked.execute rfc) StampedInFourDigits ⟨start, .empty⟩ c

namespace Store

/-- Every agent carries the text of a four-digit-year instant. -/
def Stamped (s : Store) : Prop :=
  ∀ agent row, s.agents.find? agent = some row →
    ∃ seen, Instant.FourDigitYear seen ∧ row.lastSeenAt = some (toRfc3339 seen)

/-- When an agent was last seen. -/
def lastSeen (s : Store) (rfc : Rfc3339) (agent : Text) : Option Int :=
  (s.agents.find? agent).bind fun row => row.lastSeenAt.bind rfc.parse

theorem Stamped.exec {s : Store} (stamped : s.Stamped) (now : Int) (st : Statement)
    (four : st.stampsLastSeen = true → Instant.FourDigitYear now) : (st.exec rfc s now).Stamped := by
  intro agent row found
  have change := st.agentChange_exec rfc s now agent
  rw [found] at change
  generalize before : s.agents.find? agent = old at change
  cases change with
  | kept => exact stamped agent row before
  | enrolled credentialHash body => exact ⟨now, four rfl, rfl⟩
  | seen tailscaleIpv4 old live => exact ⟨now, four rfl, rfl⟩
  | revoked old => exact stamped agent old before

theorem Stamped.lastSeen {s : Store} (stamped : s.Stamped) (rfc : Rfc3339) {agent : Text} {row : AgentRow}
    (found : s.agents.find? agent = some row) :
    ∃ seen, Instant.FourDigitYear seen ∧ row.lastSeenAt = some (toRfc3339 seen) ∧
      s.lastSeen rfc agent = some seen := by
  obtain ⟨seen, four, written⟩ := stamped agent row found
  refine ⟨seen, four, written, ?_⟩
  simp [Store.lastSeen, found, written, rfc.parse_toRfc3339 seen four]

/-- **The text comparison of the purge.** -/
theorem expiredAgent_iff {s : Store} (stamped : s.Stamped) (rfc : Rfc3339) (cutoff : Int) (agent : Text) :
    s.expiredAgent (toRfc3339 cutoff) agent = true ↔
      ∃ seen, s.lastSeen rfc agent = some seen ∧ seen < cutoff ∧ Instant.year cutoff ≤ 9999 := by
  cases found : s.agents.find? agent with
  | none => simp [expiredAgent, Store.lastSeen, found]
  | some row =>
      obtain ⟨seen, four, written, last⟩ := stamped.lastSeen rfc found
      simp [expiredAgent, found, written, expiredText, last, toRfc3339_lt_iff four]

/-- An agent the purge has expired is past its lease from then on. -/
theorem leaseAlive_of_expired {s : Store} (stamped : s.Stamped) {ttl now : Int} {agent : Text}
    (expired : s.expiredAgent (toRfc3339 (now - ttl)) agent = true) :
    ∃ row, s.agents.find? agent = some row ∧
      ∀ t, now ≤ t → leaseAlive rfc ttl t row.lastSeenAt = false := by
  obtain ⟨_, last, before, -⟩ := (expiredAgent_iff stamped rfc _ _).mp expired
  cases found : s.agents.find? agent with
  | none => simp [Store.lastSeen, found] at last
  | some row =>
      refine ⟨row, rfl, ?_⟩
      intro t later
      simp only [Store.lastSeen, found, Option.bind_some] at last
      simp only [leaseAlive, last, decide_eq_false_iff_not]
      omega

end Store

theorem stamped_of_reachable {start : Int} {c : Clocked} (reached : c.Reachable rfc start) :
    c.store.Stamped := by
  refine reached.invariant (I := fun c => c.store.Stamped) ?_ ?_
  · intro agent row found
    cases found
  · intro s call s' _ stamped four taken
    unfold Clocked.execute at taken
    split at taken
    · cases taken
      exact stamped.exec call.1 call.2 four
    · cases taken

/-! ## A store less some dead routes -/

/-- `purged` is `kept` without some routes of agents whose lease of `ttl` has run
out by `now`. -/
structure Trimmed (rfc : Rfc3339) (ttl now : Int) (kept purged : Store) : Prop where
  agents : purged.agents = kept.agents
  routes : ∀ host, purged.routes.find? host = kept.routes.find? host ∨
    purged.routes.find? host = none ∧ ∃ route row, kept.routes.find? host = some route ∧
      kept.agents.find? route.agentId = some row ∧
        ∀ t, now ≤ t → Store.leaseAlive rfc ttl t row.lastSeenAt = false

/-- A statement after the purge and before the next heartbeat, with the same
`ttl`. -/
def Statement.Follows (ttl now : Int) (call : Int × Statement) : Prop :=
  now ≤ call.1 ∧
    match call.2 with
    | .heartbeat _ _ => False
    | .transactRoutes ttl' _ _ => ttl' = ttl
    | .purgeExpiredAgents ttl' => ttl' = ttl
    | _ => True

theorem trimmed_purge {s : Store} (stamped : s.Stamped) (rfc : Rfc3339) (ttl now : Int) :
    Trimmed rfc ttl now s (s.purgeExpiredAgents ttl now) := by
  refine ⟨rfl, ?_⟩
  intro host
  rw [Store.purgeExpiredAgents, Table.find?_deleteWhere]
  cases stored : s.routes.find? host with
  | none => exact Or.inl rfl
  | some route =>
      by_cases expired : s.expiredAgent (toRfc3339 (now - ttl)) route.agentId = true
      · right
        obtain ⟨row, found, dead⟩ := Store.leaseAlive_of_expired stamped expired
        exact ⟨by simp [Option.filter, expired], route, row, rfl, found, dead⟩
      · left
        simp [Option.filter, expired]

namespace Trimmed

variable {ttl now t : Int} {kept purged : Store}

/-- A dropped route blocked nobody. -/
theorem conflictWith_eq (related : Trimmed rfc ttl now kept purged) (later : now ≤ t)
    (agent host : Text) :
    conflictWith rfc ttl t purged.agents agent purged.routes host =
      conflictWith rfc ttl t kept.agents agent kept.routes host := by
  rw [related.agents]
  rcases related.routes host with same | ⟨gone, route, row, stored, found, dead⟩
  · exact conflictWith_congr same
  · simp [conflictWith, existingOwner, gone, stored, found, dead t later]

/-- The same agents' statement writes the same rows on both sides. -/
theorem agents_exec (related : Trimmed rfc ttl now kept purged) (st : Statement) :
    (st.exec rfc purged t).agents = (st.exec rfc kept t).agents := by
  have same := related.agents
  cases st with
  | insertAgent agentId credentialHash body =>
      simp only [Statement.insertAgent_exec, same]
      split
      · exact same
      · rfl
  | heartbeat agentId tailscaleIpv4 =>
      simp only [Statement.exec, Store.heartbeat, Store.getAgent, same]
      split
      · rfl
      · exact same
  | markRevoked agentId => simp only [Statement.exec, Store.markRevoked, same]
  | insertToken hash =>
      simp only [Statement.insertToken_exec]
      split <;> split <;> exact same
  | markToken _ => exact same
  | transactRoutes _ _ _ => exact same
  | deleteRoute _ => exact same
  | clearRoutes _ => exact same
  | purgeExpiredAgents _ => exact same

/-- A deletion with one condition on both sides. -/
theorem routes_filter (related : Trimmed rfc ttl now kept purged) (keep : RouteRow → Bool)
    (host : Text) :
    (purged.routes.find? host).filter keep = (kept.routes.find? host).filter keep ∨
      (purged.routes.find? host).filter keep = none ∧
        (kept.routes.find? host).filter keep = kept.routes.find? host ∧
          purged.routes.find? host = none := by
  rcases related.routes host with same | ⟨gone, route, row, stored, -⟩
  · exact Or.inl (by rw [same])
  · rw [gone, stored]
    by_cases stays : keep route = true
    · exact Or.inr ⟨rfl, by simp [Option.filter, stays], rfl⟩
    · exact Or.inl (by simp [Option.filter, stays])

/-- After a statement the two tables agree on a hostname, or neither side touched
a route that was already missing on one. -/
theorem routes_exec (related : Trimmed rfc ttl now kept purged) {call : Int × Statement}
    (follows : Statement.Follows ttl now call) (host : Text) :
    (call.2.exec rfc purged call.1).routes.find? host =
        (call.2.exec rfc kept call.1).routes.find? host ∨
      (call.2.exec rfc purged call.1).routes.find? host = none ∧
        (call.2.exec rfc kept call.1).routes.find? host = kept.routes.find? host ∧
          purged.routes.find? host = none := by
  obtain ⟨t, st⟩ := call
  obtain ⟨later, follows⟩ := follows
  have untouched : purged.routes.find? host = kept.routes.find? host ∨
      purged.routes.find? host = none ∧ kept.routes.find? host = kept.routes.find? host ∧
        purged.routes.find? host = none := by
    rcases related.routes host with same | ⟨gone, -⟩
    · exact Or.inl same
    · exact Or.inr ⟨gone, rfl, gone⟩
  cases st with
  | heartbeat => exact absurd follows id
  | transactRoutes ttl' agent entries =>
      cases follows
      simp only [Statement.exec, Store.transactRoutes, transaction_find?,
        related.conflictWith_eq later]
      cases lastEntry entries host with
      | none => exact related.routes_filter _ host
      | some entry =>
          by_cases free : conflictWith rfc ttl t kept.agents agent kept.routes host = none
          · exact Or.inl (by simp [free])
          · simpa [free] using untouched
  | deleteRoute hostname =>
      simp only [Statement.exec, Store.deleteRoute, Table.find?_deleteWhere]
      exact related.routes_filter _ host
  | clearRoutes agent =>
      simp only [Statement.exec, Store.clearRoutes, Table.find?_deleteWhere]
      exact related.routes_filter _ host
  | purgeExpiredAgents ttl' =>
      simp only [Statement.exec, Store.purgeExpiredAgents, Table.find?_deleteWhere,
        Store.expiredAgent, related.agents]
      exact related.routes_filter _ host
  | insertToken hash =>
      simp only [Statement.insertToken_exec]
      split <;> split <;> exact untouched
  | insertAgent agentId credentialHash body =>
      simp only [Statement.insertAgent_exec]
      split <;> split <;> exact untouched
  | markToken _ => exact untouched
  | markRevoked _ => exact untouched

/-- Without a heartbeat a lease that has run out stays so. -/
theorem dead_exec {call : Int × Statement} (follows : Statement.Follows ttl now call)
    {agent : Text} {row : AgentRow} (found : kept.agents.find? agent = some row)
    (dead : ∀ t, now ≤ t → Store.leaseAlive rfc ttl t row.lastSeenAt = false) :
    ∃ row', (call.2.exec rfc kept call.1).agents.find? agent = some row' ∧
      ∀ t, now ≤ t → Store.leaseAlive rfc ttl t row'.lastSeenAt = false := by
  obtain ⟨t, st⟩ := call
  have change := st.agentChange_exec rfc kept t agent
  rw [found] at change
  generalize (st.exec rfc kept t).agents.find? agent = after at change ⊢
  cases change with
  | kept => exact ⟨row, rfl, dead⟩
  | seen => exact absurd follows.2 id
  | revoked => exact ⟨_, rfl, dead⟩

theorem exec (related : Trimmed rfc ttl now kept purged) {call : Int × Statement}
    (follows : Statement.Follows ttl now call) :
    Trimmed rfc ttl now (call.2.exec rfc kept call.1) (call.2.exec rfc purged call.1) := by
  refine ⟨related.agents_exec call.2, ?_⟩
  intro host
  rcases related.routes_exec follows host with same | ⟨gone, stays, missing⟩
  · exact Or.inl same
  · rcases related.routes host with agree | ⟨-, route, row, stored, found, dead⟩
    · -- both sides had no route, so both sides have none
      left
      rw [gone, stays, ← agree, missing]
    · right
      obtain ⟨row', found', dead'⟩ := dead_exec follows found dead
      exact ⟨gone, route, row', stays.trans stored, found', dead'⟩

/-! ## What can be observed -/

/-- The live rows are the same rows. -/
theorem liveRows_perm (related : Trimmed rfc ttl now kept purged) (later : now ≤ t) :
    (purged.liveRows rfc ttl t).Perm (kept.liveRows rfc ttl t) := by
  have nodup : ∀ s : Store, (s.liveRows rfc ttl t).Nodup :=
    fun s => (liveRows_hostnames_nodup s rfc ttl t).of_map _
  rw [List.perm_ext_iff_of_nodup (nodup purged) (nodup kept)]
  rintro ⟨host, route, row⟩
  rw [Store.mem_liveRows, Store.mem_liveRows, related.agents]
  rcases related.routes host with same | ⟨gone, route', row', stored, found, dead⟩
  · rw [same]
  · rw [gone, stored]
    constructor
    · rintro ⟨absent, -⟩
      cases absent
    · rintro ⟨present, found', -, alive⟩
      cases present
      rw [found] at found'
      cases found'
      rw [dead t later] at alive
      cases alive

theorem putRoutes_eq (related : Trimmed rfc ttl now kept purged) (later : now ≤ t) (agent : Text)
    (entries : List RouteEntry) :
    (purged.putRoutes rfc ttl t agent entries).map Prod.fst =
      (kept.putRoutes rfc ttl t agent entries).map Prod.fst := by
  have same : purged.getAgent agent = kept.getAgent agent := by
    rw [Store.getAgent, Store.getAgent, related.agents]
  have outcome : (purged.transactRoutes rfc ttl t agent entries).1 =
      (kept.transactRoutes rfc ttl t agent entries).1 := by
    rw [PutRoutesOutcome.mk.injEq]
    simp only [Store.transactRoutes, transaction_accepted, transaction_conflicts,
      related.conflictWith_eq later, and_self]
  rw [Store.putRoutes, Store.putRoutes, same]
  cases kept.getAgent agent with
  | error e => rfl
  | ok row => exact congrArg Except.ok outcome

end Trimmed

/-- The store after more statements. -/
def replay (rfc : Rfc3339) (s : Store) (calls : List (Int × Statement)) : Store :=
  calls.foldl (fun s call => call.2.exec rfc s call.1) s

theorem Trimmed.replay {ttl now : Int} {kept purged : Store}
    (related : Trimmed rfc ttl now kept purged) (calls : List (Int × Statement))
    (follow : ∀ call ∈ calls, Statement.Follows ttl now call) :
    Trimmed rfc ttl now (replay rfc kept calls) (replay rfc purged calls) := by
  induction calls generalizing kept purged with
  | nil => exact related
  | cons call calls ih =>
      exact ih (related.exec (follow call List.mem_cons_self))
        (fun next member => follow next (List.mem_cons_of_mem _ member))

/-- What the cleanup promises for a store: the listings and the answers of
`put_routes` are those of the unpurged store, right away and after any statements
before the next heartbeat, and every route of an agent last seen before the cutoff
is gone. -/
structure PurgeExact (rfc : Rfc3339) (ttl now : Int) (s : Store) : Prop where
  unobserved : ∀ calls, (∀ call ∈ calls, Statement.Follows ttl now call) → ∀ t, now ≤ t →
    let kept := replay rfc s calls
    let purged := replay rfc (s.purgeExpiredAgents ttl now) calls
    (purged.activeDnsRoutes rfc ttl t).Perm (kept.activeDnsRoutes rfc ttl t) ∧
      (purged.listRoutesAdmin rfc ttl t).Perm (kept.listRoutesAdmin rfc ttl t) ∧
      ∀ agent entries, (purged.putRoutes rfc ttl t agent entries).map Prod.fst =
        (kept.putRoutes rfc ttl t agent entries).map Prod.fst
  complete : ∀ host agent seen, s.owner host = some agent → s.lastSeen rfc agent = some seen →
    seen < now - ttl → (s.purgeExpiredAgents ttl now).owner host = none

/-- **The purge keeps its promise exactly while it has nothing to do or its cutoff
is written with a four-digit year.** The listings never notice the purge; from
year 10000 on it misses every dead route. -/
theorem purgeExact_iff {start : Int} {c : Clocked} (reached : c.Reachable rfc start)
    (ttl now : Int) :
    PurgeExact rfc ttl now c.store ↔
      Instant.year (now - ttl) ≤ 9999 ∨
        ∀ host agent seen, c.store.owner host = some agent →
          c.store.lastSeen rfc agent = some seen → now - ttl ≤ seen := by
  have stamped := stamped_of_reachable reached
  constructor
  · intro exact
    by_contra missed
    simp only [not_or, not_forall, not_le] at missed
    obtain ⟨signed, host, agent, seen, owned, last, before⟩ := missed
    have gone := exact.complete host agent seen owned last before
    rw [Store.owner_purgeExpiredAgents, owned, Option.filter_eq_none_iff] at gone
    have expired := gone agent rfl
    simp only [Bool.not_eq_true, Bool.not_eq_false', Store.expiredAgent_iff stamped rfc] at expired
    obtain ⟨_, -, -, four⟩ := expired
    omega
  · intro inRange
    refine ⟨?_, ?_⟩
    · intro calls follow t later kept purged
      have related := (trimmed_purge stamped rfc ttl now).replay calls follow
      exact ⟨(related.liveRows_perm later).map _, (related.liveRows_perm later).map _,
        related.putRoutes_eq later⟩
    · intro host agent seen owned last before
      rcases inRange with four | nothing
      · have expired := (Store.expiredAgent_iff stamped rfc (now - ttl) agent).mpr
          ⟨seen, last, before, four⟩
        rw [Store.owner_purgeExpiredAgents, owned]
        simp [Option.filter, expired]
      · have fresh := nothing host agent seen owned last
        omega

/-- An agent enrolls and registers a hostname, both at `t`. -/
def oneRouteCalls (t : Int) : List (Int × Statement) :=
  [(t, .insertAgent "agt_a".toList "a".toList ⟨"a".toList, "100.64.0.1".toList, "e".toList⟩),
    (t, .transactRoutes (90 * nanosPerSecond) "agt_a".toList
      [⟨"web".toList, "http://10.0.0.1:80".toList, none, none⟩])]

/-- A purge two minutes after the registration is exact. -/
theorem purgeExact_in_four_digits :
    ∃ c, Clocked.Reachable layoutParser 0 c ∧ c.store.owner "web".toList = some "agt_a".toList ∧
      PurgeExact layoutParser (90 * nanosPerSecond) (120 * nanosPerSecond) c.store := by
  have reached : Clocked.Reachable layoutParser 0 _ :=
    Transition.reach_of_run (oneRouteCalls 0) rfl
  exact ⟨_, reached, by decide, (purgeExact_iff reached _ _).mpr (Or.inl (by decide))⟩

/-- **A purge two minutes into year 10000 keeps a dead route.** Its owner was last
seen at 9999-12-31T23:59:00Z; the cutoff `+10000-01-01T00:00:30+00:00` sorts below
that text. -/
theorem signed_cutoff_keeps_dead_route :
    ∃ c, Clocked.Reachable layoutParser 0 c ∧
      c.store.lastSeen layoutParser "agt_a".toList = some (year10000 - 60 * nanosPerSecond) ∧
      (c.store.purgeExpiredAgents (90 * nanosPerSecond) (year10000 + 120 * nanosPerSecond)).owner
        "web".toList = some "agt_a".toList ∧
      ¬PurgeExact layoutParser (90 * nanosPerSecond) (year10000 + 120 * nanosPerSecond)
        c.store := by
  have reached : Clocked.Reachable layoutParser 0 _ :=
    Transition.reach_of_run (oneRouteCalls (year10000 - 60 * nanosPerSecond)) rfl
  refine ⟨_, reached, by decide, by decide, ?_⟩
  intro exact
  have gone := exact.complete "web".toList "agt_a".toList (year10000 - 60 * nanosPerSecond)
    (by decide) (by decide) (by decide)
  revert gone
  decide

end Tailroute.Storage
