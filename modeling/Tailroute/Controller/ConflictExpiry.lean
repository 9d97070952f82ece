/-
# Controller.ConflictExpiry — a refused hostname is free at the reported instant

`put_routes` refuses a hostname of a live agent and reports when that agent's lease ends.
The report adds the lease to a stored timestamp, the test subtracts the timestamp from
the clock, and the purge compares texts. The three meet at one instant: until it the same
request is refused with the same report, from it on it is accepted
(`conflict_expiry_exact`), whether or not a purge has removed the row in between.

A timestamp outside years 0000–9999 is written with a sign, which the grammar of RFC 3339
does not have. Such a timestamp does not parse, its agent has no live lease, and no
conflict is reported for it.
-/
import Tailroute.Controller.Expiry
import Tailroute.Storage.Purge
import Tailroute.Storage.Transaction

namespace Tailroute.Common

set_option autoImplicit false

/-- A written timestamp parses to the instant it was written for if its year has four
digits, and not at all otherwise. -/
def Rfc3339.RoundTrips (rfc : Rfc3339) : Prop :=
  ∀ t, rfc.parse (toRfc3339 t) = if Instant.FourDigitYear t then some t else none

end Tailroute.Common

namespace Tailroute.Controller

open Tailroute.Theory Tailroute.Common Tailroute.Storage

set_option autoImplicit false

variable {rfc : Rfc3339}

/-! ## The owner behind a conflict -/

/-- Every agent carries the text of some instant. -/
def Written (s : Store) : Prop :=
  ∀ agent row, s.agents.find? agent = some row → ∃ seen, row.lastSeenAt = some (toRfc3339 seen)

theorem Written.exec {s : Store} (written : Written s) (now : Int) (st : Statement) :
    Written (st.exec rfc s now) := by
  intro agent row found
  have change := st.agentChange_exec rfc s now agent
  rw [found] at change
  generalize before : s.agents.find? agent = old at change
  cases change with
  | kept => exact written agent row before
  | enrolled credentialHash body => exact ⟨now, rfl⟩
  | seen tailscaleIpv4 old live => exact ⟨now, rfl⟩
  | revoked old => exact written agent old before

theorem written_of_reach {start : Int} {c : Clocked}
    (reached : Transition.Reach (Clocked.execute rfc) (fun _ _ => True) ⟨start, .empty⟩ c) :
    Written c.store := by
  refine reached.invariant (I := fun c => Written c.store) ?_ ?_
  · intro agent row found
    cases found
  · intro s call s' _ written _ taken
    unfold Clocked.execute at taken
    split at taken
    · cases taken
      exact written.exec call.1 call.2
    · cases taken

/-- The owner of a refused hostname: the rows, and the instant its lease is counted from. -/
structure Owner (s : Store) (host : Text) (row : RouteRow) (agent : AgentRow) (seen : Int) :
    Prop where
  route : s.routes.find? host = some row
  known : s.agents.find? row.agentId = some agent
  written : agent.lastSeenAt = some (toRfc3339 seen)
  four : Instant.FourDigitYear seen

/-- A conflict names a live owner, and its expiry is the end of that owner's lease. -/
theorem exists_owner_of_conflict (roundTrips : rfc.RoundTrips) {s : Store} (written : Written s)
    {ttl now expiry : Int} {claimant host owner : Text}
    (blocked : conflictWith rfc ttl now s.agents claimant s.routes host = some (owner, expiry)) :
    ∃ row agent seen, Owner s host row agent seen ∧ row.agentId = owner ∧ owner ≠ claimant ∧
      now - seen < ttl ∧ expiry = seen + ttl := by
  obtain ⟨row, agent, stored, rfl, known, other, alive, rfl⟩ := conflictWith_eq_some.mp blocked
  obtain ⟨seen, stamp⟩ := written _ _ known
  obtain ⟨seen', parsed, recent⟩ := leaseAlive_eq_true_iff.mp alive
  rw [stamp, Option.bind_some, roundTrips seen] at parsed
  split at parsed
  · rename_i four
    cases parsed
    refine ⟨row, agent, seen, ⟨stored, known, stamp, four⟩, rfl, other, recent, ?_⟩
    rw [stamp, Option.bind_some, roundTrips seen, if_pos four, Option.getD_some]
  · cases parsed

/-! ## Waiting for the lease to end -/

/-- The step leaves the rows of the owner and of the hostname alone, or it is a purge. The
claimant stays an agent. -/
def Undisturbed (rfc : Rfc3339) (ttl : Int) (claimant owner host : Text) (c : Clocked)
    (call : Int × Statement) : Prop :=
  call.2 ≠ .markRevoked claimant ∧
    (call.2 = .purgeExpiredAgents ttl ∨
      (call.2.exec rfc c.store call.1).agents.find? owner = c.store.agents.find? owner ∧
        (call.2.exec rfc c.store call.1).routes.find? host = c.store.routes.find? host)

/-- While the claimant waits, the owner's row is as it was and the route is there unless
the lease has ended. -/
structure Waiting (claimant host : Text) (row : RouteRow) (agent : AgentRow) (expiry : Int)
    (c : Clocked) : Prop where
  claimant : ∃ b, c.store.getAgent claimant = .ok b
  agent : c.store.agents.find? row.agentId = some agent
  route : c.store.routes.find? host = some row ∨
    c.store.routes.find? host = none ∧ expiry < c.clock

variable {ttl : Int} {claimant host : Text} {row : RouteRow} {agent : AgentRow} {seen : Int}

/-- The purge takes the route only after the lease has ended. -/
theorem find?_purge (stamp : agent.lastSeenAt = some (toRfc3339 seen))
    (four : Instant.FourDigitYear seen) {s : Store} (known : s.agents.find? row.agentId = some agent)
    (stored : s.routes.find? host = some row) (now : Int) :
    (s.purgeExpiredAgents ttl now).routes.find? host = some row ∨
      (s.purgeExpiredAgents ttl now).routes.find? host = none ∧ seen + ttl < now := by
  rw [Store.purgeExpiredAgents, Table.find?_deleteWhere, stored]
  by_cases expired : s.expiredAgent (toRfc3339 (now - ttl)) row.agentId = true
  · right
    refine ⟨by simp [Option.filter, expired], ?_⟩
    simp only [Store.expiredAgent, known, Store.expiredText, stamp, decide_eq_true_eq] at expired
    have before := (toRfc3339_lt_iff four _).mp expired
    omega
  · left
    simp [Option.filter, expired]

theorem Waiting.step (stamp : agent.lastSeenAt = some (toRfc3339 seen))
    (four : Instant.FourDigitYear seen) {c c' : Clocked} {call : Int × Statement}
    (waiting : Waiting claimant host row agent (seen + ttl) c)
    (undisturbed : Undisturbed rfc ttl claimant row.agentId host c call)
    (taken : Clocked.execute rfc c call = some c') :
    Waiting claimant host row agent (seen + ttl) c' := by
  unfold Clocked.execute at taken
  split at taken
  · rename_i later
    cases taken
    obtain ⟨b, live⟩ := waiting.claimant
    refine ⟨call.2.getAgent_exec rfc call.1 live undisturbed.1, ?_, ?_⟩
    · rcases undisturbed.2 with purge | ⟨kept, -⟩
      · rw [purge]
        exact waiting.agent
      · exact kept.trans waiting.agent
    · rcases undisturbed.2 with purge | ⟨-, kept⟩
      · rw [purge]
        rcases waiting.route with stored | ⟨gone, ended⟩
        · exact find?_purge stamp four waiting.agent stored call.1
        · refine Or.inr ⟨?_, ended.trans_le later⟩
          show ((c.store.purgeExpiredAgents ttl call.1).routes.find? host) = none
          rw [Store.purgeExpiredAgents, Table.find?_deleteWhere, gone]
          rfl
      · rcases waiting.route with stored | ⟨gone, ended⟩
        · exact Or.inl (kept.trans stored)
        · exact Or.inr ⟨kept.trans gone, ended.trans_le later⟩
  · cases taken

theorem waiting_of_reach (stamp : agent.lastSeenAt = some (toRfc3339 seen))
    (four : Instant.FourDigitYear seen) {c c' : Clocked}
    (waiting : Waiting claimant host row agent (seen + ttl) c)
    (reached : Transition.Reach (Clocked.execute rfc)
      (Undisturbed rfc ttl claimant row.agentId host) c c') :
    Waiting claimant host row agent (seen + ttl) c' :=
  reached.invariant waiting fun _ _ _ _ waiting undisturbed taken =>
    waiting.step stamp four undisturbed taken

/-- The conflict test while the claimant waits turns at the end of the lease. -/
theorem Waiting.conflictWith_eq (rfc : Rfc3339)
    (stamp : agent.lastSeenAt = some (toRfc3339 seen)) (four : Instant.FourDigitYear seen)
    (other : row.agentId ≠ claimant) {c : Clocked}
    (waiting : Waiting claimant host row agent (seen + ttl) c) {now : Int} (later : c.clock ≤ now) :
    conflictWith rfc ttl now c.store.agents claimant c.store.routes host =
      if now < seen + ttl then some (row.agentId, seen + ttl) else none := by
  have alive_iff := leaseAlive_iff rfc stamp four ttl now
  by_cases early : now < seen + ttl
  · rw [if_pos early, conflictWith_eq_some]
    rcases waiting.route with stored | ⟨-, ended⟩
    · refine ⟨row, agent, stored, rfl, waiting.agent, other, ?_, ?_⟩
      · exact alive_iff.mpr (by omega)
      · rw [stamp, Option.bind_some, rfc.parse_toRfc3339 seen four, Option.getD_some]
    · omega
  · rw [if_neg early, Option.eq_none_iff_forall_ne_some]
    rintro ⟨owner, expiry⟩ blocked
    obtain ⟨row', agent', stored, rfl, known, -, alive, -⟩ := conflictWith_eq_some.mp blocked
    rcases waiting.route with stored' | ⟨gone, -⟩
    · rw [stored'] at stored
      cases stored
      rw [waiting.agent] at known
      cases known
      have recent := alive_iff.mp alive
      omega
    · rw [gone] at stored
      cases stored

/-! ## The request and its repetition -/

/-- A reported conflict is what the conflict test said. -/
theorem conflictWith_of_mem_conflicts {s : Store} {ttl now : Int} {claimant : Text}
    {entries : List RouteEntry} {conflict : RouteConflict}
    (reported : conflict ∈ (s.transactRoutes rfc ttl now claimant entries).1.conflicts) :
    conflict.hostname ∈ entries.map RouteEntry.host ∧
      Storage.conflictWith rfc ttl now s.agents claimant s.routes conflict.hostname =
        some (conflict.ownerAgentId, conflict.leaseExpiresAt) := by
  rw [Store.transactRoutes, transaction_conflicts, List.mem_filterMap] at reported
  obtain ⟨host, requested, found⟩ := reported
  obtain ⟨held, test, rfl⟩ := Option.map_eq_some_iff.mp found
  exact ⟨requested, test⟩

theorem mem_conflicts_of_conflictWith {s : Store} {ttl now expiry : Int} {claimant owner : Text}
    {entries : List RouteEntry} (requested : host ∈ entries.map RouteEntry.host)
    (blocked : Storage.conflictWith rfc ttl now s.agents claimant s.routes host =
      some (owner, expiry)) :
    ⟨host, owner, expiry⟩ ∈ (s.transactRoutes rfc ttl now claimant entries).1.conflicts := by
  rw [Store.transactRoutes, transaction_conflicts, List.mem_filterMap]
  exact ⟨host, requested, by rw [blocked, Option.map_some]⟩

theorem putRoutes_eq_transactRoutes {s : Store} {ttl now : Int} {claimant : Text}
    {entries : List RouteEntry} {outcome : PutRoutesOutcome} {after : Store}
    (answered : s.putRoutes rfc ttl now claimant entries = .ok (outcome, after)) :
    (∃ b, s.getAgent claimant = .ok b) ∧
      s.transactRoutes rfc ttl now claimant entries = (outcome, after) := by
  unfold Store.putRoutes at answered
  split at answered
  · rename_i b live
    exact ⟨⟨b, live⟩, Except.ok.inj answered⟩
  · cases answered

/-- A refused request leaves both rows alone. -/
theorem waiting_of_refused {s : Store} {now : Int} {held : Text × Int} (entries : List RouteEntry)
    (live : ∃ b, s.getAgent claimant = .ok b) (own : Owner s host row agent seen)
    (other : row.agentId ≠ claimant)
    (blocked : Storage.conflictWith rfc ttl now s.agents claimant s.routes host = some held) :
    Waiting claimant host row agent (seen + ttl)
      ⟨now, (s.transactRoutes rfc ttl now claimant entries).2⟩ := by
  refine ⟨live, own.known, Or.inl ?_⟩
  refine (find?_transactRoutes_of_other ?_ ?_).trans own.route
  · intro mine
    obtain ⟨row', stored, same⟩ := Store.owner_eq_some.mp mine
    rw [own.route] at stored
    cases stored
    exact other same
  · intro taken
    rw [(mem_accepted_iff.mp taken).2] at blocked
    cases blocked

/-- What the request is answered while the claimant waits. -/
theorem Waiting.answer (rfc : Rfc3339) (stamp : agent.lastSeenAt = some (toRfc3339 seen))
    (four : Instant.FourDigitYear seen) (other : row.agentId ≠ claimant) {c : Clocked}
    (waiting : Waiting claimant host row agent (seen + ttl) c) {entries : List RouteEntry}
    (requested : host ∈ entries.map RouteEntry.host) {t : Int} (later : c.clock ≤ t) :
    ∃ outcome after, c.store.putRoutes rfc ttl t claimant entries = .ok (outcome, after) ∧
      (t < seen + ttl →
        ⟨host, row.agentId, seen + ttl⟩ ∈ outcome.conflicts ∧ host ∉ outcome.accepted) ∧
      (seen + ttl ≤ t → host ∈ outcome.accepted ∧ after.owner host = some claimant) := by
  have test := waiting.conflictWith_eq rfc stamp four other later
  obtain ⟨b, usable⟩ := waiting.claimant
  refine ⟨(c.store.transactRoutes rfc ttl t claimant entries).1,
    (c.store.transactRoutes rfc ttl t claimant entries).2, ?_, ?_, ?_⟩
  · rw [Store.putRoutes, usable]
  · intro early
    rw [if_pos early] at test
    refine ⟨mem_conflicts_of_conflictWith requested test, ?_⟩
    intro taken
    rw [(mem_accepted_iff.mp taken).2] at test
    cases test
  · intro due
    rw [if_neg (not_lt.mpr due)] at test
    have taken : host ∈ (c.store.transactRoutes rfc ttl t claimant entries).1.accepted :=
      mem_accepted_iff.mpr ⟨requested, test⟩
    exact ⟨taken, owner_eq_self_iff.mpr taken⟩

/-- **The expiry reported in a conflict is exact.** It lies ahead. While the rows of owner
and hostname are left alone, purges apart, the same request is refused with the same report
before it and accepted from it on. -/
theorem conflict_expiry_exact {rfc : Rfc3339} (roundTrips : rfc.RoundTrips) {start : Int}
    {c : Clocked}
    (reached : Transition.Reach (Clocked.execute rfc) (fun _ _ => True) ⟨start, .empty⟩ c)
    {ttl now expiry : Int} {claimant host owner : Text} {entries : List RouteEntry}
    {outcome : PutRoutesOutcome} {after : Store}
    (answered : c.store.putRoutes rfc ttl now claimant entries = .ok (outcome, after))
    (conflict : ⟨host, owner, expiry⟩ ∈ outcome.conflicts) :
    now < expiry ∧
      ∀ c', Transition.Reach (Clocked.execute rfc) (Undisturbed rfc ttl claimant owner host)
          ⟨now, after⟩ c' →
        ∀ t, c'.clock ≤ t →
          ∃ outcome' after', c'.store.putRoutes rfc ttl t claimant entries = .ok (outcome', after') ∧
            (t < expiry →
              ⟨host, owner, expiry⟩ ∈ outcome'.conflicts ∧ host ∉ outcome'.accepted) ∧
            (expiry ≤ t → host ∈ outcome'.accepted ∧ after'.owner host = some claimant) := by
  obtain ⟨live, ran⟩ := putRoutes_eq_transactRoutes answered
  obtain rfl : (c.store.transactRoutes rfc ttl now claimant entries).1 = outcome := by rw [ran]
  obtain rfl : (c.store.transactRoutes rfc ttl now claimant entries).2 = after := by rw [ran]
  obtain ⟨requested, blocked⟩ := conflictWith_of_mem_conflicts conflict
  obtain ⟨row, agent, seen, own, rfl, other, recent, rfl⟩ :=
    exists_owner_of_conflict roundTrips (written_of_reach reached) blocked
  refine ⟨by omega, ?_⟩
  intro c' quiet t later
  have waiting := waiting_of_reach own.written own.four
    (waiting_of_refused entries live own other blocked) quiet
  exact waiting.answer rfc own.written own.four other requested later

/-! ## A purge after the lease -/

theorem strictParser_roundTrips : strictParser.RoundTrips := by
  intro t
  split
  · rename_i four
    exact strictParser.parse_toRfc3339 t four
  · rename_i signed
    rw [Option.eq_none_iff_forall_ne_some]
    intro t' parsed
    have four := (Option.filter_eq_some_iff.mp parsed).2
    rw [strictParser_readsBack t t' parsed] at four
    exact signed (by simpa using four)

def webEntry (backend : Text) : RouteEntry := ⟨"web".toList, backend, none, none⟩

/-- Two agents enroll at time 0, and the first registers `web`. -/
def contestedWeb : List (Int × Statement) :=
  [(0, .insertAgent "agt_a".toList "h1".toList ⟨"a".toList, "100.64.0.1".toList, "e1".toList⟩),
    (0, .insertAgent "agt_b".toList "h2".toList ⟨"b".toList, "100.64.0.2".toList, "e2".toList⟩),
    (0, .transactRoutes (90 * nanosPerSecond) "agt_a".toList
      [webEntry "http://10.0.0.1:80/".toList])]

/-- At ten seconds the second agent is told to wait until ninety. A purge at a hundred
removes the row, and the agent gets the name. -/
theorem conflict_expiry_exact_purged :
    ∃ (c : Clocked) (outcome : PutRoutesOutcome) (after : Store),
      Transition.Reach (Clocked.execute strictParser) (fun _ _ => True) ⟨0, .empty⟩ c ∧
      c.store.putRoutes strictParser (90 * nanosPerSecond) (10 * nanosPerSecond) "agt_b".toList
        [webEntry "http://10.0.0.2:80/".toList] = .ok (outcome, after) ∧
      ⟨"web".toList, "agt_a".toList, 90 * nanosPerSecond⟩ ∈ outcome.conflicts ∧
      ∃ outcome' after',
        (after.purgeExpiredAgents (90 * nanosPerSecond) (100 * nanosPerSecond)).putRoutes
          strictParser (90 * nanosPerSecond) (100 * nanosPerSecond) "agt_b".toList
          [webEntry "http://10.0.0.2:80/".toList] = .ok (outcome', after') ∧
        "web".toList ∈ outcome'.accepted ∧ after'.owner "web".toList = some "agt_b".toList := by
  have refused : ∃ c,
      Transition.Reach (Clocked.execute strictParser) (fun _ _ => True) ⟨0, .empty⟩ c ∧
        (c.store.getAgent "agt_b".toList).toOption.isSome ∧
          (⟨"web".toList, "agt_a".toList, 90 * nanosPerSecond⟩ : RouteConflict) ∈
            (c.store.transactRoutes strictParser (90 * nanosPerSecond) (10 * nanosPerSecond)
              "agt_b".toList [webEntry "http://10.0.0.2:80/".toList]).1.conflicts :=
    Transition.exists_reach_of_run _ contestedWeb (by decide +kernel)
  obtain ⟨c, reached, known, conflict⟩ := refused
  have answered : c.store.putRoutes strictParser (90 * nanosPerSecond) (10 * nanosPerSecond)
      "agt_b".toList [webEntry "http://10.0.0.2:80/".toList] =
        .ok (c.store.transactRoutes strictParser (90 * nanosPerSecond) (10 * nanosPerSecond)
          "agt_b".toList [webEntry "http://10.0.0.2:80/".toList]) := by
    unfold Store.putRoutes
    cases agent : c.store.getAgent "agt_b".toList with
    | ok row => rfl
    | error e =>
        rw [agent] at known
        cases known
  obtain ⟨-, later⟩ := conflict_expiry_exact strictParser_roundTrips reached answered conflict
  have waited : 10 * nanosPerSecond ≤ 100 * nanosPerSecond := by decide
  have purged : Transition.Reach (Clocked.execute strictParser)
      (Undisturbed strictParser (90 * nanosPerSecond) "agt_b".toList "agt_a".toList "web".toList)
      ⟨10 * nanosPerSecond, (c.store.transactRoutes strictParser (90 * nanosPerSecond)
        (10 * nanosPerSecond) "agt_b".toList [webEntry "http://10.0.0.2:80/".toList]).2⟩ _ :=
    Transition.Reach.start.next
      (a := (100 * nanosPerSecond, .purgeExpiredAgents (90 * nanosPerSecond)))
      ⟨Statement.noConfusion, Or.inl rfl⟩ (if_pos waited)
  obtain ⟨outcome', after', answered', -, accepted⟩ := later _ purged (100 * nanosPerSecond) le_rfl
  exact ⟨c, _, _, reached, answered, conflict, outcome', after', answered', accepted (by decide)⟩

end Tailroute.Controller
