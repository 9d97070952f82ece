/-
# Controller.Revocation — a revocation is final, unless a request is past its check

`put_routes` asks whether its agent is revoked before its transaction, and
`revoke_agent` marks the agent before it deletes its routes. A request that got
past the check before the mark and runs its transaction after the deletion leaves
the revoked agent with routes (`revoked_agent_owns_route`), and since the conflict
test does not look at `revoked_at` they block other agents.

If no such request is in flight when the deletion runs, the revocation is final in
every later state (`revocation_final`).
-/
import Tailroute.Controller.History
import Tailroute.Storage.LiveRoutes

namespace Tailroute.Controller

open Tailroute.Theory Tailroute.Common Tailroute.Storage

set_option autoImplicit false

variable {env : Env} {start : Int} {s s' : State}

/-- The agent whose routes the task is about to delete. -/
def Task.clears : Task → Option Text
  | revokeDelete agentId => some agentId
  | _ => none

/-- The task is a `put_routes` of the agent, past its check. -/
def Task.transactsFor (agent : Text) : Task → Bool
  | putTransact agentId _ => agentId == agent
  | _ => false

/-- When a revocation deletes the agent's routes, no `put_routes` of that agent is
between its check and its transaction. -/
def RevokesBetweenPuts (s : State) : Action → Prop
  | .spawn _ _ => True
  | .advance id _ => ∀ agent ∈ (s.tasks.find? id).bind Task.clears,
      ∀ row ∈ s.tasks.rows, row.2.transactsFor agent = false

instance (s : State) (a : Action) : Decidable (RevokesBetweenPuts s a) :=
  match a with
  | .spawn _ _ => isTrue trivial
  | .advance _ _ => inferInstanceAs (Decidable (∀ _ ∈ _, ∀ _ ∈ _, _))

/-- What a finished revocation promises: the agent owns nothing, and no request is
refused in its name. -/
def RevocationFinal (env : Env) (s : State) : Prop :=
  ∀ agent, Revoked s.log agent →
    (∀ host, s.store.owner host ≠ some agent) ∧
    ∀ other entries now,
      ∀ conflict ∈ (s.store.transactRoutes env.rfc env.ttl now other entries).1.conflicts,
        conflict.ownerAgentId ≠ agent

/-! ## What stays of a revoked agent -/

/-- A marked row, no routes, and no request past its check. -/
structure Gone (s : State) (agent : Text) : Prop where
  marked : ∃ row, s.store.agents.find? agent = some row ∧ row.revokedAt ≠ none
  routeless : ∀ host, s.store.owner host ≠ some agent
  refused : ∀ id entries, s.tasks.find? id ≠ some (.putTransact agent entries)

theorem Gone.not_live {agent : Text} (gone : Gone s agent) {row : AgentRow} :
    s.store.getAgent agent ≠ .ok row := by
  intro live
  obtain ⟨marked, found, revoked⟩ := gone.marked
  obtain ⟨found', unrevoked⟩ := Store.getAgent_eq_ok.mp live
  rw [found] at found'
  cases found'
  exact revoked unrevoked

theorem marked_perform {agent : Text}
    (marked : ∃ row, s.store.agents.find? agent = some row ∧ row.revokedAt ≠ none) (id : Nat)
    (now : Int) (m : Move) :
    ∃ row, (s.perform env id now m).store.agents.find? agent = some row ∧ row.revokedAt ≠ none := by
  obtain ⟨row, found, revoked⟩ := marked
  simp only [State.perform]
  cases m.statement with
  | none => exact ⟨row, found, revoked⟩
  | some st =>
      obtain ⟨row', found', keeps⟩ := st.find?_agents_exec env.rfc now found
      exact ⟨row', found', keeps revoked⟩

/-- A revoked agent stays gone. -/
theorem Gone.perform {agent : Text} (gone : Gone s agent) {task : Task} {m : Move} {now : Int}
    {id : Nat} (running : s.tasks.find? id = some task) (moved : Moves env s now task m) :
    Gone (s.perform env id now m) agent := by
  refine ⟨marked_perform gone.marked id now m, ?_, ?_⟩
  · intro host owned
    have change := ownerMove moved id host
    rw [owned] at change
    generalize held : some agent = after at change
    cases change with
    | kept => exact gone.routeless host held.symm
    | claimed claimant entries named free =>
        cases held
        exact gone.refused id entries running
    | withdrawn => cases held
    | deleted => cases held
    | cleared => cases held
    | purged => cases held
  · intro id' entries found
    rcases putTransact_perform moved found with ⟨-, old⟩ | ⟨row, live⟩
    · exact gone.refused id' entries old
    · exact gone.not_live live

/-- The deletion of a marked agent's routes makes it gone, if nothing of it is past
its check. -/
theorem gone_of_cleared {agent : Text} {row : AgentRow} (id : Nat) (now : Int)
    (found : s.store.agents.find? agent = some row) (revoked : row.revokedAt ≠ none)
    (alone : ∀ other entries, s.tasks.find? other ≠ some (.putTransact agent entries)) :
    Gone (s.perform env id now ((Task.revokeDelete agent).move env s now)) agent := by
  refine ⟨marked_perform ⟨row, found, revoked⟩ id now _, ?_, ?_⟩
  · intro host owned
    simp only [State.perform, Task.move, Option.elim_some, Statement.exec, Store.owner_clearRoutes,
      Option.filter_eq_some_iff] at owned
    simpa using owned.2
  · intro id' entries there
    have passed := putTransact_perform (moves env s now (.revokeDelete agent)) there
    rcases passed with ⟨-, old⟩ | ⟨row', live⟩
    · exact alone id' entries old
    · obtain ⟨found', unrevoked⟩ := Store.getAgent_eq_ok.mp live
      rw [found] at found'
      cases found'
      exact revoked unrevoked

/-- A revocation enters the log when the routes of a marked agent are deleted. -/
theorem revoked_perform {task : Task} {m : Move} {now : Int} {id : Nat} {agent : Text}
    (moved : Moves env s now task m) (revoked : Revoked (s.perform env id now m).log agent) :
    Revoked s.log agent ∨ task = .revokeDelete agent ∧
      ∃ row, s.store.agents.find? agent = some row ∧ row.revokedAt ≠ none := by
  obtain ⟨t, member⟩ := revoked
  cases moved with
  | revokeCleared agentId row found gone =>
      simp only [State.perform, Option.elim_some, List.mem_cons] at member
      rcases member with new | old
      · cases new
        exact Or.inr ⟨rfl, row, found, gone⟩
      · exact Or.inl ⟨t, old⟩
  | ended => exact Or.inl ⟨t, member⟩
  | selected => exact Or.inl ⟨t, member⟩
  | marked => exact Or.inl ⟨t, member⟩
  | heartbeatVerified => exact Or.inl ⟨t, member⟩
  | putVerified => exact Or.inl ⟨t, member⟩
  | putChecked => exact Or.inl ⟨t, member⟩
  | revokeMarked => exact Or.inl ⟨t, member⟩
  | revokeMissed => exact Or.inl ⟨t, member⟩
  | read => exact Or.inl ⟨t, member⟩
  | replaced => exact Or.inl ⟨t, member⟩
  | _ =>
      simp only [State.perform, Option.elim_some, List.mem_cons, Prod.mk.injEq, reduceCtorEq,
        and_false, false_or] at member
      exact Or.inl ⟨t, member⟩

theorem gone_of_revoked (reached : Run env RevokesBetweenPuts start s) :
    ∀ agent, Revoked s.log agent → Gone s agent := by
  refine reached.invariant (I := fun s => ∀ agent, Revoked s.log agent → Gone s agent) ?_ ?_
  · rintro agent ⟨t, member⟩
    cases member
  · intro s a s' _ gone allowed taken agent revoked
    rcases step_cases taken with
      ⟨id, request, task, -, started, -, rfl⟩ | ⟨id, now, task, rfl, -, running, rfl⟩
    · obtain ⟨marked, routeless, refused⟩ := gone agent revoked
      refine ⟨marked, routeless, ?_⟩
      intro id' entries found
      rcases task_of_spawn started found with first | old
      · cases first
      · exact refused id' entries old
    · have moved := moves env s now task
      rcases revoked_perform moved revoked with old | ⟨rfl, row, found, marked⟩
      · exact (gone agent old).perform running moved
      · refine gone_of_cleared id now found marked ?_
        intro other entries past
        have clear := allowed agent (by rw [running]; rfl) _ (Table.find?_eq_some_iff.mp past)
        simp [Task.transactsFor] at clear

/-- **A finished revocation is final.** In every run in which no `put_routes` of an
agent is past its check when that agent's routes are deleted, a revoked agent owns
no route in any later state and no conflict names it. -/
theorem revocation_final (reached : Run env RevokesBetweenPuts start s) :
    RevocationFinal env s := by
  intro agent revoked
  have gone := gone_of_revoked reached agent revoked
  refine ⟨gone.routeless, ?_⟩
  intro other entries now conflict member named
  obtain ⟨-, expiry, blocked⟩ := mem_conflicts.mp ⟨conflict, member, rfl, named⟩
  obtain ⟨route, row, stored, own, -⟩ := conflictWith_eq_some.mp blocked
  exact gone.routeless _ (Store.owner_eq_some.mpr ⟨route, stored, own⟩)

/-- Two agents enroll; the first one's `put_routes` of `web` is authenticated. -/
def enrolledPair : List Action :=
  [.spawn 0 (.createEnrollmentToken [] "t".toList), .advance 0 0,
    .spawn 1 (.createEnrollmentToken [] "u".toList), .advance 1 0,
    .spawn 2 (.enroll (some "Bearer t".toList)
      ⟨"agt_a".toList, [], "a".toList, ⟨"a".toList, "100.64.0.1".toList, "e".toList⟩⟩),
    .advance 2 0, .advance 2 0, .advance 2 0,
    .spawn 3 (.enroll (some "Bearer u".toList)
      ⟨"agt_b".toList, [], "b".toList, ⟨"b".toList, "100.64.0.2".toList, "e".toList⟩⟩),
    .advance 3 0, .advance 3 0, .advance 3 0,
    .spawn 4 (.putRoutes "agt_a".toList (some "Bearer a".toList)
      [⟨"web".toList, "http://10.0.0.1:80".toList, none, none⟩]),
    .advance 4 0]

/-- The revocation runs before the check. -/
theorem revocation_final_before_check :
    ∃ s, Run plainEnv RevokesBetweenPuts 0 s ∧ Revoked s.log "agt_a".toList ∧
      RevocationFinal plainEnv s := by
  have reached : Run plainEnv RevokesBetweenPuts 0 _ :=
    Transition.reach_of_run
      (enrolledPair ++ [.spawn 5 (.revokeAgent "agt_a".toList), .advance 5 1, .advance 5 1,
        .advance 4 2]) rfl
  exact ⟨_, reached, ⟨1, List.mem_cons_self⟩, revocation_final reached⟩

/-- **A revoked agent owns a route.** The revocation runs between the check and the
transaction of a `put_routes`; afterwards the other agent is refused `web` with a
conflict that names the revoked one. -/
theorem revoked_agent_owns_route :
    ∃ s, Run plainEnv (fun _ _ => True) 0 s ∧ Revoked s.log "agt_a".toList ∧
      s.store.owner "web".toList = some "agt_a".toList ∧
      (s.store.transactRoutes plainEnv.rfc plainEnv.ttl 3 "agt_b".toList
        [⟨"web".toList, "http://10.0.0.2:80".toList, none, none⟩]).1.conflicts.map
          RouteConflict.ownerAgentId = ["agt_a".toList] ∧
      ¬RevocationFinal plainEnv s := by
  have reached : Run plainEnv (fun _ _ => True) 0 _ :=
    Transition.reach_of_run
      (enrolledPair ++ [.advance 4 1, .spawn 5 (.revokeAgent "agt_a".toList), .advance 5 1,
        .advance 5 1, .advance 4 2]) rfl
  refine ⟨_, reached, ⟨1, List.mem_cons_of_mem _ List.mem_cons_self⟩, by decide, by decide, ?_⟩
  intro final
  exact (final "agt_a".toList ⟨1, List.mem_cons_of_mem _ List.mem_cons_self⟩).1 "web".toList
    (by decide)

end Tailroute.Controller
