/-
# Controller.History — the tables against the history

Facts of every run, whatever the interleaving: an agent's row carries the instant
and the address of its most recent enrollment or heartbeat (`beats`), hostnames
are lowercase (`lowercase`), and every route, like every `put_routes` past its
check, belongs to an agent the table knows (`known`).
-/
import Tailroute.Controller.Tasks

namespace Tailroute.Controller

open Tailroute.Theory Tailroute.Common Tailroute.Storage

set_option autoImplicit false

variable {env : Env} {ok : State → Action → Prop} {start : Int} {s s' : State}

/-- The controller's runs from an empty database, under a side condition on the
steps. -/
abbrev Run (env : Env) (ok : State → Action → Prop) (start : Int) : State → Prop :=
  Transition.Reach (step env) ok (State.init start)

/-! ## Beats -/

/-- The row of an agent against the log. -/
def BeatRow (log : Log) (agent : Text) : Option AgentRow → Prop
  | none => lastBeat log agent = none
  | some row => ∃ t, lastBeat log agent = some (t, row.tailscaleIpv4) ∧
      row.lastSeenAt = some (toRfc3339 t)

theorem BeatRow.congr {log log' : Log} {agent : Text} {row : Option AgentRow}
    (same : lastBeat log' agent = lastBeat log agent) (holds : BeatRow log agent row) :
    BeatRow log' agent row := by
  cases row with
  | none => exact same.trans holds
  | some row =>
      obtain ⟨t, last, written⟩ := holds
      exact ⟨t, same.trans last, written⟩

def Beats (s : State) : Prop := ∀ agent, BeatRow s.log agent (s.store.agents.find? agent)

theorem lastBeat_cons_of_silent {t : Int} {event : Event} (silent : event.beat = none) (log : Log)
    (agent : Text) : lastBeat ((t, event) :: log) agent = lastBeat log agent := by
  rw [lastBeat, silent]

theorem lastBeat_cons_of_beat {t : Int} {event : Event} {a address : Text}
    (beats : event.beat = some (a, address)) (log : Log) (agent : Text) :
    lastBeat ((t, event) :: log) agent =
      if a = agent then some (t, address) else lastBeat log agent := by
  rw [lastBeat, beats]

/-- A step that is neither an enrollment nor a heartbeat keeps what the rows say
about the last beat. -/
theorem beats_perform_of_unstamped (holds : Beats s) (id : Nat) (now : Int) (m : Move)
    (plain : m.statement.any Statement.stampsLastSeen = false)
    (silent : m.event.bind Event.beat = none) : Beats (s.perform env id now m) := by
  intro agent
  have sameLog : lastBeat (s.perform env id now m).log agent = lastBeat s.log agent := by
    cases happened : m.event with
    | none => simp only [State.perform, happened, Option.elim_none]
    | some event =>
        rw [happened, Option.bind_some] at silent
        simp only [State.perform, happened, Option.elim_some]
        exact lastBeat_cons_of_silent silent _ _
  refine BeatRow.congr sameLog ?_
  have row := holds agent
  cases ran : m.statement with
  | none => simpa only [State.perform, ran, Option.elim_none] using row
  | some st =>
      rw [ran, Option.any_some] at plain
      simp only [State.perform, ran, Option.elim_some]
      have change := st.agentChange_exec env.rfc s.store now agent
      generalize s.store.agents.find? agent = before at change row
      generalize (st.exec env.rfc s.store now).agents.find? agent = after at change ⊢
      cases change with
      | kept => exact row
      | enrolled credentialHash body => cases plain
      | seen tailscaleIpv4 old live => cases plain
      | revoked old => exact row

theorem beats_perform (holds : Beats s) {task : Task} {m : Move} {now : Int} (id : Nat)
    (moved : Moves env s now task m) : Beats (s.perform env id now m) := by
  cases moved with
  | enrolled token new fresh =>
      intro agent
      simp only [State.perform, Option.elim_some, Statement.insertAgent_exec, if_neg fresh,
        Table.find?_upsert]
      by_cases same : agent = new.agentId
      · rw [if_pos same]
        refine ⟨now, ?_, rfl⟩
        rw [lastBeat_cons_of_beat rfl, if_pos same.symm]
        rfl
      · rw [if_neg same]
        refine BeatRow.congr ?_ (holds agent)
        rw [lastBeat_cons_of_beat rfl, if_neg (Ne.symm same)]
  | beat agentId tailscaleIpv4 old live =>
      obtain ⟨found, unrevoked⟩ := Store.getAgent_eq_ok.mp live
      intro agent
      simp only [State.perform, Option.elim_some, Statement.heartbeat_exec_find?]
      by_cases same : agent = agentId
      · subst same
        rw [found, Option.map_some, if_pos ⟨rfl, unrevoked⟩]
        refine ⟨now, ?_, rfl⟩
        rw [lastBeat_cons_of_beat rfl, if_pos rfl]
      · have untouched : ∀ row : AgentRow, (if agent = agentId ∧ row.revokedAt = none then
            { row with lastSeenAt := some (toRfc3339 now), tailscaleIpv4 := tailscaleIpv4 }
            else row) = row := fun row => if_neg fun both => same both.1
        simp only [untouched, Option.map_id']
        refine BeatRow.congr ?_ (holds agent)
        rw [lastBeat_cons_of_beat rfl, if_neg (Ne.symm same)]
  | ended => exact beats_perform_of_unstamped holds id now _ rfl rfl
  | issued => exact beats_perform_of_unstamped holds id now _ rfl rfl
  | selected => exact beats_perform_of_unstamped holds id now _ rfl rfl
  | marked => exact beats_perform_of_unstamped holds id now _ rfl rfl
  | heartbeatVerified => exact beats_perform_of_unstamped holds id now _ rfl rfl
  | putVerified => exact beats_perform_of_unstamped holds id now _ rfl rfl
  | putChecked => exact beats_perform_of_unstamped holds id now _ rfl rfl
  | transacted => exact beats_perform_of_unstamped holds id now _ rfl rfl
  | deleted => exact beats_perform_of_unstamped holds id now _ rfl rfl
  | revokeMarked => exact beats_perform_of_unstamped holds id now _ rfl rfl
  | revokeCleared => exact beats_perform_of_unstamped holds id now _ rfl rfl
  | revokeMissed => exact beats_perform_of_unstamped holds id now _ rfl rfl
  | purged => exact beats_perform_of_unstamped holds id now _ rfl rfl
  | read => exact beats_perform_of_unstamped holds id now _ rfl rfl
  | replaced => exact beats_perform_of_unstamped holds id now _ rfl rfl

/-- **Every agent's row is its last beat**, in every state of every run. -/
theorem beats (reached : Run env ok start s) : Beats s := by
  refine reached.invariant (I := Beats) ?_ ?_
  · intro agent
    rfl
  · intro s a s' _ holds _ taken
    rcases step_cases taken with ⟨id, request, task, -, -, -, rfl⟩ | ⟨id, now, task, -, -, -, rfl⟩
    · exact holds
    · exact beats_perform holds id (moves env s now task)

/-! ## Hostnames and owners -/

theorem lowercase (reached : Run env ok start s) : s.store.LowercaseHosts := by
  refine reached.invariant (I := fun s => s.store.LowercaseHosts) ?_ ?_
  · intro host agent owned
    cases owned
  · intro s a s' _ lower _ taken
    rcases step_cases taken with ⟨id, request, task, -, -, -, rfl⟩ | ⟨id, now, task, -, -, -, rfl⟩
    · exact lower
    · simp only [State.perform]
      cases (task.move env s now).statement with
      | none => exact lower
      | some st => exact lower.exec env.rfc now st

/-- The ways a task's step changes the owner of a hostname. -/
inductive OwnerMove (env : Env) (s : State) (now : Int) (host : Text) : Task → Option Text → Prop
  | kept (task : Task) : OwnerMove env s now host task (s.store.owner host)
  | claimed (agent : Text) (entries : List RouteEntry)
      (named : host ∈ entries.map RouteEntry.host)
      (free : conflictWith env.rfc env.ttl now s.store.agents agent s.store.routes host = none) :
      OwnerMove env s now host (.putTransact agent entries) (some agent)
  | withdrawn (agent : Text) (entries : List RouteEntry)
      (omitted : host ∉ entries.map RouteEntry.host) (own : s.store.owner host = some agent) :
      OwnerMove env s now host (.putTransact agent entries) none
  | deleted (hostname : Text) (same : host = toAsciiLowercase hostname) :
      OwnerMove env s now host (.deleteRoute hostname) none
  | cleared (agent : Text) (own : s.store.owner host = some agent) :
      OwnerMove env s now host (.revokeDelete agent) none
  | purged (agent : Text) (own : s.store.owner host = some agent)
      (expired : s.store.expiredAgent (toRfc3339 (now - env.ttl)) agent = true) :
      OwnerMove env s now host .purge none

/-- Tasks about to write the routes table. -/
def Task.writesRoutes : Task → Bool
  | putTransact _ _ => true
  | deleteRoute _ => true
  | revokeDelete _ => true
  | purge => true
  | _ => false

theorem OwnerMove.kept_of {now : Int} {host : Text} {task : Task} {after : Option Text}
    (change : OwnerMove env s now host task after) (silent : task.writesRoutes = false) :
    after = s.store.owner host := by
  cases change with
  | kept => rfl
  | _ => cases silent

theorem ownerMove {task : Task} {m : Move} {now : Int} (moved : Moves env s now task m) (id : Nat)
    (host : Text) :
    OwnerMove env s now host task ((s.perform env id now m).store.owner host) := by
  have executed := fun st : Statement => st.ownerChange_exec env.rfc s.store now host
  cases moved with
  | ended => exact .kept _
  | selected => exact .kept _
  | heartbeatVerified => exact .kept _
  | putVerified => exact .kept _
  | putChecked => exact .kept _
  | read => exact .kept _
  | replaced => exact .kept _
  | issued salt token fresh =>
      simp only [State.perform, Option.elim_some, Statement.insertToken_exec, if_neg fresh]
      exact .kept _
  | marked => exact .kept _
  | enrolled token agent fresh =>
      simp only [State.perform, Option.elim_some, Statement.insertAgent_exec, if_neg fresh]
      exact .kept _
  | beat agentId tailscaleIpv4 row live =>
      simp only [State.perform, Option.elim_some, Store.owner,
        (Statement.heartbeat_exec_routes env.rfc s.store now agentId tailscaleIpv4).1]
      exact .kept _
  | revokeMarked => exact .kept _
  | transacted agent entries =>
      simp only [State.perform, Option.elim_some]
      have change := executed (.transactRoutes env.ttl agent entries)
      generalize (Statement.exec _ _ _ _).owner host = after at change ⊢
      cases change with
      | kept => exact .kept _
      | claimed _ _ _ named free => exact .claimed agent entries named free
      | withdrawn _ _ _ omitted own => exact .withdrawn agent entries omitted own
  | deleted hostname =>
      simp only [State.perform, Option.elim_some]
      have change := executed (.deleteRoute hostname)
      generalize (Statement.exec _ _ _ _).owner host = after at change ⊢
      cases change with
      | kept => exact .kept _
      | deleted _ same => exact .deleted hostname same
  | revokeCleared agent =>
      simp only [State.perform, Option.elim_some]
      have change := executed (.clearRoutes agent)
      generalize (Statement.exec _ _ _ _).owner host = after at change ⊢
      cases change with
      | kept => exact .kept _
      | cleared _ own => exact .cleared agent own
  | revokeMissed agent =>
      simp only [State.perform, Option.elim_some]
      have change := executed (.clearRoutes agent)
      generalize (Statement.exec _ _ _ _).owner host = after at change ⊢
      cases change with
      | kept => exact .kept _
      | cleared _ own => exact .cleared agent own
  | purged =>
      simp only [State.perform, Option.elim_some]
      have change := executed (.purgeExpiredAgents env.ttl)
      generalize (Statement.exec _ _ _ _).owner host = after at change ⊢
      cases change with
      | kept => exact .kept _
      | purged _ agent own expired => exact .purged agent own expired

/-- The table has a row for the agent. -/
def HasRow (s : State) (agent : Text) : Prop := ∃ row, s.store.agents.find? agent = some row

theorem HasRow.perform {agent : Text} (has : HasRow s agent) (id : Nat) (now : Int) (m : Move) :
    HasRow (s.perform env id now m) agent := by
  obtain ⟨row, found⟩ := has
  simp only [State.perform, HasRow]
  cases m.statement with
  | none => exact ⟨row, found⟩
  | some st =>
      obtain ⟨row', found', -⟩ := st.find?_agents_exec env.rfc now found
      exact ⟨row', found'⟩

/-- Only the check lets a request of the agent through to its transaction. -/
theorem putTransact_perform {task : Task} {m : Move} {now : Int} {id id' : Nat} {agent : Text}
    {entries : List RouteEntry} (moved : Moves env s now task m)
    (found : (s.perform env id now m).tasks.find? id' = some (.putTransact agent entries)) :
    (id' ≠ id ∧ s.tasks.find? id' = some (.putTransact agent entries)) ∨
      ∃ row, s.store.getAgent agent = .ok row := by
  rcases task_of_perform found with ⟨-, next⟩ | other
  · right
    cases moved with
    | putChecked _ _ row live =>
        cases next
        exact ⟨row, live⟩
    | _ => cases next
  · exact Or.inl other

/-- Route owners and the agents of checked `put_routes` requests have rows. -/
structure Known (s : State) : Prop where
  owners : ∀ host agent, s.store.owner host = some agent → HasRow s agent
  checked : ∀ id agent entries, s.tasks.find? id = some (.putTransact agent entries) →
    HasRow s agent

theorem known (reached : Run env ok start s) : Known s := by
  refine reached.invariant (I := Known) ?_ ?_
  · refine ⟨?_, ?_⟩
    · intro host agent owned
      cases owned
    · intro id agent entries running
      cases running
  · intro s a s' _ holds _ taken
    rcases step_cases taken with
      ⟨id, request, task, -, started, -, rfl⟩ | ⟨id, now, task, -, -, running, rfl⟩
    · refine ⟨holds.owners, ?_⟩
      intro id' agent entries running
      rcases task_of_spawn started running with first | old
      · cases first
      · exact holds.checked id' agent entries old
    · have moved := moves env s now task
      refine ⟨?_, ?_⟩
      · intro host agent owned
        apply HasRow.perform
        have change := ownerMove moved id host
        rw [owned] at change
        generalize held : some agent = after at change
        cases change with
        | kept => exact holds.owners host agent held.symm
        | claimed claimant entries named free =>
            cases held
            exact holds.checked id agent entries running
        | withdrawn => cases held
        | deleted => cases held
        | cleared => cases held
        | purged => cases held
      · intro id' agent entries found
        apply HasRow.perform
        rcases putTransact_perform moved found with ⟨-, old⟩ | ⟨row, live⟩
        · exact holds.checked id' agent entries old
        · exact ⟨row, (Store.getAgent_eq_ok.mp live).1⟩

end Tailroute.Controller
