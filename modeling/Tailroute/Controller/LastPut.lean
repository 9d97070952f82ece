/-
# Controller.LastPut — the routes table against the last route set of each agent

`put_routes` replaces the whole set of an agent; everything else only deletes rows. So in
every run, whatever is interleaved, each row is what the most recent stored set of its
owner has for that name (`fromLastPut`): no row of an older set survives, and no
row appears that its owner did not send.
-/
import Tailroute.Controller.History

namespace Tailroute.Controller

open Tailroute.Theory Tailroute.Common Tailroute.Storage

set_option autoImplicit false

variable {env : Env} {ok : State → Action → Prop} {start : Int} {s s' : State}

/-! ## Where a row comes from -/

/-- A row after a statement: an older one, which is not of an agent that has just sent a
route set, or the last entry of such a set. -/
inductive RowOrigin (s : Store) (now : Int) (host : Text) (row : RouteRow) : Statement → Prop
  | kept (st : Statement) (stored : s.routes.find? host = some row)
      (foreign : ∀ ttl agent entries, st = .transactRoutes ttl agent entries →
        row.agentId ≠ agent) : RowOrigin s now host row st
  | written (ttl : Int) (agent : Text) (entries : List RouteEntry) (entry : RouteEntry)
      (last : lastEntry entries host = some entry) (same : row = entry.row now agent) :
      RowOrigin s now host row (.transactRoutes ttl agent entries)

theorem rowOrigin_transactRoutes (rfc : Rfc3339) {s : Store} {ttl now : Int} {agent host : Text}
    {entries : List RouteEntry} {row : RouteRow}
    (stored : (s.transactRoutes rfc ttl now agent entries).2.routes.find? host = some row) :
    RowOrigin s now host row (.transactRoutes ttl agent entries) := by
  have foreign : ∀ {row : RouteRow}, row.agentId ≠ agent →
      ∀ ttl' agent' entries', Statement.transactRoutes ttl agent entries =
        .transactRoutes ttl' agent' entries' → row.agentId ≠ agent' := by
    rintro row other _ _ _ ⟨⟩
    exact other
  simp only [Store.transactRoutes, transaction_find?] at stored
  cases last : lastEntry entries host with
  | none =>
      rw [last] at stored
      obtain ⟨there, other⟩ := Option.filter_eq_some_iff.mp stored
      exact .kept _ there (foreign (of_decide_eq_true other))
  | some entry =>
      simp only [last] at stored
      split at stored
      · cases stored
        exact .written ttl agent entries entry last rfl
      · rename_i blocked
        obtain ⟨⟨owner, expiry⟩, held⟩ := Option.ne_none_iff_exists'.mp blocked
        obtain ⟨row', _, there, rfl, -, other, -⟩ := conflictWith_eq_some.mp held
        rw [stored] at there
        cases there
        exact .kept _ stored (foreign other)

theorem rowOrigin_exec (rfc : Rfc3339) {s : Store} {now : Int} {host : Text} {row : RouteRow}
    (st : Statement) (stored : (st.exec rfc s now).routes.find? host = some row) :
    RowOrigin s now host row st := by
  cases st with
  | transactRoutes ttl agent entries => exact rowOrigin_transactRoutes rfc stored
  | insertToken hash =>
      rw [Statement.insertToken_exec] at stored
      refine .kept _ ?_ (by rintro _ _ _ ⟨⟩)
      split at stored <;> exact stored
  | insertAgent agentId credentialHash body =>
      rw [Statement.insertAgent_exec] at stored
      refine .kept _ ?_ (by rintro _ _ _ ⟨⟩)
      split at stored <;> exact stored
  | heartbeat agentId tailscaleIpv4 =>
      rw [(Statement.heartbeat_exec_routes rfc s now agentId tailscaleIpv4).1] at stored
      exact .kept _ stored (by rintro _ _ _ ⟨⟩)
  | markToken _ | markRevoked _ => exact .kept _ stored (by rintro _ _ _ ⟨⟩)
  | deleteRoute _ | clearRoutes _ | purgeExpiredAgents _ =>
      exact .kept _ (Table.find?_deleteWhere_eq_some.mp stored).1 (by rintro _ _ _ ⟨⟩)

/-! ## The last stored route set -/

/-- The agent whose route set was stored, and the set. -/
def Event.put : Event → Option (Text × List RouteEntry)
  | putRoutes agentId entries _ => some (agentId, entries)
  | _ => none

/-- The most recent route set of an agent: when it was stored, and its entries. -/
def lastPut : Log → Text → Option (Int × List RouteEntry)
  | [], _ => none
  | (t, event) :: past, agent =>
      match event.put with
      | some (a, entries) => if a = agent then some (t, entries) else lastPut past agent
      | none => lastPut past agent

theorem lastPut_cons_of_put {t : Int} {event : Event} {a : Text} {entries : List RouteEntry}
    (puts : event.put = some (a, entries)) (log : Log) (agent : Text) :
    lastPut ((t, event) :: log) agent =
      if a = agent then some (t, entries) else lastPut log agent := by
  rw [lastPut, puts]

/-- The route set a step of the task stores. -/
def Task.stores : Task → Option (Text × List RouteEntry)
  | putTransact agentId entries => some (agentId, entries)
  | _ => none

/-- What a step does to the last route sets: storing one is the transaction's own. -/
theorem lastPut_perform {task : Task} {m : Move} {now : Int} (id : Nat)
    (moved : Moves env s now task m) (agent : Text) :
    lastPut (s.perform env id now m).log agent =
      match task.stores with
      | some (a, entries) => if a = agent then some (now, entries) else lastPut s.log agent
      | none => lastPut s.log agent := by
  cases moved with
  | ended task refusable => cases task <;> first | rfl | cases refusable
  | transacted agentId entries => exact lastPut_cons_of_put rfl s.log agent
  | _ => rfl

/-- The statement of a step is a transaction exactly if the task is about to store a set. -/
theorem stores_iff {task : Task} {m : Move} {now : Int} {agent : Text} {entries : List RouteEntry}
    (moved : Moves env s now task m) :
    task.stores = some (agent, entries) ↔
      m.statement = some (.transactRoutes env.ttl agent entries) := by
  cases moved with
  | transacted agentId entries => simp [Task.stores]
  | ended task refusable =>
      cases task with
      | putTransact => cases refusable
      | _ => simp [Task.stores]
  | _ => simp [Task.stores]

/-- Every row is what the last route set of its owner has for the name. -/
def FromLastPut (s : State) : Prop :=
  ∀ host row, s.store.routes.find? host = some row →
    ∃ t entries entry, lastPut s.log row.agentId = some (t, entries) ∧
      lastEntry entries host = some entry ∧ row = entry.row t row.agentId

theorem fromLastPut_perform (holds : FromLastPut s) {task : Task} {m : Move} {now : Int} (id : Nat)
    (moved : Moves env s now task m) : FromLastPut (s.perform env id now m) := by
  intro host row stored
  rw [lastPut_perform id moved]
  -- a row that is not of the agent whose set was stored keeps its own set
  have older : s.store.routes.find? host = some row →
      (∀ agent entries, m.statement = some (.transactRoutes env.ttl agent entries) →
        row.agentId ≠ agent) →
      ∃ t entries entry, (match task.stores with
          | some (a, entries) =>
              if a = row.agentId then some (now, entries) else lastPut s.log row.agentId
          | none => lastPut s.log row.agentId) = some (t, entries) ∧
        lastEntry entries host = some entry ∧ row = entry.row t row.agentId := by
    intro there foreign
    cases stores : task.stores with
    | none => exact holds host row there
    | some put =>
        have other := foreign put.1 put.2 ((stores_iff moved).mp stores)
        simp only [if_neg (Ne.symm other)]
        exact holds host row there
  cases ran : m.statement with
  | none =>
      simp only [State.perform, ran, Option.elim_none] at stored
      exact older stored (by simp [ran])
  | some st =>
      simp only [State.perform, ran, Option.elim_some] at stored
      cases rowOrigin_exec env.rfc st stored with
      | kept _ there foreign =>
          refine older there ?_
          intro agent entries transacts
          exact foreign env.ttl agent entries (Option.some.inj (ran.symm.trans transacts))
      | written ttl agent entries entry last same =>
          obtain rfl : ttl = env.ttl := by
            cases moved <;> cases ran
            rfl
          rw [(stores_iff moved).mpr ran, same]
          exact ⟨now, entries, entry, if_pos rfl, last, rfl⟩

/-- **Every route is of its owner's last route set**, in every state of every run. -/
theorem fromLastPut (reached : Run env ok start s) : FromLastPut s := by
  refine reached.invariant (I := FromLastPut) ?_ ?_
  · intro host row stored
    cases stored
  · intro s a s' _ holds _ taken
    rcases step_cases taken with ⟨id, request, task, -, -, -, rfl⟩ | ⟨id, now, task, -, -, -, rfl⟩
    · exact holds
    · exact fromLastPut_perform holds id (moves env s now task)

end Tailroute.Controller
