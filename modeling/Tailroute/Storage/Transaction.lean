/-
# Storage.Transaction — `put_routes`, statement by statement

`Storage.PutRoutes` takes the transaction as one atomic step. Here the call is taken
apart into the statements it sends: the agent check, `BEGIN`, a `SELECT` and perhaps an
upsert for each entry, the list of owned hostnames, the deletions and `COMMIT`. Any of
them may fail, and then the function returns at once and drops its transaction.

A `Session` keeps the committed tables apart from the routes that the open transaction
sees. A write inside a transaction is pending and a write outside is committed, so that
nothing is lost or kept by definition. `ends_putRoutesCall` shows that the call commits
what the one step commits, or nothing.
-/
import Tailroute.Theory.Attempt
import Tailroute.Storage.EnabledServices
import Tailroute.Storage.Operations

namespace Tailroute.Storage

open Tailroute.Theory Tailroute.Common

set_option autoImplicit false

/-! ## Sessions -/

structure SnapshotRow where
  payloadJson : Text
  updatedAt : Text
deriving DecidableEq

/-- All the tables, with those of `migrations/002_discovery.sql`. -/
structure Database where
  store : Store
  discoverySnapshots : Table Text SnapshotRow
  enabledServices : EnabledServices

/-- A connection: the committed tables, the routes as the open transaction has them, and
the number of statements sent. -/
structure Session where
  database : Database
  pending : Option (Table Text RouteRow)
  executed : Nat

def Database.session (db : Database) : Session := ⟨db, none, 0⟩

namespace Session

/-- The routes that a statement reads. -/
def routes (c : Session) : Table Text RouteRow := c.pending.getD c.database.store.routes

/-- Commit the routes. -/
def save (c : Session) (routes : Table Text RouteRow) : Session :=
  { c with database.store.routes := routes }

/-- Write the routes, in the transaction if one is open. -/
def write (c : Session) (routes : Table Text RouteRow) : Session :=
  if c.pending.isSome then { c with pending := some routes } else c.save routes

/-- `BEGIN`. -/
def openTransaction (c : Session) : Session := { c with pending := some c.routes }

/-- `COMMIT`. -/
def commit (c : Session) : Session := { c.save c.routes with pending := none }

/-- One more statement was sent. -/
def count (c : Session) : Session := { c with executed := c.executed + 1 }

end Session

/-! ## The call -/

section Call

variable (fault : Nat → Option StorageError)

/-- Send a statement; `fault` decides whether it fails, and a failed one does nothing. -/
def statement {α : Type} (effect : Session → α × Session) : Attempt Session StorageError α :=
  fun c =>
    match fault c.executed with
    | some e => (.error e, c.count)
    | none => (.ok (effect c.count).1, (effect c.count).2)

/-- A statement that only reads. -/
def query {α : Type} (read : Session → α) : Attempt Session StorageError α :=
  statement fault fun c => (read c, c)

/-- A statement that only writes. -/
def execute (effect : Session → Session) : Attempt Session StorageError Unit :=
  statement fault fun c => ((), effect c)

variable (rfc : Rfc3339) (ttl now : Int) (agentId : Text)

def getAgentCall : Attempt Session StorageError AgentRow := do
  let found ← query fault fun c => c.database.store.getAgent agentId
  Attempt.ofExcept fun _ => found

def putEntryCall (outcome : PutRoutesOutcome) (entry : RouteEntry) :
    Attempt Session StorageError PutRoutesOutcome := do
  let held ← query fault fun c =>
    conflictWith rfc ttl now c.database.store.agents agentId c.routes entry.host
  match held with
  | some (owner, expiry) =>
      pure { outcome with conflicts := outcome.conflicts ++ [⟨entry.host, owner, expiry⟩] }
  | none => do
      execute fault fun c => c.write (c.routes.upsert entry.host (entry.row now agentId))
      pure { outcome with accepted := outcome.accepted ++ [entry.host] }

def dropCall (desired : List Text) (_ : Unit) (host : Text) :
    Attempt Session StorageError Unit :=
  if host ∈ desired then pure ()
  else
    execute fault fun c =>
      c.write (c.routes.deleteWhere fun h row => decide (h = host ∧ row.agentId = agentId))

/-- `Storage::put_routes`. -/
def putRoutesCall (entries : List RouteEntry) : Attempt Session StorageError PutRoutesOutcome := do
  let _ ← getAgentCall fault agentId
  execute fault Session.openTransaction
  let outcome ← entries.foldlM (putEntryCall fault rfc ttl now agentId) ⟨[], []⟩
  let owned ← query fault fun c => ownedHosts agentId c.routes
  owned.foldlM (dropCall fault agentId (entries.map RouteEntry.host)) ()
  execute fault Session.commit
  pure outcome

/-- The answer of a call on a database, and the database after it. A transaction that is
still open when the call returns is rolled back. -/
def Database.putRoutes (db : Database) (entries : List RouteEntry) :
    Except StorageError PutRoutesOutcome × Database :=
  let ended := putRoutesCall fault rfc ttl now agentId entries db.session
  (ended.1, ended.2.database)

/-! ## What the call commits -/

variable {fault rfc ttl now agentId}

/-- No statement that was sent has failed. -/
def Clean (fault : Nat → Option StorageError) (c : Session) : Prop :=
  ∀ n < c.executed, fault n = none

theorem Clean.count {c : Session} (clean : Clean fault c) (passed : fault c.executed = none) :
    Clean fault c.count := by
  intro n sent
  rcases Nat.lt_succ_iff_lt_or_eq.mp sent with earlier | rfl
  · exact clean n earlier
  · exact passed

/-- The call failed and nothing is committed: a statement failed or the agent was not
found. -/
def Unfinished (fault : Nat → Option StorageError) (agentId : Text) (db : Database)
    (e : StorageError) (c : Session) : Prop :=
  c.database = db ∧
    ((∃ n < c.executed, fault n = some e) ∨ db.store.getAgent agentId = .error e)

/-- Inside the transaction, with the routes it has so far. -/
structure InTransaction (fault : Nat → Option StorageError) (db : Database)
    (routes : Table Text RouteRow) (c : Session) : Prop where
  database : c.database = db
  pending : c.pending = some routes
  clean : Clean fault c

variable {db : Database} {routes : Table Text RouteRow} {c : Session}

theorem InTransaction.routes_eq (within : InTransaction fault db routes c) : c.routes = routes := by
  rw [Session.routes, within.pending, Option.getD_some]

theorem InTransaction.count (within : InTransaction fault db routes c)
    (passed : fault c.executed = none) : InTransaction fault db routes c.count :=
  ⟨within.database, within.pending, within.clean.count passed⟩

theorem InTransaction.write (within : InTransaction fault db routes c)
    (routes' : Table Text RouteRow) : InTransaction fault db routes' (c.write routes') := by
  have pending : c.pending.isSome = true := by rw [within.pending, Option.isSome_some]
  rw [Session.write, if_pos pending]
  exact ⟨within.database, rfl, within.clean⟩

/-- A statement is executed, or fails and is only counted. -/
theorem ends_statement {α : Type} {effect : Session → α × Session} {ok : α → Session → Prop}
    {bad : StorageError → Session → Prop}
    (done : fault c.executed = none → ok (effect c.count).1 (effect c.count).2)
    (failed : ∀ e, fault c.executed = some e → bad e c.count) :
    (statement fault effect).Ends c ok bad := by
  unfold Attempt.Ends statement
  cases sent : fault c.executed with
  | none => exact done sent
  | some e => exact failed e sent

/-- A statement that fails leaves the call unfinished. -/
theorem unfinished_of_fault (database : c.database = db) (e : StorageError)
    (sent : fault c.executed = some e) : Unfinished fault agentId db e c.count :=
  ⟨database, Or.inl ⟨c.executed, Nat.lt_succ_self _, sent⟩⟩

theorem ends_query {α : Type} (within : InTransaction fault db routes c)
    (read : Session → α) (same : ∀ c', InTransaction fault db routes c' → read c' = read c) :
    (query fault read).Ends c (fun a c' => a = read c ∧ InTransaction fault db routes c')
      (Unfinished fault agentId db) :=
  ends_statement (fun passed => ⟨same _ (within.count passed), within.count passed⟩)
    (unfinished_of_fault within.database)

/-- A write inside the transaction. -/
theorem ends_write (within : InTransaction fault db routes c)
    (f : Table Text RouteRow → Table Text RouteRow) :
    (execute fault fun c => c.write (f c.routes)).Ends c
      (fun _ c' => InTransaction fault db (f routes) c') (Unfinished fault agentId db) := by
  refine ends_statement (fun passed => ?_) (unfinished_of_fault within.database)
  have counted := within.count passed
  show InTransaction fault db (f routes) (c.count.write (f c.count.routes))
  rw [counted.routes_eq]
  exact counted.write (f routes)

/-- **One entry.** The statements for an entry do to the transaction what `putEntry` does
to its table, and extend the answer as it does. -/
theorem ends_putEntryCall (within : InTransaction fault db routes c) (outcome : PutRoutesOutcome)
    (entry : RouteEntry) :
    (putEntryCall fault rfc ttl now agentId outcome entry).Ends c
      (fun outcome' c' => ∃ routes',
        putEntry rfc ttl now db.store.agents agentId ⟨routes, outcome⟩ entry = ⟨routes', outcome'⟩ ∧
          InTransaction fault db routes' c')
      (Unfinished fault agentId db) := by
  have same : ∀ c', InTransaction fault db routes c' →
      conflictWith rfc ttl now c'.database.store.agents agentId c'.routes entry.host =
        conflictWith rfc ttl now c.database.store.agents agentId c.routes entry.host := by
    intro c' within'
    rw [within'.database, within'.routes_eq, within.database, within.routes_eq]
  refine (ends_query within _ same).bind ?_
  rintro held c' ⟨rfl, within'⟩
  rw [within.database, within.routes_eq]
  cases test : conflictWith rfc ttl now db.store.agents agentId routes entry.host with
  | some held =>
      refine Attempt.ends_pure ⟨routes, ?_, within'⟩
      exact putEntry_blocked test
  | none =>
      refine (ends_write within' fun routes => routes.upsert entry.host (entry.row now agentId)).bind ?_
      intro _ c'' written
      refine Attempt.ends_pure ⟨_, ?_, written⟩
      exact putEntry_free test

/-- The loop over the entries, and what it makes of the rest of them. -/
theorem ends_putLoopCall (within : InTransaction fault db routes c) (entries : List RouteEntry) :
    (entries.foldlM (putEntryCall fault rfc ttl now agentId) ⟨[], []⟩).Ends c
      (fun outcome c' => ∃ routes',
        putLoop rfc ttl now db.store.agents agentId ⟨routes, [], []⟩ entries = ⟨routes', outcome⟩ ∧
          InTransaction fault db routes' c')
      (Unfinished fault agentId db) := by
  refine Attempt.ends_foldlM (fun rest outcome c' => ∃ routes',
    putLoop rfc ttl now db.store.agents agentId ⟨routes, [], []⟩ entries =
        putLoop rfc ttl now db.store.agents agentId ⟨routes', outcome⟩ rest ∧
      InTransaction fault db routes' c') ?_ ⟨routes, rfl, within⟩
  rintro entry rest outcome c' ⟨routes', sofar, within'⟩
  refine (ends_putEntryCall within' outcome entry).mono ?_
  rintro outcome' c'' ⟨routes'', turn, within''⟩
  refine ⟨routes'', ?_, within''⟩
  rw [sofar, ← turn]
  rfl

theorem ends_dropCalls (within : InTransaction fault db routes c) (desired hosts : List Text) :
    (hosts.foldlM (dropCall fault agentId desired) ()).Ends c
      (fun _ c' => InTransaction fault db (hosts.foldl (dropUndesired agentId desired) routes) c')
      (Unfinished fault agentId db) := by
  refine (Attempt.ends_foldlM (fun rest _ c' => ∃ routes',
    hosts.foldl (dropUndesired agentId desired) routes =
        rest.foldl (dropUndesired agentId desired) routes' ∧
      InTransaction fault db routes' c') ?_ ⟨routes, rfl, within⟩).mono ?_
  · rintro host rest _ c' ⟨routes', sofar, within'⟩
    unfold dropCall
    by_cases wanted : host ∈ desired
    · rw [if_pos wanted]
      refine Attempt.ends_pure ⟨routes', ?_, within'⟩
      rw [sofar, List.foldl_cons, dropUndesired, if_pos wanted]
    · rw [if_neg wanted]
      refine (ends_write within' fun routes =>
        routes.deleteWhere fun h row => decide (h = host ∧ row.agentId = agentId)).mono ?_
      intro _ c'' written
      refine ⟨_, ?_, written⟩
      rw [sofar, List.foldl_cons, dropUndesired, if_neg wanted]
  · rintro _ c' ⟨routes', sofar, within'⟩
    rw [sofar]
    exact within'

/-- The agent check comes before the transaction. -/
theorem ends_getAgentCall (db : Database) :
    (getAgentCall fault agentId).Ends db.session
      (fun row c => db.store.getAgent agentId = .ok row ∧ c.database = db ∧ c.pending = none ∧
        Clean fault c)
      (Unfinished fault agentId db) := by
  have start : Clean fault db.session := fun n sent => absurd sent (Nat.not_lt_zero n)
  have answered : (query fault fun c => c.database.store.getAgent agentId).Ends db.session
      (fun found c => found = db.store.getAgent agentId ∧ c.database = db ∧ c.pending = none ∧
        Clean fault c)
      (Unfinished fault agentId db) :=
    ends_statement (fun passed => ⟨rfl, rfl, rfl, start.count passed⟩) (unfinished_of_fault rfl)
  refine answered.bind ?_
  rintro found c ⟨rfl, database, outside⟩
  exact Attempt.ends_ofExcept (fun row known => ⟨known, database, outside⟩)
    fun e unknown => ⟨database, Or.inr unknown⟩

theorem ends_openTransaction (database : c.database = db) (pending : c.pending = none)
    (clean : Clean fault c) :
    (execute fault Session.openTransaction).Ends c
      (fun _ c' => InTransaction fault db db.store.routes c') (Unfinished fault agentId db) := by
  refine ends_statement (fun passed => ⟨database, ?_, clean.count passed⟩)
    (unfinished_of_fault database)
  show some (c.pending.getD c.database.store.routes) = some db.store.routes
  rw [pending, database, Option.getD_none]

/-- `COMMIT` makes the pending routes those of the database. -/
theorem ends_commit (within : InTransaction fault db routes c) :
    (execute fault Session.commit).Ends c
      (fun _ c' => Clean fault c' ∧ c'.database = { db with store.routes := routes })
      (Unfinished fault agentId db) := by
  refine ends_statement (fun passed => ⟨within.clean.count passed, ?_⟩)
    (unfinished_of_fault within.database)
  show { c.database with store.routes := c.count.routes } = _
  rw [(within.count passed).routes_eq, within.database]

/-- **All or nothing.** A call that returns has committed what the transaction as one step
commits, and none of its statements failed; any other call has committed nothing. -/
theorem ends_putRoutesCall (db : Database) (entries : List RouteEntry) :
    (putRoutesCall fault rfc ttl now agentId entries).Ends db.session
      (fun outcome c => Clean fault c ∧
        ∃ after, db.store.putRoutes rfc ttl now agentId entries = .ok (outcome, after) ∧
          c.database = { db with store := after })
      (Unfinished fault agentId db) := by
  refine (ends_getAgentCall db).bind ?_
  rintro row c ⟨known, database, pending, clean⟩
  refine (ends_openTransaction database pending clean).bind ?_
  intro _ c within
  refine (ends_putLoopCall within entries).bind ?_
  rintro outcome c ⟨routes, looped, within⟩
  have owned : ∀ c', InTransaction fault db routes c' →
      ownedHosts agentId c'.routes = ownedHosts agentId c.routes := by
    intro c' within'
    rw [within'.routes_eq, within.routes_eq]
  refine (ends_query within _ owned).bind ?_
  rintro hosts c' ⟨rfl, within'⟩
  rw [within.routes_eq]
  refine (ends_dropCalls within' (entries.map RouteEntry.host) _).bind ?_
  intro _ c dropped
  refine (ends_commit dropped).bind ?_
  rintro _ c ⟨clean, committed⟩
  refine Attempt.ends_pure ⟨clean, _, ?_, committed⟩
  rw [Store.putRoutes, known]
  show Except.ok (db.store.transactRoutes rfc ttl now agentId entries) = _
  rw [Store.transactRoutes, putRoutesTransaction, looped]

end Call

/-! ## The desired set -/

section Desired

variable (rfc : Rfc3339) (ttl now : Int)

/-- The hostname's row belongs to another agent that was last seen less than `ttl` ago. -/
def Blocked (s : Store) (agentId host : Text) : Prop :=
  ∃ row agent seen, s.routes.find? host = some row ∧ row.agentId ≠ agentId ∧
    s.agents.find? row.agentId = some agent ∧ agent.lastSeenAt.bind rfc.parse = some seen ∧
      now - seen < ttl

variable {rfc ttl now} {s : Store} {agentId : Text}

theorem leaseAlive_eq_true_iff {lastSeenAt : Option Text} :
    Store.leaseAlive rfc ttl now lastSeenAt = true ↔
      ∃ seen, lastSeenAt.bind rfc.parse = some seen ∧ now - seen < ttl := by
  unfold Store.leaseAlive
  cases lastSeenAt.bind rfc.parse <;> simp

theorem blocked_iff {host : Text} :
    Blocked rfc ttl now s agentId host ↔
      (conflictWith rfc ttl now s.agents agentId s.routes host).isSome := by
  rw [Option.isSome_iff_exists, Prod.exists]
  simp only [conflictWith_eq_some, leaseAlive_eq_true_iff]
  constructor
  · rintro ⟨row, agent, seen, stored, other, known, parsed, recent⟩
    exact ⟨row.agentId, _, row, agent, stored, rfl, known, other, ⟨seen, parsed, recent⟩, rfl⟩
  · rintro ⟨_, _, row, agent, stored, rfl, known, other, ⟨seen, parsed, recent⟩, -⟩
    exact ⟨row, agent, seen, stored, other, known, parsed, recent⟩

instance (host : Text) : Decidable (Blocked rfc ttl now s agentId host) :=
  decidable_of_iff _ blocked_iff.symm

theorem not_blocked_iff {host : Text} :
    ¬Blocked rfc ttl now s agentId host ↔
      conflictWith rfc ttl now s.agents agentId s.routes host = none := by
  rw [blocked_iff, Option.not_isSome_iff_eq_none]

variable (rfc ttl now)

/-- The database after a request holds exactly the desired set of the agent, as far as it
is not blocked, and is otherwise the database before. -/
structure Installed (db after : Database) (agentId : Text) (entries : List RouteEntry)
    (outcome : PutRoutesOutcome) : Prop where
  accepted : outcome.accepted = (entries.map RouteEntry.host).filter fun host =>
    decide (¬Blocked rfc ttl now db.store agentId host)
  conflicts : outcome.conflicts.map RouteConflict.hostname =
    (entries.map RouteEntry.host).filter fun host =>
      decide (Blocked rfc ttl now db.store agentId host)
  owned : ∀ host, after.store.owner host = some agentId ↔ host ∈ outcome.accepted
  lastEntry : ∀ host ∈ outcome.accepted, ∃ entry row, lastEntry entries host = some entry ∧
    after.store.routes.find? host = some row ∧ row.backend = entry.backend ∧
      row.containerId = entry.containerId ∧ row.containerName = entry.containerName
  others : ∀ host, db.store.owner host ≠ some agentId → host ∉ outcome.accepted →
    after.store.routes.find? host = db.store.routes.find? host
  agents : after.store.agents = db.store.agents
  enrollmentTokens : after.store.enrollmentTokens = db.store.enrollmentTokens
  discoverySnapshots : after.discoverySnapshots = db.discoverySnapshots
  enabledServices : after.enabledServices = db.enabledServices

variable {rfc ttl now}

theorem accepted_transactRoutes (entries : List RouteEntry) :
    (s.transactRoutes rfc ttl now agentId entries).1.accepted =
      (entries.map RouteEntry.host).filter fun host =>
        decide (¬Blocked rfc ttl now s agentId host) := by
  refine (transaction_accepted s.routes entries).trans (List.filter_congr fun host _ => ?_)
  rw [Bool.eq_iff_iff, decide_eq_true_iff, not_blocked_iff, Option.isNone_iff_eq_none]

theorem conflicts_transactRoutes (entries : List RouteEntry) :
    (s.transactRoutes rfc ttl now agentId entries).1.conflicts.map RouteConflict.hostname =
      (entries.map RouteEntry.host).filter fun host =>
        decide (Blocked rfc ttl now s agentId host) := by
  have reported : (s.transactRoutes rfc ttl now agentId entries).1.conflicts = _ :=
    transaction_conflicts s.routes entries
  rw [reported, List.map_filterMap, ← List.filterMap_eq_filter]
  apply List.filterMap_congr
  intro host _
  cases test : conflictWith rfc ttl now s.agents agentId s.routes host with
  | none => simp [Option.guard, not_blocked_iff.mpr test]
  | some held => simp [Option.guard, blocked_iff.mpr (Option.isSome_iff_exists.mpr ⟨held, test⟩)]

theorem mem_accepted_iff {entries : List RouteEntry} {host : Text} :
    host ∈ (s.transactRoutes rfc ttl now agentId entries).1.accepted ↔
      host ∈ entries.map RouteEntry.host ∧
        conflictWith rfc ttl now s.agents agentId s.routes host = none := by
  rw [accepted_transactRoutes, List.mem_filter, decide_eq_true_iff, not_blocked_iff]

theorem owner_eq_self_iff {entries : List RouteEntry} {host : Text} :
    (s.transactRoutes rfc ttl now agentId entries).2.owner host = some agentId ↔
      host ∈ (s.transactRoutes rfc ttl now agentId entries).1.accepted := by
  rw [mem_accepted_iff, Store.owner_transactRoutes]
  by_cases requested : host ∈ entries.map RouteEntry.host
  · rw [if_pos requested]
    by_cases free : conflictWith rfc ttl now s.agents agentId s.routes host = none
    · simp [free, requested]
    · -- a blocked hostname belongs to somebody else
      rw [if_neg free]
      refine iff_of_false ?_ fun both => free both.2
      intro own
      obtain ⟨row, stored, same⟩ := Store.owner_eq_some.mp own
      exact free (conflictWith_own stored same)
  · rw [if_neg requested]
    refine iff_of_false ?_ fun both => requested both.1
    cases s.owner host with
    | none => simp
    | some a => by_cases same : a = agentId <;> simp [Option.filter, same]

/-- A hostname the request leaves out and the agent does not own keeps its row. -/
theorem find?_transactRoutes_of_other {entries : List RouteEntry} {host : Text}
    (foreign : s.owner host ≠ some agentId)
    (refused : host ∉ (s.transactRoutes rfc ttl now agentId entries).1.accepted) :
    (s.transactRoutes rfc ttl now agentId entries).2.routes.find? host = s.routes.find? host := by
  refine (transaction_find? s.routes entries host).trans ?_
  cases last : lastEntry entries host with
  | some entry =>
      have requested : host ∈ entries.map RouteEntry.host :=
        lastEntry_isSome.mp (by rw [last]; rfl)
      exact if_neg fun free => refused (mem_accepted_iff.mpr ⟨requested, free⟩)
  | none =>
      cases stored : s.routes.find? host with
      | none => rfl
      | some row =>
          have other : row.agentId ≠ agentId := by
            intro same
            exact foreign (Store.owner_eq_some.mpr ⟨row, stored, same⟩)
          simp [Option.filter, other]

theorem installed_transactRoutes (db : Database) (agentId : Text) (entries : List RouteEntry) :
    Installed rfc ttl now db
      { db with store := (db.store.transactRoutes rfc ttl now agentId entries).2 } agentId entries
      (db.store.transactRoutes rfc ttl now agentId entries).1 where
  accepted := accepted_transactRoutes entries
  conflicts := conflicts_transactRoutes entries
  owned _ := owner_eq_self_iff
  lastEntry host taken := by
    obtain ⟨entry, last, stored⟩ := transaction_find?_of_accepted taken
    exact ⟨entry, _, last, stored, rfl, rfl, rfl⟩
  others _ := find?_transactRoutes_of_other
  agents := rfl
  enrollmentTokens := rfl
  discoverySnapshots := rfl
  enabledServices := rfl

/-! ## The same request again -/

/-- A hostname the agent owned and did not ask for again has no row. -/
theorem find?_transactRoutes_of_dropped {entries : List RouteEntry} {host : Text}
    (own : s.owner host = some agentId)
    (refused : host ∉ (s.transactRoutes rfc ttl now agentId entries).1.accepted) :
    (s.transactRoutes rfc ttl now agentId entries).2.routes.find? host = none := by
  obtain ⟨row, stored, same⟩ := Store.owner_eq_some.mp own
  have omitted : lastEntry entries host = none := by
    rw [← Option.not_isSome_iff_eq_none, lastEntry_isSome]
    intro requested
    exact refused (mem_accepted_iff.mpr ⟨requested, conflictWith_own stored same⟩)
  refine (transaction_find? s.routes entries host).trans ?_
  rw [omitted, stored]
  simp [Option.filter, same]

/-- The transaction does not change the conflict test of any hostname. -/
theorem conflictWith_transactRoutes (entries : List RouteEntry) (host : Text) :
    conflictWith rfc ttl now s.agents agentId
        (s.transactRoutes rfc ttl now agentId entries).2.routes host =
      conflictWith rfc ttl now s.agents agentId s.routes host := by
  by_cases taken : host ∈ (s.transactRoutes rfc ttl now agentId entries).1.accepted
  · obtain ⟨row, stored, own⟩ := Store.owner_eq_some.mp (owner_eq_self_iff.mpr taken)
    rw [conflictWith_own stored own, (mem_accepted_iff.mp taken).2]
  by_cases own : s.owner host = some agentId
  · -- neither the agent's own row nor its absence blocks
    obtain ⟨row, stored, same⟩ := Store.owner_eq_some.mp own
    rw [conflictWith_own stored same, conflictWith, existingOwner,
      find?_transactRoutes_of_dropped own taken]
    rfl
  · exact conflictWith_congr (find?_transactRoutes_of_other own taken)

/-- **Repeating a request at the same instant** gives the same answer and leaves every row
as it is. -/
theorem transactRoutes_again (rfc : Rfc3339) (ttl now : Int) (s : Store) (agentId : Text)
    (entries : List RouteEntry) :
    let outcome := (s.transactRoutes rfc ttl now agentId entries).1
    let after := (s.transactRoutes rfc ttl now agentId entries).2
    (after.transactRoutes rfc ttl now agentId entries).1 = outcome ∧
      ∀ host, (after.transactRoutes rfc ttl now agentId entries).2.routes.find? host =
        after.routes.find? host := by
  intro outcome after
  have test : ∀ host, conflictWith rfc ttl now after.agents agentId after.routes host =
      conflictWith rfc ttl now s.agents agentId s.routes host :=
    conflictWith_transactRoutes entries
  have accepted : (after.transactRoutes rfc ttl now agentId entries).1.accepted =
      outcome.accepted := by
    refine (transaction_accepted after.routes entries).trans ?_
    simp only [test]
    exact (transaction_accepted s.routes entries).symm
  have conflicts : (after.transactRoutes rfc ttl now agentId entries).1.conflicts =
      outcome.conflicts := by
    refine (transaction_conflicts after.routes entries).trans ?_
    simp only [test]
    exact (transaction_conflicts s.routes entries).symm
  refine ⟨?_, ?_⟩
  · exact congrArg₂ PutRoutesOutcome.mk accepted conflicts
  · intro host
    by_cases taken : host ∈ outcome.accepted
    · obtain ⟨entry, last, stored⟩ := transaction_find?_of_accepted taken
      rw [← accepted] at taken
      obtain ⟨entry', last', stored'⟩ := transaction_find?_of_accepted taken
      rw [last] at last'
      cases last'
      exact stored'.trans stored.symm
    · refine find?_transactRoutes_of_other ?_ ?_
      · intro own
        exact taken (owner_eq_self_iff.mp own)
      · rw [accepted]
        exact taken

end Desired

/-! ## The call on a database -/

/-- The call met a failure and committed nothing. -/
def RolledBack (fault : Nat → Option StorageError) (db : Database)
    (ended : Except StorageError PutRoutesOutcome × Session) : Prop :=
  (∃ n < ended.2.executed, fault n ≠ none) ∧ (∃ e, ended.1 = .error e) ∧ ended.2.database = db

/-- The call met no failure and committed a database. -/
def Committed (fault : Nat → Option StorageError) (outcome : PutRoutesOutcome) (after : Database)
    (ended : Except StorageError PutRoutesOutcome × Session) : Prop :=
  (∀ n < ended.2.executed, fault n = none) ∧ ended.1 = .ok outcome ∧ ended.2.database = after

/-- Every call for an agent that is not revoked ends in one of the two ways. -/
theorem rolledBack_or_committed (fault : Nat → Option StorageError) (rfc : Rfc3339)
    (ttl now : Int) (db : Database) {agentId : Text} (entries : List RouteEntry) {agent : AgentRow}
    (unrevoked : db.store.getAgent agentId = .ok agent) :
    let ended := putRoutesCall fault rfc ttl now agentId entries db.session
    let committed := db.store.transactRoutes rfc ttl now agentId entries
    RolledBack fault db ended ∨
      Committed fault committed.1 { db with store := committed.2 } ended := by
  intro ended committed
  have spec : (putRoutesCall fault rfc ttl now agentId entries).Ends db.session _ _ :=
    ends_putRoutesCall db entries
  have answer : db.store.putRoutes rfc ttl now agentId entries = .ok committed := by
    rw [Store.putRoutes, unrevoked]
  cases run : ended with
  | mk result c =>
      cases result with
      | ok outcome =>
          obtain ⟨clean, after, returned, database⟩ := spec.of_ok run
          have same : committed = (outcome, after) := Except.ok.inj (answer.symm.trans returned)
          refine Or.inr ⟨clean, ?_, ?_⟩
          · rw [same]
          · rw [same]
            exact database
      | error e =>
          obtain ⟨database, ⟨n, sent, failed⟩ | unknown⟩ := spec.of_error run
          · refine Or.inl ⟨⟨n, sent, ?_⟩, ⟨e, rfl⟩, database⟩
            rw [failed]
            exact Option.some_ne_none e
          · rw [unrevoked] at unknown
            cases unknown

/-- Without failures the call is the transaction. -/
theorem Database.putRoutes_eq (rfc : Rfc3339) (ttl now : Int) (db : Database) {agentId : Text}
    (entries : List RouteEntry) {agent : AgentRow}
    (unrevoked : db.store.getAgent agentId = .ok agent) :
    db.putRoutes (fun _ => none) rfc ttl now agentId entries =
      (.ok (db.store.transactRoutes rfc ttl now agentId entries).1,
        { db with store := (db.store.transactRoutes rfc ttl now agentId entries).2 }) := by
  rcases rolledBack_or_committed (fun _ => none) rfc ttl now db entries unrevoked with
    ⟨⟨_, -, failed⟩, -, -⟩ | ⟨-, answer, database⟩
  · exact absurd rfl failed
  · exact Prod.ext answer database

/-- Two rows that differ at most in `updated_at`. -/
def SameRoute (row row' : Option RouteRow) : Prop :=
  row.map (fun r => { r with updatedAt := [] }) = row'.map fun r => { r with updatedAt := [] }

/-- **`PUT /routes` installs exactly the desired set** of an agent that is not revoked.
Without failures the call answers and installs the set. With failures it either meets one
and commits nothing, or meets none and does the same. The same request at the same
instant has the same answer and changes no row. -/
theorem putRoutes_installs (rfc : Rfc3339) (ttl now : Int) (db : Database) (agentId : Text)
    (entries : List RouteEntry) {agent : AgentRow}
    (unrevoked : db.store.getAgent agentId = .ok agent) :
    ∃ outcome after,
      db.putRoutes (fun _ => none) rfc ttl now agentId entries = (.ok outcome, after) ∧
      Installed rfc ttl now db after agentId entries outcome ∧
      (∀ fault,
        RolledBack fault db (putRoutesCall fault rfc ttl now agentId entries db.session) ∨
          Committed fault outcome after
            (putRoutesCall fault rfc ttl now agentId entries db.session)) ∧
      ∃ again, after.putRoutes (fun _ => none) rfc ttl now agentId entries = (.ok outcome, again) ∧
        ∀ host, SameRoute (again.store.routes.find? host) (after.store.routes.find? host) := by
  let after : Database :=
    { db with store := (db.store.transactRoutes rfc ttl now agentId entries).2 }
  have still : after.store.getAgent agentId = .ok agent := unrevoked
  obtain ⟨answer, rows⟩ := transactRoutes_again rfc ttl now db.store agentId entries
  refine ⟨_, after, db.putRoutes_eq rfc ttl now entries unrevoked,
    installed_transactRoutes db agentId entries,
    fun fault => rolledBack_or_committed fault rfc ttl now db entries unrevoked,
    { after with store := (after.store.transactRoutes rfc ttl now agentId entries).2 }, ?_, ?_⟩
  · rw [after.putRoutes_eq rfc ttl now entries still, answer]
  · intro host
    rw [SameRoute]
    exact congrArg _ (rows host)

/-! ## A request that meets every case -/

/-- Agents `agt_a` and `agt_b` enrolled at time 0; the first owns `old` and the second
`api`. -/
def sharedNames : Database where
  store :=
    { agents := (Table.empty.upsert "agt_a".toList
        (Store.enrolledRow 0 "h1".toList ⟨"a".toList, "100.64.0.1".toList, "e1".toList⟩)).upsert
        "agt_b".toList
        (Store.enrolledRow 0 "h2".toList ⟨"b".toList, "100.64.0.2".toList, "e2".toList⟩)
      enrollmentTokens := .empty
      routes := (Table.empty.upsert "old".toList
        ⟨"agt_a".toList, "http://10.0.0.1:80/".toList, none, none, toRfc3339 0⟩).upsert "api".toList
        ⟨"agt_b".toList, "http://10.0.0.2:80/".toList, none, none, toRfc3339 0⟩ }
  discoverySnapshots := .empty
  enabledServices := .empty

/-- `web` twice, in two spellings, and the other agent's name between them. -/
def mixedRequest : List RouteEntry :=
  [⟨"Web".toList, "http://10.0.0.3:80/".toList, none, none⟩,
    ⟨"api".toList, "http://10.0.0.3:81/".toList, none, none⟩,
    ⟨"web".toList, "http://10.0.0.3:82/".toList, none, none⟩]

/-- The name of the live agent is refused, the other is stored with its last entry, and
what was not asked for again is gone. -/
theorem putRoutes_installs_mixed :
    ∃ outcome after,
      sharedNames.putRoutes (fun _ => none) layoutParser 90 10 "agt_a".toList mixedRequest =
        (.ok outcome, after) ∧
      outcome.accepted = ["web".toList, "web".toList] ∧
      outcome.conflicts.map RouteConflict.hostname = ["api".toList] ∧
      after.store.owner "old".toList ≠ some "agt_a".toList ∧
      ∃ row, after.store.routes.find? "web".toList = some row ∧
        row.backend = "http://10.0.0.3:82/".toList := by
  obtain ⟨outcome, after, answer, installed, -, -⟩ :=
    putRoutes_installs layoutParser 90 10 sharedNames "agt_a".toList mixedRequest rfl
  have accepted : outcome.accepted = ["web".toList, "web".toList] :=
    installed.accepted.trans (by decide +kernel)
  have conflicts : outcome.conflicts.map RouteConflict.hostname = ["api".toList] :=
    installed.conflicts.trans (by decide +kernel)
  have taken : "web".toList ∈ outcome.accepted := by
    rw [accepted]
    exact List.mem_cons_self
  obtain ⟨entry, row, last, stored, backend, -⟩ := installed.lastEntry _ taken
  have final : lastEntry mixedRequest "web".toList =
      some ⟨"web".toList, "http://10.0.0.3:82/".toList, none, none⟩ := by decide +kernel
  rw [final] at last
  cases last
  refine ⟨outcome, after, answer, accepted, conflicts, ?_, row, stored, backend⟩
  rw [Ne, installed.owned, accepted]
  decide

end Tailroute.Storage
