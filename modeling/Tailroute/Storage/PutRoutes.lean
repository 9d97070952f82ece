/-
# Storage.PutRoutes — the transaction behind `PUT /routes`

The transaction walks the requested entries in order. An entry whose hostname is
held by another agent with a live lease is a conflict; every other entry is
upserted, so an expired owner is replaced in place. Afterwards the rows the agent
owns but did not ask for are deleted.

The loop reads rows that it wrote itself, so what it does with an entry could
depend on the entries before it. It does not: `conflictWith_putEntry` says that
the conflict test for a hostname has the same answer before and after any entry,
because an accepted entry only ever takes the row away from an owner that did not
block it. From that one fact the outcome is read off the table before the
transaction: `transaction_accepted`, `transaction_conflicts` and
`transaction_find?`.
-/
import Tailroute.Storage.Store

namespace Tailroute.Common.RouteEntry

set_option autoImplicit false

/-- The hostname an entry is stored under. -/
def host (entry : RouteEntry) : Text := toAsciiLowercase entry.hostname

/-- The row an accepted entry writes. -/
def row (entry : RouteEntry) (now : Int) (agentId : Text) : Storage.RouteRow where
  agentId := agentId
  backend := entry.backend
  containerId := entry.containerId
  containerName := entry.containerName
  updatedAt := toRfc3339 now

end Tailroute.Common.RouteEntry

namespace Tailroute.Storage

open Tailroute.Theory Tailroute.Common

set_option autoImplicit false

structure PutRoutesOutcome where
  accepted : List Text
  conflicts : List RouteConflict
deriving DecidableEq

/-- The loop's table and the two lists it fills. -/
structure PutLoop where
  routes : Table Text RouteRow
  outcome : PutRoutesOutcome

section Transaction

variable (rfc : Rfc3339) (ttl now : Int) (agents : Table Text AgentRow) (agentId : Text)

/-- `SELECT r.hostname, r.agent_id, a.last_seen_at FROM routes r JOIN agents a …
WHERE r.hostname = ?`. -/
def existingOwner (routes : Table Text RouteRow) (host : Text) : Option (Text × Option Text) :=
  (routes.find? host).bind fun row =>
    (agents.find? row.agentId).map fun agent => (row.agentId, agent.lastSeenAt)

/-- The conflict test: another owner whose lease is alive, with its expiry. -/
def conflictWith (routes : Table Text RouteRow) (host : Text) : Option (Text × Int) :=
  match existingOwner agents routes host with
  | some (owner, ownerLast) =>
      if owner ≠ agentId ∧ Store.leaseAlive rfc ttl now ownerLast = true then
        some (owner, (ownerLast.bind rfc.parse).getD now + ttl)
      else none
  | none => none

/-- One turn of the loop over the requested routes. -/
def putEntry (st : PutLoop) (entry : RouteEntry) : PutLoop :=
  match conflictWith rfc ttl now agents agentId st.routes entry.host with
  | some (owner, expiry) =>
      { st with outcome.conflicts :=
          st.outcome.conflicts ++ [⟨entry.host, owner, expiry⟩] }
  | none =>
      { routes := st.routes.upsert entry.host (entry.row now agentId)
        outcome.accepted := st.outcome.accepted ++ [entry.host]
        outcome.conflicts := st.outcome.conflicts }

def putLoop (st : PutLoop) (entries : List RouteEntry) : PutLoop :=
  entries.foldl (putEntry rfc ttl now agents agentId) st

/-- `SELECT hostname FROM routes WHERE agent_id = ?`. -/
def ownedHosts (routes : Table Text RouteRow) : List Text :=
  (routes.rows.filter fun row => decide (row.2.agentId = agentId)).map Prod.fst

/-- `DELETE FROM routes WHERE hostname = ? AND agent_id = ?`, unless desired. -/
def dropUndesired (desired : List Text) (routes : Table Text RouteRow) (host : Text) :
    Table Text RouteRow :=
  if host ∈ desired then routes
  else routes.deleteWhere fun h row => decide (h = host ∧ row.agentId = agentId)

/-- The transaction of `Storage::put_routes`. -/
def putRoutesTransaction (routes : Table Text RouteRow) (entries : List RouteEntry) : PutLoop :=
  let st := putLoop rfc ttl now agents agentId ⟨routes, [], []⟩ entries
  let drop := dropUndesired agentId (entries.map RouteEntry.host)
  { st with routes := (ownedHosts agentId st.routes).foldl drop st.routes }

/-! ## The conflict test is stable through the loop -/

variable {rfc ttl now agents agentId}

theorem conflictWith_eq_some {routes : Table Text RouteRow} {host owner : Text} {expiry : Int} :
    conflictWith rfc ttl now agents agentId routes host = some (owner, expiry) ↔
      ∃ row agent, routes.find? host = some row ∧ row.agentId = owner ∧
        agents.find? owner = some agent ∧ owner ≠ agentId ∧
          Store.leaseAlive rfc ttl now agent.lastSeenAt = true ∧
            expiry = (agent.lastSeenAt.bind rfc.parse).getD now + ttl := by
  simp only [conflictWith, existingOwner]
  cases stored : routes.find? host with
  | none => simp
  | some row =>
      cases found : agents.find? row.agentId with
      | none =>
          simp only [Option.bind_some, found, Option.map_none, reduceCtorEq, Option.some.injEq,
            exists_and_left, false_iff, not_exists]
          rintro _ ⟨rfl, rfl, agent, there, -⟩
          rw [found] at there
          cases there
      | some agent =>
          simp only [Option.bind_some, found, Option.map_some]
          constructor
          · intro blocked
            split at blocked
            · rename_i test
              cases blocked
              exact ⟨row, agent, rfl, rfl, found, test.1, test.2, rfl⟩
            · cases blocked
          · rintro ⟨_, _, ⟨rfl⟩, rfl, there, other, alive, rfl⟩
            rw [found] at there
            cases there
            rw [if_pos ⟨other, alive⟩]

/-- A hostname the agent owns never blocks it. -/
theorem conflictWith_own {routes : Table Text RouteRow} {host : Text} {row : RouteRow}
    (stored : routes.find? host = some row) (own : row.agentId = agentId) :
    conflictWith rfc ttl now agents agentId routes host = none := by
  rw [Option.eq_none_iff_forall_ne_some]
  rintro ⟨owner, expiry⟩ blocked
  obtain ⟨_, _, there, rfl, -, other, -⟩ := conflictWith_eq_some.mp blocked
  rw [stored] at there
  cases there
  exact other own

/-- The test only looks at the row of its hostname. -/
theorem conflictWith_congr {routes routes' : Table Text RouteRow} {host : Text}
    (same : routes'.find? host = routes.find? host) :
    conflictWith rfc ttl now agents agentId routes' host =
      conflictWith rfc ttl now agents agentId routes host := by
  rw [conflictWith, conflictWith, existingOwner, existingOwner, same]

theorem putEntry_blocked {st : PutLoop} {entry : RouteEntry} {held : Text × Int}
    (blocked : conflictWith rfc ttl now agents agentId st.routes entry.host = some held) :
    putEntry rfc ttl now agents agentId st entry =
      ⟨st.routes, st.outcome.accepted,
        st.outcome.conflicts ++ [⟨entry.host, held.1, held.2⟩]⟩ := by
  rw [putEntry, blocked]

theorem putEntry_free {st : PutLoop} {entry : RouteEntry}
    (free : conflictWith rfc ttl now agents agentId st.routes entry.host = none) :
    putEntry rfc ttl now agents agentId st entry =
      ⟨st.routes.upsert entry.host (entry.row now agentId), st.outcome.accepted ++ [entry.host],
        st.outcome.conflicts⟩ := by
  rw [putEntry, free]

/-- **No entry changes the conflict test of any hostname.** -/
theorem conflictWith_putEntry (st : PutLoop) (entry : RouteEntry) (host : Text) :
    conflictWith rfc ttl now agents agentId (putEntry rfc ttl now agents agentId st entry).routes
        host = conflictWith rfc ttl now agents agentId st.routes host := by
  cases test : conflictWith rfc ttl now agents agentId st.routes entry.host with
  | some held => rw [putEntry_blocked test]
  | none =>
      rw [putEntry_free test]
      by_cases same : host = entry.host
      · rw [same, test]
        exact conflictWith_own (by rw [Table.find?_upsert, if_pos rfl]) rfl
      · exact conflictWith_congr (by rw [Table.find?_upsert, if_neg same])

/-! ## What the loop does with each hostname -/

/-- The last entry of a request for a hostname. -/
def lastEntry (entries : List RouteEntry) (host : Text) : Option RouteEntry :=
  entries.reverse.find? fun entry => decide (entry.host = host)

theorem lastEntry_cons (entry : RouteEntry) (entries : List RouteEntry) (host : Text) :
    lastEntry (entry :: entries) host =
      (lastEntry entries host).or (if entry.host = host then some entry else none) := by
  rw [lastEntry, lastEntry, List.reverse_cons, List.find?_append]
  congr 1
  by_cases same : entry.host = host <;> simp [same]

theorem lastEntry_isSome {entries : List RouteEntry} {host : Text} :
    (lastEntry entries host).isSome ↔ host ∈ entries.map RouteEntry.host := by
  simp [lastEntry, List.find?_isSome]

theorem putLoop_accepted (st : PutLoop) (entries : List RouteEntry) :
    (putLoop rfc ttl now agents agentId st entries).outcome.accepted =
      st.outcome.accepted ++ (entries.map RouteEntry.host).filter fun host =>
        (conflictWith rfc ttl now agents agentId st.routes host).isNone := by
  induction entries generalizing st with
  | nil => simp [putLoop]
  | cons entry entries ih =>
      rw [putLoop, List.foldl_cons]
      refine (ih _).trans ?_
      simp only [conflictWith_putEntry, List.map_cons]
      cases test : conflictWith rfc ttl now agents agentId st.routes entry.host with
      | some held => simp [putEntry_blocked test, test]
      | none => simp [putEntry_free test, test]

theorem putLoop_conflicts (st : PutLoop) (entries : List RouteEntry) :
    (putLoop rfc ttl now agents agentId st entries).outcome.conflicts =
      st.outcome.conflicts ++ (entries.map RouteEntry.host).filterMap fun host =>
        (conflictWith rfc ttl now agents agentId st.routes host).map fun held =>
          ⟨host, held.1, held.2⟩ := by
  induction entries generalizing st with
  | nil => simp [putLoop]
  | cons entry entries ih =>
      rw [putLoop, List.foldl_cons]
      refine (ih _).trans ?_
      simp only [conflictWith_putEntry, List.map_cons]
      cases test : conflictWith rfc ttl now agents agentId st.routes entry.host with
      | some held => simp [putEntry_blocked test, test]
      | none => simp [putEntry_free test, test]

theorem putLoop_find? (st : PutLoop) (entries : List RouteEntry) (host : Text) :
    (putLoop rfc ttl now agents agentId st entries).routes.find? host =
      if conflictWith rfc ttl now agents agentId st.routes host = none then
        ((lastEntry entries host).map fun entry => entry.row now agentId).or
          (st.routes.find? host)
      else st.routes.find? host := by
  induction entries generalizing st with
  | nil => simp [putLoop, lastEntry]
  | cons entry entries ih =>
      rw [putLoop, List.foldl_cons]
      refine (ih _).trans ?_
      rw [conflictWith_putEntry, lastEntry_cons]
      cases test : conflictWith rfc ttl now agents agentId st.routes entry.host with
      | some held =>
          rw [putEntry_blocked test]
          by_cases same : entry.host = host
          · subst same
            simp [test]
          · simp [same]
      | none =>
          rw [putEntry_free test]
          by_cases same : entry.host = host
          · subst same
            cases lastEntry entries entry.host <;> simp [test]
          · simp [same, Ne.symm same]

/-! ## The deletions -/

theorem dropUndesired_fold_find? (desired hosts : List Text) (routes : Table Text RouteRow)
    (host : Text) :
    (hosts.foldl (dropUndesired agentId desired) routes).find? host =
      (routes.find? host).filter fun row =>
        !decide (host ∈ hosts ∧ host ∉ desired ∧ row.agentId = agentId) := by
  induction hosts generalizing routes with
  | nil =>
      rw [List.foldl_nil]
      cases routes.find? host <;> simp [Option.filter]
  | cons first hosts ih =>
      rw [List.foldl_cons, ih, dropUndesired]
      by_cases wanted : first ∈ desired
      · rw [if_pos wanted]
        cases routes.find? host with
        | none => rfl
        | some row =>
            have : host = first → host ∈ desired := fun same => same ▸ wanted
            simp only [Option.filter, List.mem_cons]
            congr 1
            simp only [Bool.not_eq_true', decide_eq_false_iff_not, eq_iff_iff]
            tauto
      · rw [if_neg wanted, Table.find?_deleteWhere]
        cases routes.find? host with
        | none => rfl
        | some row =>
            by_cases same : host = first
            · subst same
              by_cases own : row.agentId = agentId <;> simp [Option.filter, wanted, own]
            · simp [Option.filter, same]

theorem mem_ownedHosts {routes : Table Text RouteRow} {host : Text} :
    host ∈ ownedHosts agentId routes ↔
      ∃ row, routes.find? host = some row ∧ row.agentId = agentId := by
  simp only [ownedHosts, List.mem_map, List.mem_filter, decide_eq_true_eq, Prod.exists,
    exists_and_right, exists_eq_right, Table.find?_eq_some_iff]

theorem dropUndesired_owned_find? (desired : List Text) (routes : Table Text RouteRow)
    (host : Text) :
    ((ownedHosts agentId routes).foldl (dropUndesired agentId desired) routes).find? host =
      (routes.find? host).filter fun row => decide (host ∈ desired ∨ row.agentId ≠ agentId) := by
  rw [dropUndesired_fold_find?]
  cases stored : routes.find? host with
  | none => rfl
  | some row =>
      have owned : row.agentId = agentId → host ∈ ownedHosts agentId routes :=
        fun own => mem_ownedHosts.mpr ⟨row, stored, own⟩
      simp only [Option.filter]
      congr 1
      simp only [eq_iff_iff, Bool.not_eq_true', decide_eq_false_iff_not, decide_eq_true_eq]
      tauto

/-! ## The transaction -/

theorem transaction_accepted (routes : Table Text RouteRow) (entries : List RouteEntry) :
    (putRoutesTransaction rfc ttl now agents agentId routes entries).outcome.accepted =
      (entries.map RouteEntry.host).filter fun host =>
        (conflictWith rfc ttl now agents agentId routes host).isNone :=
  putLoop_accepted ⟨routes, [], []⟩ entries

theorem transaction_conflicts (routes : Table Text RouteRow) (entries : List RouteEntry) :
    (putRoutesTransaction rfc ttl now agents agentId routes entries).outcome.conflicts =
      (entries.map RouteEntry.host).filterMap fun host =>
        (conflictWith rfc ttl now agents agentId routes host).map fun held =>
          ⟨host, held.1, held.2⟩ :=
  putLoop_conflicts ⟨routes, [], []⟩ entries

/-- **The table after the transaction, hostname by hostname.** A requested name
keeps a live foreign row and otherwise carries its last entry; a name that was
not requested loses the agent's row and keeps any other. -/
theorem transaction_find? (routes : Table Text RouteRow) (entries : List RouteEntry)
    (host : Text) :
    (putRoutesTransaction rfc ttl now agents agentId routes entries).routes.find? host =
      match lastEntry entries host with
      | some entry =>
          if conflictWith rfc ttl now agents agentId routes host = none then
            some (entry.row now agentId)
          else routes.find? host
      | none => (routes.find? host).filter fun row => decide (row.agentId ≠ agentId) := by
  have desired : (lastEntry entries host).isSome ↔ host ∈ entries.map RouteEntry.host :=
    lastEntry_isSome
  rw [putRoutesTransaction, dropUndesired_owned_find?, putLoop_find?]
  cases last : lastEntry entries host with
  | some entry =>
      have wanted : host ∈ entries.map RouteEntry.host := desired.mp (by rw [last]; rfl)
      by_cases free : conflictWith rfc ttl now agents agentId routes host = none
      · simp [free, wanted, Option.filter]
      · cases routes.find? host <;> simp [free, wanted, Option.filter]
  | none =>
      have unwanted : host ∉ entries.map RouteEntry.host := by
        rw [← desired, last]
        simp
      cases routes.find? host <;> simp [unwanted, Option.filter]

/-- An accepted hostname carries its last entry. -/
theorem transaction_find?_of_accepted {routes : Table Text RouteRow} {entries : List RouteEntry}
    {host : Text}
    (taken : host ∈
      (putRoutesTransaction rfc ttl now agents agentId routes entries).outcome.accepted) :
    ∃ entry, lastEntry entries host = some entry ∧
      (putRoutesTransaction rfc ttl now agents agentId routes entries).routes.find? host =
        some (entry.row now agentId) := by
  rw [transaction_accepted, List.mem_filter, Option.isNone_iff_eq_none] at taken
  obtain ⟨requested, free⟩ := taken
  obtain ⟨entry, last⟩ := Option.isSome_iff_exists.mp (lastEntry_isSome.mpr requested)
  refine ⟨entry, last, ?_⟩
  rw [transaction_find?, last]
  exact if_pos free

end Transaction

namespace Store

/-- The transaction on the store: it writes the routes table only. -/
def transactRoutes (s : Store) (rfc : Rfc3339) (ttl now : Int) (agentId : Text)
    (entries : List RouteEntry) : PutRoutesOutcome × Store :=
  let st := putRoutesTransaction rfc ttl now s.agents agentId s.routes entries
  (st.outcome, { s with routes := st.routes })

@[simp] theorem agents_transactRoutes (s : Store) (rfc : Rfc3339) (ttl now : Int) (agentId : Text)
    (entries : List RouteEntry) :
    (s.transactRoutes rfc ttl now agentId entries).2.agents = s.agents := rfl

/-- Who owns what after the transaction. -/
theorem owner_transactRoutes (s : Store) (rfc : Rfc3339) (ttl now : Int) (agentId : Text)
    (entries : List RouteEntry) (host : Text) :
    (s.transactRoutes rfc ttl now agentId entries).2.owner host =
      if host ∈ entries.map RouteEntry.host then
        if conflictWith rfc ttl now s.agents agentId s.routes host = none then some agentId
        else s.owner host
      else (s.owner host).filter fun a => decide (a ≠ agentId) := by
  have desired : (lastEntry entries host).isSome ↔ host ∈ entries.map RouteEntry.host :=
    lastEntry_isSome
  rw [owner, transactRoutes, transaction_find?]
  cases last : lastEntry entries host with
  | some entry =>
      rw [if_pos (desired.mp (by rw [last]; rfl))]
      by_cases free : conflictWith rfc ttl now s.agents agentId s.routes host = none
      · simp [free, RouteEntry.row]
      · simp [free, owner]
  | none =>
      rw [if_neg (by rw [← desired, last]; simp), owner]
      cases s.routes.find? host with
      | none => rfl
      | some row => by_cases same : row.agentId = agentId <;> simp [Option.filter, same]

end Store

end Tailroute.Storage
