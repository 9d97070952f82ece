/-
# Storage.Discovery — agent records, discovery snapshots and the audit trail

The statements of `store.rs` that serve the admin pages: the list of agents, the last
discovery report of each agent, the list of all enable intents and the audit events.
A snapshot refers to an agent, as an intent does, and the statement that would add one
without is refused.

The admin handlers turn these lists into maps by agent or by pair. `find?_byAgent` and
`find?_byPair` say that the maps read what the tables hold.
-/
import Tailroute.Theory.LastWrite
import Tailroute.Storage.Transaction

namespace Tailroute.Storage

open Tailroute.Theory Tailroute.Common

set_option autoImplicit false

/-! ## Agents -/

structure AgentRecord where
  agentId : Text
  displayName : Text
  tailscaleIpv4 : Text
  dockerEngineId : Text
  createdAt : Int
  lastSeenAt : Option Int
deriving DecidableEq

/-- `row_to_agent`; a creation time that does not parse is replaced by the clock. -/
def rowToAgent (rfc : Rfc3339) (now : Int) (agentId : Text) (row : AgentRow) : AgentRecord where
  agentId := agentId
  displayName := row.displayName
  tailscaleIpv4 := row.tailscaleIpv4
  dockerEngineId := row.dockerEngineId
  createdAt := (rfc.parse row.createdAt).getD now
  lastSeenAt := row.lastSeenAt.bind rfc.parse

/-- `SELECT … FROM agents WHERE revoked_at IS NULL`. -/
def Store.listAgents (s : Store) (rfc : Rfc3339) (now : Int) : List AgentRecord :=
  (s.agents.rows.filter fun row => row.2.revokedAt.isNone).map fun row =>
    rowToAgent rfc now row.1 row.2

/-- The records collected into a map by agent. -/
def byAgent {α : Type} (agents : List AgentRecord) (f : AgentRecord → α) : Table Text α :=
  Table.empty.writeAll (agents.map fun a => (a.agentId, f a))

theorem mem_listAgents {s : Store} {rfc : Rfc3339} {now : Int} {record : AgentRecord} :
    record ∈ s.listAgents rfc now ↔
      ∃ row, s.getAgent record.agentId = .ok row ∧ record = rowToAgent rfc now record.agentId row := by
  simp only [Store.listAgents, List.mem_map, List.mem_filter, Store.getAgent_eq_ok,
    Table.find?_eq_some_iff, Option.isNone_iff_eq_none, Prod.exists]
  constructor
  · rintro ⟨agentId, row, ⟨stored, live⟩, rfl⟩
    exact ⟨row, ⟨stored, live⟩, rfl⟩
  · rintro ⟨row, ⟨stored, live⟩, same⟩
    exact ⟨record.agentId, row, ⟨stored, live⟩, same.symm⟩

theorem listAgents_nodup (s : Store) (rfc : Rfc3339) (now : Int) :
    ((s.listAgents rfc now).map AgentRecord.agentId).Nodup := by
  rw [Store.listAgents, List.map_map]
  exact s.agents.keysNodup.sublist (List.filter_sublist.map Prod.fst)

/-- The map by agent has the agents that are not revoked. -/
theorem find?_byAgent {α : Type} (s : Store) (rfc : Rfc3339) (now : Int) (f : AgentRecord → α)
    (agentId : Text) :
    (byAgent (s.listAgents rfc now) f).find? agentId =
      (s.getAgent agentId).toOption.map fun row => f (rowToAgent rfc now agentId row) := by
  have once : (((s.listAgents rfc now).map fun a => (a.agentId, f a)).map Prod.fst).Nodup := by
    rw [List.map_map]
    exact listAgents_nodup s rfc now
  have none_left : (Table.empty : Table Text α).find? agentId = none := rfl
  rw [byAgent, Table.find?_writeAll, none_left, Option.or_none]
  ext value
  rw [lastWrite_eq_some_iff once, List.mem_map]
  constructor
  · rintro ⟨record, listed, same⟩
    cases same
    obtain ⟨row, found, read⟩ := mem_listAgents.mp listed
    rw [found, read]
    rfl
  · intro mapped
    cases found : s.getAgent agentId with
    | error e =>
        rw [found] at mapped
        cases mapped
    | ok row =>
        rw [found] at mapped
        cases mapped
        exact ⟨rowToAgent rfc now agentId row, mem_listAgents.mpr ⟨row, found, rfl⟩, rfl⟩

/-! ## Intents -/

/-- `ORDER BY agent_id, identity_key`. -/
def PairLe (a b : Text × Text) : Prop := a.1 < b.1 ∨ a.1 = b.1 ∧ a.2 ≤ b.2

instance : DecidableRel PairLe := fun a b =>
  inferInstanceAs (Decidable (a.1 < b.1 ∨ a.1 = b.1 ∧ a.2 ≤ b.2))

namespace EnabledServices

/-- `SELECT … FROM enabled_services ORDER BY agent_id, identity_key`. -/
def listAllEnabled (t : EnabledServices) : List EnabledServiceRecord :=
  (t.rows.rows.insertionSort fun a b => PairLe a.1 b.1).map fun row => rowToEnabled row.1 row.2

/-- The records collected into a map by agent and identity key. -/
def byPair (records : List EnabledServiceRecord) : Table (Text × Text) EnabledServiceRecord :=
  Table.empty.writeAll (records.map fun e => ((e.agentId, e.identityKey), e))

theorem find?_byPair (t : EnabledServices) (pair : Text × Text) :
    (byPair t.listAllEnabled).find? pair = (t.rows.find? pair).map (rowToEnabled pair) := by
  have sorted := List.perm_insertionSort (fun a b => PairLe a.1 b.1) t.rows.rows
  have once : ((t.listAllEnabled.map fun e => ((e.agentId, e.identityKey), e)).map Prod.fst).Nodup := by
    simp only [listAllEnabled, List.map_map]
    exact ((sorted.map Prod.fst).nodup_iff).mpr t.rows.keysNodup
  have none_left :
      (Table.empty : Table (Text × Text) EnabledServiceRecord).find? pair = none := rfl
  rw [byPair, Table.find?_writeAll, none_left, Option.or_none]
  ext record
  rw [lastWrite_eq_some_iff once, Option.map_eq_some_iff]
  simp only [listAllEnabled, List.mem_map, sorted.mem_iff, Table.find?_eq_some_iff]
  constructor
  · rintro ⟨_, ⟨row, stored, rfl⟩, same⟩
    cases same
    exact ⟨row.2, stored, rfl⟩
  · rintro ⟨row, stored, rfl⟩
    exact ⟨rowToEnabled pair row, ⟨(pair, row), stored, rfl⟩, rfl⟩

end EnabledServices

/-! ## Snapshots -/

namespace Database

/-- `INSERT INTO discovery_snapshots … ON CONFLICT(agent_id) DO UPDATE`. -/
def putDiscoverySnapshot (db : Database) (now : Int) (agentId payloadJson : Text) :
    Except StorageError Database :=
  if agentId ∈ db.discoverySnapshots.keys ∨ agentId ∈ db.store.agents.keys then
    .ok { db with
      discoverySnapshots := db.discoverySnapshots.upsert agentId ⟨payloadJson, toRfc3339 now⟩ }
  else .error .constraint

/-- A report that was stored is the agent's only snapshot, and nothing else has changed. -/
theorem of_putDiscoverySnapshot {db db' : Database} {now : Int} {agentId payloadJson : Text}
    (ran : db.putDiscoverySnapshot now agentId payloadJson = .ok db') :
    (agentId ∈ db.discoverySnapshots.keys ∨ agentId ∈ db.store.agents.keys) ∧
      db' = { db with
        discoverySnapshots := db.discoverySnapshots.upsert agentId ⟨payloadJson, toRfc3339 now⟩ } := by
  unfold putDiscoverySnapshot at ran
  split at ran
  · rename_i known
    exact ⟨known, (Except.ok.inj ran).symm⟩
  · cases ran

/-- `SELECT … FROM discovery_snapshots ORDER BY agent_id`. -/
def listDiscoverySnapshots (db : Database) : List (Text × SnapshotRow) :=
  db.discoverySnapshots.rows.insertionSort fun a b => a.1 ≤ b.1

theorem mem_listDiscoverySnapshots {db : Database} {agentId : Text} {row : SnapshotRow} :
    (agentId, row) ∈ db.listDiscoverySnapshots ↔
      db.discoverySnapshots.find? agentId = some row := by
  rw [listDiscoverySnapshots, List.mem_insertionSort, Table.find?_eq_some_iff]

end Database

/-! ## Audit -/

/-- A row of `audit_events`; the id is its place. -/
structure AuditRow where
  eventType : Text
  detail : Text
  createdAt : Text
deriving DecidableEq

/-- `INSERT INTO audit_events`. -/
def audit (events : List AuditRow) (now : Int) (eventType detail : Text) : List AuditRow :=
  events ++ [⟨eventType, detail, toRfc3339 now⟩]

end Tailroute.Storage
