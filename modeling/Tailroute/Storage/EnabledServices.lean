/-
# Storage.EnabledServices — the table of click-to-enable intents

`enabled_services` of `migrations/002_discovery.sql` and the statements over it. A
row is named twice: by its primary key `id` and by the pair of agent and container
identity. The model keeps rows by the pair and carries the uniqueness of the ids
beside them. The upsert conflicts on the pair only, so an existing row keeps its
id; an insert refers to an agent and is refused if there is none.
-/
import Tailroute.Storage.Store

namespace Tailroute.Storage

open Tailroute.Theory Tailroute.Common

set_option autoImplicit false

structure EnabledRow where
  id : Text
  containerName : Option Text
  hostnamesJson : Text
  backend : Text
  enabled : Bool
  createdAt : Text
  updatedAt : Text
deriving DecidableEq

structure EnabledServiceRecord where
  id : Text
  agentId : Text
  identityKey : Text
  containerName : Option Text
  hostnamesJson : Text
  backend : Text
  enabled : Bool
  createdAt : Text
  updatedAt : Text
deriving DecidableEq

/-- Rows by agent and identity key, with distinct ids. -/
structure EnabledServices where
  rows : Table (Text × Text) EnabledRow
  idsNodup : (rows.rows.map fun row => row.2.id).Nodup

namespace EnabledServices

def empty : EnabledServices := ⟨.empty, List.nodup_nil⟩

def ids (t : EnabledServices) : List Text := t.rows.rows.map fun row => row.2.id

theorem mem_ids {t : EnabledServices} {id : Text} :
    id ∈ t.ids ↔ ∃ pair row, t.rows.find? pair = some row ∧ row.id = id := by
  simp only [ids, List.mem_map, Table.find?_eq_some_iff, Prod.exists]

/-- Two pairs with one id are one pair. -/
theorem pair_unique (t : EnabledServices) {pair pair' : Text × Text} {row row' : EnabledRow}
    (found : t.rows.find? pair = some row) (found' : t.rows.find? pair' = some row')
    (same : row.id = row'.id) : pair = pair' := by
  rw [Table.find?_eq_some_iff] at found found'
  exact congrArg Prod.fst (List.inj_on_of_nodup_map t.idsNodup found found' same)

/-- An update that leaves the ids alone. -/
def update (t : EnabledServices) (f : Text × Text → EnabledRow → EnabledRow)
    (keeps : ∀ pair row, (f pair row).id = row.id) : EnabledServices where
  rows := t.rows.modify f
  idsNodup := by
    have same : ((t.rows.modify f).rows.map fun row => row.2.id) = t.ids := by
      simp only [Table.modify, ids, List.map_map]
      exact List.map_congr_left fun row _ => keeps row.1 row.2
    rw [same]
    exact t.idsNodup

/-- A new row under a new pair and a new id. -/
def insert (t : EnabledServices) (pair : Text × Text) (row : EnabledRow)
    (fresh : t.rows.find? pair = none) (unused : row.id ∉ t.ids) : EnabledServices where
  rows := t.rows.upsert pair row
  idsNodup := by
    rw [Table.upsert, dif_neg (Table.find?_eq_none_iff.mp fresh), List.map_append,
      List.map_singleton]
    refine t.idsNodup.append (List.nodup_singleton _) ?_
    rw [List.disjoint_singleton]
    exact unused

/-- What the upsert sets in a row that is already there. -/
def overwrite (containerName : Option Text) (hostnamesJson backend : Text) (now : Int)
    (row : EnabledRow) : EnabledRow :=
  { row with
    containerName := containerName
    hostnamesJson := hostnamesJson
    backend := backend
    enabled := true
    updatedAt := toRfc3339 now }

/-- `INSERT INTO enabled_services … ON CONFLICT(agent_id, identity_key) DO UPDATE`;
`known` says whether `agents` has a row to refer to. -/
def upsertEnabledService (t : EnabledServices) (known : Bool) (now : Int)
    (id agentId identityKey : Text) (containerName : Option Text) (hostnamesJson backend : Text) :
    Except StorageError EnabledServices :=
  match found : t.rows.find? (agentId, identityKey) with
  | some _ =>
      .ok (t.update (fun pair row => if pair = (agentId, identityKey) then
          overwrite containerName hostnamesJson backend now row else row)
        fun _ _ => by split <;> rfl)
  | none =>
      if used : id ∈ t.ids then .error .constraint
      else if known then
        .ok (t.insert (agentId, identityKey)
          ⟨id, containerName, hostnamesJson, backend, true, toRfc3339 now, toRfc3339 now⟩ found used)
      else .error .constraint

/-- `UPDATE enabled_services SET enabled = ?, updated_at = ? WHERE id = ?`. -/
def setEnabledService (t : EnabledServices) (now : Int) (id : Text) (enabled : Bool) :
    Except StorageError EnabledServices :=
  if id ∈ t.ids then
    .ok (t.update (fun _ row => if row.id = id then
        { row with enabled := enabled, updatedAt := toRfc3339 now } else row)
      fun _ _ => by split <;> rfl)
  else .error .notFound

/-- `row_to_enabled`. -/
def rowToEnabled (pair : Text × Text) (row : EnabledRow) : EnabledServiceRecord :=
  ⟨row.id, pair.1, pair.2, row.containerName, row.hostnamesJson, row.backend, row.enabled,
    row.createdAt, row.updatedAt⟩

/-- `SELECT … FROM enabled_services WHERE agent_id = ? AND enabled = 1`. -/
def listEnabledForAgent (t : EnabledServices) (agentId : Text) : List EnabledServiceRecord :=
  (t.rows.rows.filter fun row => row.1.1 == agentId && row.2.enabled).map fun row =>
    rowToEnabled row.1 row.2

/-! ## What the statements do -/

variable {t t' : EnabledServices} {agentId identityKey : Text}

theorem mem_listEnabledForAgent {record : EnabledServiceRecord} :
    record ∈ t.listEnabledForAgent agentId ↔
      ∃ row, t.rows.find? (agentId, record.identityKey) = some row ∧ row.enabled = true ∧
        record = rowToEnabled (agentId, record.identityKey) row := by
  simp only [listEnabledForAgent, List.mem_map, List.mem_filter, Bool.and_eq_true, beq_iff_eq,
    Table.find?_eq_some_iff, Prod.exists]
  constructor
  · rintro ⟨agent, key, row, ⟨stored, rfl, enabled⟩, rfl⟩
    exact ⟨row, stored, enabled, rfl⟩
  · rintro ⟨row, stored, enabled, same⟩
    exact ⟨agentId, record.identityKey, row, ⟨stored, rfl, enabled⟩, same.symm⟩

/-- An agent's enabled services have distinct identity keys. -/
theorem listEnabledForAgent_nodup (t : EnabledServices) (agentId : Text) :
    ((t.listEnabledForAgent agentId).map EnabledServiceRecord.identityKey).Nodup := by
  rw [listEnabledForAgent, List.map_map]
  refine List.Nodup.map_on ?_ (t.rows.keysNodup.of_map.filter _)
  intro row member row' member' same
  simp only [List.mem_filter, Bool.and_eq_true, beq_iff_eq] at member member'
  have key : row.1 = row'.1 := Prod.ext (member.2.1.trans member'.2.1.symm) same
  exact List.inj_on_of_nodup_map t.rows.keysNodup member.1 member'.1 key

/-- The search of the enable handler: the enabled row of the pair. -/
theorem find?_listEnabledForAgent {row : EnabledRow}
    (found : t.rows.find? (agentId, identityKey) = some row) (enabled : row.enabled = true) :
    (t.listEnabledForAgent agentId).find? (fun record => record.identityKey == identityKey) =
      some (rowToEnabled (agentId, identityKey) row) := by
  have listed : rowToEnabled (agentId, identityKey) row ∈ t.listEnabledForAgent agentId :=
    mem_listEnabledForAgent.mpr ⟨row, found, enabled, rfl⟩
  cases searched : (t.listEnabledForAgent agentId).find?
      fun record => record.identityKey == identityKey with
  | none =>
      have missed := List.find?_eq_none.mp searched _ listed
      exact absurd (beq_self_eq_true identityKey) missed
  | some record =>
      have key : record.identityKey = identityKey := by simpa using List.find?_some searched
      have member := List.mem_of_find?_eq_some searched
      exact congrArg some (List.inj_on_of_nodup_map (t.listEnabledForAgent_nodup agentId) member
        listed key)

/-- An upsert is refused only if it would insert: an id that is taken, or an agent that is
not there. -/
theorem exists_upsertEnabledService_iff (t : EnabledServices) (known : Bool) (now : Int)
    (id agentId identityKey : Text) (containerName : Option Text) (hostnamesJson backend : Text) :
    (∃ t', t.upsertEnabledService known now id agentId identityKey containerName hostnamesJson
        backend = .ok t') ↔
      t.rows.find? (agentId, identityKey) ≠ none ∨ known = true ∧ id ∉ t.ids := by
  unfold upsertEnabledService
  split
  · rename_i row found
    simp [found]
  · rename_i fresh
    by_cases used : id ∈ t.ids
    · simp [fresh, used]
    · cases known <;> simp [fresh, used]

/-- After an upsert the pair has an enabled row with the new values and the id it
had, or the new id; other pairs keep theirs. -/
theorem find?_upsertEnabledService {known : Bool} {now : Int} {id : Text}
    {containerName : Option Text} {hostnamesJson backend : Text}
    (done : t.upsertEnabledService known now id agentId identityKey containerName hostnamesJson
      backend = .ok t') :
    (∃ row, t'.rows.find? (agentId, identityKey) = some row ∧
      row.id = ((t.rows.find? (agentId, identityKey)).map EnabledRow.id).getD id ∧
      row.enabled = true ∧ row.containerName = containerName ∧
      row.hostnamesJson = hostnamesJson ∧ row.backend = backend) ∧
      ∀ pair, pair ≠ (agentId, identityKey) → t'.rows.find? pair = t.rows.find? pair := by
  rw [upsertEnabledService] at done
  split at done
  · rename_i old found
    cases done
    simp only [update, Table.find?_modify]
    refine ⟨⟨overwrite containerName hostnamesJson backend now old, ?_, ?_, rfl, rfl, rfl, rfl⟩, ?_⟩
    · rw [found]
      simp
    · rw [found]
      rfl
    · intro pair other
      simp [other]
  · rename_i fresh
    split at done
    · cases done
    · split at done
      · cases done
        simp only [insert, Table.find?_upsert]
        refine ⟨⟨⟨id, containerName, hostnamesJson, backend, true, toRfc3339 now, toRfc3339 now⟩,
          if_pos trivial, ?_, rfl, rfl, rfl, rfl⟩, ?_⟩
        · rw [fresh]
          rfl
        · intro pair other
          rw [if_neg other]
      · cases done

/-- Setting the flag touches the row with the id and no other. -/
theorem find?_setEnabledService {now : Int} {id : Text} {enabled : Bool}
    (done : t.setEnabledService now id enabled = .ok t') (pair : Text × Text) :
    t'.rows.find? pair = (t.rows.find? pair).map fun row =>
      if row.id = id then { row with enabled := enabled, updatedAt := toRfc3339 now } else row := by
  rw [setEnabledService] at done
  split at done
  · cases done
    simp only [update, Table.find?_modify]
  · cases done

end EnabledServices

end Tailroute.Storage
