/-
# Theory.Table — keyed relations with a primary key

A `Table K V` is a finite relation whose rows carry distinct keys: the list of
rows in storage order, together with the proof that no key occurs twice. The
primary key is a field of the type, so a table with two rows for one key cannot
be built, and no operation below has to re-establish it afterwards.

The operations are the statements of a small SQL dialect: `insert?` refuses a
key that is present, `upsert` is the insert that overwrites on conflict,
`modify` updates in place and `deleteWhere` removes rows. Each is described by
one equation for `find?`, the read of one key; `find?_eq_some_iff` moves between
that read and membership in the row list.
-/
import Mathlib.Data.List.Nodup
import Mathlib.Data.List.Basic

namespace Tailroute.Theory

set_option autoImplicit false

/-- A relation with a primary key. -/
structure Table (K V : Type) where
  rows : List (K × V)
  keysNodup : (rows.map Prod.fst).Nodup

namespace Table

variable {K V : Type}

/-! ## Reading -/

def empty : Table K V := ⟨[], List.nodup_nil⟩

def keys (t : Table K V) : List K := t.rows.map Prod.fst

/-- The keys of a table are the key column of its rows. -/
theorem keys_nodup (t : Table K V) : t.keys.Nodup := t.keysNodup

/-- Two rows with one key are one row. -/
theorem row_unique (t : Table K V) {k : K} {v w : V} (hv : (k, v) ∈ t.rows)
    (hw : (k, w) ∈ t.rows) : v = w := by
  have same := List.inj_on_of_nodup_map t.keysNodup hv hw rfl
  exact (Prod.mk.inj same).2

/-- A query that keeps the key column returns a sublist of it. -/
theorem filterMap_keys_sublist {W : Type} {f : K × V → Option (K × W)}
    (keeps : ∀ row out, f row = some out → out.1 = row.1) (rows : List (K × V)) :
    ((rows.filterMap f).map Prod.fst).Sublist (rows.map Prod.fst) := by
  induction rows with
  | nil => exact List.Sublist.slnil
  | cons row rows ih =>
      cases queried : f row with
      | none =>
          rw [List.filterMap_cons_none queried]
          exact ih.cons _
      | some out =>
          rw [List.filterMap_cons_some queried, List.map_cons, List.map_cons, keeps row out queried]
          exact ih.cons_cons _

variable [DecidableEq K]

/-- The row stored under a key. -/
def find? (t : Table K V) (k : K) : Option V :=
  (t.rows.find? fun row => decide (row.1 = k)).map Prod.snd

theorem find?_eq_some_iff {t : Table K V} {k : K} {v : V} :
    t.find? k = some v ↔ (k, v) ∈ t.rows := by
  unfold find?
  constructor
  · intro found
    obtain ⟨row, hrow, rfl⟩ := Option.map_eq_some_iff.mp found
    have key : row.1 = k := by simpa using List.find?_some hrow
    have member := List.mem_of_find?_eq_some hrow
    rw [← key]
    exact member
  · intro member
    cases hfind : t.rows.find? fun row => decide (row.1 = k) with
    | none =>
        have absent := List.find?_eq_none.mp hfind (k, v) member
        simp at absent
    | some row =>
        have key : row.1 = k := by simpa using List.find?_some hfind
        have stored : (k, row.2) ∈ t.rows := by
          rw [← key]
          exact List.mem_of_find?_eq_some hfind
        simp [t.row_unique stored member]

theorem find?_eq_none_iff {t : Table K V} {k : K} : t.find? k = none ↔ k ∉ t.keys := by
  constructor
  · intro absent member
    obtain ⟨row, hrow, rfl⟩ := List.mem_map.mp member
    have found : t.find? row.1 = some row.2 := find?_eq_some_iff.mpr hrow
    rw [absent] at found
    cases found
  · intro absent
    cases found : t.find? k with
    | none => rfl
    | some v => exact absurd (List.mem_map_of_mem (find?_eq_some_iff.mp found)) absent

theorem mem_keys_iff {t : Table K V} {k : K} : k ∈ t.keys ↔ ∃ v, t.find? k = some v := by
  rw [← Option.isSome_iff_exists, Option.isSome_iff_ne_none, Ne, find?_eq_none_iff, not_not]

@[simp] theorem find?_empty (k : K) : (empty : Table K V).find? k = none := rfl

/-- A read is determined by the rows it can return. -/
theorem find?_eq_of_mem_iff {t : Table K V} {k : K} {o : Option V}
    (same : ∀ v, (k, v) ∈ t.rows ↔ o = some v) : t.find? k = o := by
  apply Option.ext
  intro v
  rw [find?_eq_some_iff, same]

/-- A read does not depend on the order of the rows. -/
theorem find?_eq_of_perm {t t' : Table K V} (order : t.rows.Perm t'.rows) (k : K) :
    t.find? k = t'.find? k := by
  apply find?_eq_of_mem_iff
  intro v
  rw [find?_eq_some_iff, order.mem_iff]

/-! ## Writing -/

theorem keysNodup_replace (t : Table K V) (k : K) (v : V) :
    ((t.rows.map fun row => if row.1 = k then (k, v) else row).map Prod.fst).Nodup := by
  have column : (t.rows.map fun row => if row.1 = k then (k, v) else row).map Prod.fst =
      t.rows.map Prod.fst := by
    rw [List.map_map]
    apply List.map_congr_left
    intro row _
    by_cases hk : row.1 = k <;> simp [hk]
  rw [column]
  exact t.keysNodup

omit [DecidableEq K] in
theorem keysNodup_append (t : Table K V) {k : K} (v : V) (absent : k ∉ t.keys) :
    ((t.rows ++ [(k, v)]).map Prod.fst).Nodup := by
  rw [List.map_append]
  refine t.keysNodup.append (List.nodup_singleton _) ?_
  intro key stored last
  rw [List.map_singleton, List.mem_singleton] at last
  subst last
  exact absent stored

/-- `INSERT … ON CONFLICT DO UPDATE`: overwrite in place or append. -/
def upsert (t : Table K V) (k : K) (v : V) : Table K V :=
  if present : k ∈ t.keys then
    ⟨t.rows.map fun row => if row.1 = k then (k, v) else row, t.keysNodup_replace k v⟩
  else ⟨t.rows ++ [(k, v)], t.keysNodup_append v present⟩

theorem mem_upsert {t : Table K V} {k k' : K} {v w : V} :
    (k', w) ∈ (t.upsert k v).rows ↔ (k' = k ∧ w = v) ∨ (k' ≠ k ∧ (k', w) ∈ t.rows) := by
  unfold upsert
  split
  · rename_i present
    rw [List.mem_map]
    constructor
    · rintro ⟨row, hrow, hput⟩
      by_cases hk : row.1 = k
      · rw [if_pos hk] at hput
        cases hput
        exact Or.inl ⟨rfl, rfl⟩
      · rw [if_neg hk] at hput
        subst hput
        exact Or.inr ⟨hk, hrow⟩
    · rintro (⟨rfl, rfl⟩ | ⟨hk, hrow⟩)
      · obtain ⟨row, hrow, hkey⟩ := List.mem_map.mp present
        exact ⟨row, hrow, by rw [if_pos hkey]⟩
      · exact ⟨(k', w), hrow, by rw [if_neg hk]⟩
  · rename_i absent
    rw [List.mem_append, List.mem_singleton, Prod.mk.injEq]
    constructor
    · rintro (hrow | same)
      · exact Or.inr ⟨fun hk => absent (hk ▸ List.mem_map_of_mem hrow), hrow⟩
      · exact Or.inl same
    · rintro (same | ⟨_, hrow⟩)
      · exact Or.inr same
      · exact Or.inl hrow

/-- Up to their order, the rows are the new one and those under other keys. -/
theorem rows_upsert_perm (t : Table K V) (k : K) (v : V) :
    (t.upsert k v).rows.Perm ((k, v) :: t.rows.filter fun row => decide (row.1 ≠ k)) := by
  have before : (t.rows.filter fun row => decide (row.1 ≠ k)).Nodup := t.keysNodup.of_map.filter _
  have fresh : (k, v) ∉ t.rows.filter fun row => decide (row.1 ≠ k) := by simp
  rw [List.perm_ext_iff_of_nodup (t.upsert k v).keysNodup.of_map
    (List.nodup_cons.mpr ⟨fresh, before⟩)]
  rintro ⟨k', w⟩
  rw [mem_upsert, List.mem_cons, List.mem_filter, Prod.mk.injEq, decide_eq_true_eq,
    and_comm (a := (k', w) ∈ t.rows)]

@[simp] theorem find?_upsert (t : Table K V) (k k' : K) (v : V) :
    (t.upsert k v).find? k' = if k' = k then some v else t.find? k' := by
  apply find?_eq_of_mem_iff
  intro w
  rw [mem_upsert]
  by_cases hk : k' = k
  · simp [hk, eq_comm]
  · simp [hk, find?_eq_some_iff]

/-- `INSERT`: the primary key refuses a key that is present. -/
def insert? (t : Table K V) (k : K) (v : V) : Option (Table K V) :=
  if k ∈ t.keys then none else some (t.upsert k v)

theorem insert?_eq_some {t t' : Table K V} {k : K} {v : V} (inserted : t.insert? k v = some t') :
    t.find? k = none ∧ t' = t.upsert k v := by
  unfold insert? at inserted
  split at inserted
  · cases inserted
  · rename_i absent
    exact ⟨find?_eq_none_iff.mpr absent, (Option.some.inj inserted).symm⟩

omit [DecidableEq K] in
theorem keysNodup_map_snd (t : Table K V) (f : K → V → V) :
    ((t.rows.map fun row => (row.1, f row.1 row.2)).map Prod.fst).Nodup := by
  rw [List.map_map]
  exact t.keysNodup

/-- `UPDATE`: rewrite every row in place; the key column never changes. -/
def modify (t : Table K V) (f : K → V → V) : Table K V :=
  ⟨t.rows.map fun row => (row.1, f row.1 row.2), t.keysNodup_map_snd f⟩

@[simp] theorem find?_modify (t : Table K V) (f : K → V → V) (k : K) :
    (t.modify f).find? k = (t.find? k).map (f k) := by
  apply find?_eq_of_mem_iff
  intro w
  simp only [modify, List.mem_map, Prod.mk.injEq, Option.map_eq_some_iff, find?_eq_some_iff]
  constructor
  · rintro ⟨row, hrow, rfl, rfl⟩
    exact ⟨row.2, hrow, rfl⟩
  · rintro ⟨v, hv, rfl⟩
    exact ⟨(k, v), hv, rfl, rfl⟩

/-- `UPDATE … WHERE key = k`: rewrite the row stored under one key. -/
def modifyAt (t : Table K V) (k : K) (f : V → V) : Table K V :=
  t.modify fun key v => if key = k then f v else v

@[simp] theorem find?_modifyAt (t : Table K V) (k k' : K) (f : V → V) :
    (t.modifyAt k f).find? k' = if k' = k then (t.find? k').map f else t.find? k' := by
  rw [modifyAt, find?_modify]
  by_cases hk : k' = k <;> simp [hk]

omit [DecidableEq K] in
theorem keysNodup_filter (t : Table K V) (p : K × V → Bool) :
    ((t.rows.filter p).map Prod.fst).Nodup :=
  t.keysNodup.sublist (List.filter_sublist.map _)

/-- `DELETE … WHERE p`. -/
def deleteWhere (t : Table K V) (p : K → V → Bool) : Table K V :=
  ⟨t.rows.filter fun row => !p row.1 row.2, t.keysNodup_filter _⟩

omit [DecidableEq K] in
@[simp] theorem mem_deleteWhere {t : Table K V} {p : K → V → Bool} {row : K × V} :
    row ∈ (t.deleteWhere p).rows ↔ row ∈ t.rows ∧ p row.1 row.2 = false := by
  simp [deleteWhere, List.mem_filter]

theorem find?_deleteWhere_eq_some {t : Table K V} {p : K → V → Bool} {k : K} {v : V} :
    (t.deleteWhere p).find? k = some v ↔ t.find? k = some v ∧ p k v = false := by
  rw [find?_eq_some_iff, mem_deleteWhere, find?_eq_some_iff]

@[simp] theorem find?_deleteWhere (t : Table K V) (p : K → V → Bool) (k : K) :
    (t.deleteWhere p).find? k = (t.find? k).filter fun v => !p k v := by
  apply Option.ext
  intro v
  rw [find?_deleteWhere_eq_some, Option.filter_eq_some_iff]
  simp

/-- Store or remove the row of one key. -/
def put (t : Table K V) (k : K) (o : Option V) : Table K V :=
  match o with
  | some v => t.upsert k v
  | none => t.deleteWhere fun key _ => decide (key = k)

@[simp] theorem find?_put (t : Table K V) (k k' : K) (o : Option V) :
    (t.put k o).find? k' = if k' = k then o else t.find? k' := by
  cases o with
  | some v => exact find?_upsert t k k' v
  | none =>
      rw [put, find?_deleteWhere]
      by_cases hk : k' = k <;> cases t.find? k' <;> simp [Option.filter, hk]

end Table

end Tailroute.Theory
