/-
# Theory.LastWrite — the last element with a key, and tables built by writes

A list read by key from its end: `lastWith key xs k` is the last element of `xs`
whose key is `k`. It is what remains visible when the elements are written one
after the other, and `find?_writeAll` says so for a table: after a list of
writes a key reads its last write, or the table before if there is none.

Concatenation is precedence (`lastWrite_append`): a later list of writes decides
every key it mentions and leaves the other keys to the earlier one.
-/
import Mathlib.Data.List.Induction
import Tailroute.Theory.Table

namespace Tailroute.Theory

set_option autoImplicit false

variable {α K V : Type} [DecidableEq K]

/-! ## Reading a list from its end -/

/-- The last element with key `k`. -/
def lastWith (key : α → K) (xs : List α) (k : K) : Option α :=
  xs.reverse.find? fun x => decide (key x = k)

variable (key : α → K)

@[simp] theorem lastWith_nil (k : K) : lastWith key [] k = none := rfl

theorem lastWith_append (xs ys : List α) (k : K) :
    lastWith key (xs ++ ys) k = (lastWith key ys k).or (lastWith key xs k) := by
  rw [lastWith, List.reverse_append, List.find?_append]
  rfl

theorem lastWith_concat (xs : List α) (x : α) (k : K) :
    lastWith key (xs ++ [x]) k = if key x = k then some x else lastWith key xs k := by
  rw [lastWith, List.reverse_concat, List.find?_cons]
  by_cases same : key x = k <;> simp [same, lastWith]

theorem lastWith_isSome {xs : List α} {k : K} :
    (lastWith key xs k).isSome ↔ k ∈ xs.map key := by
  simp [lastWith, List.find?_isSome]

/-- Removing the elements of one key hides that key and no other. -/
theorem lastWith_filter_ne (xs : List α) (k k' : K) :
    lastWith key (xs.filter fun x => decide (key x ≠ k)) k' =
      if k' = k then none else lastWith key xs k' := by
  induction xs using List.reverseRecOn with
  | nil => simp
  | append_singleton xs x ih =>
      rw [List.filter_append, lastWith_append, ih, lastWith_concat]
      by_cases gone : key x = k
      · by_cases same : k' = k
        · simp [gone, same]
        · simp [gone, same, Ne.symm same]
      · by_cases here : key x = k'
        · have other : k' ≠ k := fun same => gone (here.trans same)
          simp [here, other, lastWith]
        · simp [gone, here, lastWith]

/-! ## Tables built by writes -/

/-- The value a list of writes leaves under a key. -/
def lastWrite (writes : List (K × V)) (k : K) : Option V :=
  (lastWith Prod.fst writes k).map Prod.snd

/-- Later writes take precedence. -/
theorem lastWrite_append (first later : List (K × V)) (k : K) :
    lastWrite (first ++ later) k = (lastWrite later k).or (lastWrite first k) := by
  rw [lastWrite, lastWith_append]
  cases found : lastWith Prod.fst later k <;> simp [lastWrite, found]

theorem lastWrite_isSome {writes : List (K × V)} {k : K} :
    (lastWrite writes k).isSome ↔ k ∈ writes.map Prod.fst := by
  rw [lastWrite, Option.isSome_map, lastWith_isSome]

theorem exists_lastWrite {writes : List (K × V)} {k : K} (mentioned : k ∈ writes.map Prod.fst) :
    ∃ v, lastWrite writes k = some v :=
  Option.isSome_iff_exists.mp (lastWrite_isSome.mpr mentioned)

/-- A written value was written under its key. -/
theorem mem_of_lastWrite {writes : List (K × V)} {k : K} {v : V}
    (found : lastWrite writes k = some v) : (k, v) ∈ writes := by
  obtain ⟨write, last, rfl⟩ := Option.map_eq_some_iff.mp found
  have here : write.1 = k := by simpa using List.find?_some last
  have there := List.mem_reverse.mp (List.mem_of_find?_eq_some last)
  rw [← here]
  exact there

/-- Where each key is written once, a key reads what was written under it. -/
theorem lastWrite_eq_some_iff {writes : List (K × V)} (once : (writes.map Prod.fst).Nodup) {k : K}
    {v : V} : lastWrite writes k = some v ↔ (k, v) ∈ writes := by
  refine ⟨mem_of_lastWrite, ?_⟩
  intro written
  obtain ⟨w, found⟩ := exists_lastWrite (List.mem_map_of_mem (f := Prod.fst) written)
  have same := List.inj_on_of_nodup_map once (mem_of_lastWrite found) written rfl
  cases same
  exact found

/-- One value written under several keys. -/
theorem lastWrite_map_const (keys : List K) (v : V) (k : K) [Decidable (k ∈ keys)] :
    lastWrite (keys.map fun key => (key, v)) k = if k ∈ keys then some v else none := by
  split
  · rename_i listed
    obtain ⟨w, found⟩ := exists_lastWrite
      (show k ∈ (keys.map fun key => (key, v)).map Prod.fst by simpa using listed)
    obtain ⟨_, -, same⟩ := List.mem_map.mp (mem_of_lastWrite found)
    cases same
    exact found
  · rename_i absent
    rw [← Option.not_isSome_iff_eq_none, lastWrite_isSome]
    simpa using absent

namespace Table

def writeAll (t : Table K V) (writes : List (K × V)) : Table K V :=
  writes.foldl (fun t write => t.upsert write.1 write.2) t

theorem writeAll_append (t : Table K V) (first later : List (K × V)) :
    t.writeAll (first ++ later) = (t.writeAll first).writeAll later :=
  List.foldl_append

/-- **A key reads its last write.** -/
theorem find?_writeAll (t : Table K V) (writes : List (K × V)) (k : K) :
    (t.writeAll writes).find? k = (lastWrite writes k).or (t.find? k) := by
  induction writes using List.reverseRecOn with
  | nil => rfl
  | append_singleton writes write ih =>
      rw [writeAll_append, lastWrite_append]
      show ((t.writeAll writes).upsert write.1 write.2).find? k = _
      rw [find?_upsert, ih]
      by_cases here : write.1 = k
      · simp [lastWrite, lastWith, here]
      · simp [lastWrite, lastWith, here, Ne.symm here]

end Table

end Tailroute.Theory
