/-
# Theory.Retention — keeping the greatest elements of a list

`newestFirst` sorts in descending order. What stands behind its first `n` elements are
the elements with at least `n` greater ones (`mem_drop_newestFirst`), so a retention
that removes them keeps an element exactly if fewer than `n` are greater, whatever order
the list had. Keeping is monotone: with an element, every greater one is kept.
-/
import Mathlib.Data.List.Sort
import Mathlib.Order.Basic

namespace Tailroute.Theory.Retention

set_option autoImplicit false

variable {α : Type} [LinearOrder α]

/-- How many elements are greater. -/
def above (xs : List α) (x : α) : Nat := xs.countP fun y => decide (x < y)

theorem above_perm {xs ys : List α} (order : xs.Perm ys) (x : α) : above xs x = above ys x :=
  order.countP_eq _

/-- Only the greater elements count. -/
theorem above_eq_of_mem {xs ys : List α} (nodup : xs.Nodup) (nodup' : ys.Nodup) {x : α}
    (same : ∀ y, x < y → (y ∈ xs ↔ y ∈ ys)) : above xs x = above ys x := by
  have greater : (xs.filter fun y => decide (x < y)).Perm (ys.filter fun y => decide (x < y)) := by
    rw [List.perm_ext_iff_of_nodup (nodup.filter _) (nodup'.filter _)]
    intro y
    rw [List.mem_filter, List.mem_filter, decide_eq_true_eq]
    constructor
    · rintro ⟨listed, lt⟩
      exact ⟨(same y lt).mp listed, lt⟩
    · rintro ⟨listed, lt⟩
      exact ⟨(same y lt).mpr listed, lt⟩
  rw [above, above, List.countP_eq_length_filter, List.countP_eq_length_filter]
  exact greater.length_eq

/-- Fewer elements are above a greater one. -/
theorem above_anti (xs : List α) {x y : α} (le : x ≤ y) : above xs y ≤ above xs x := by
  apply List.countP_mono_left
  intro z _ greater
  exact decide_eq_true (lt_of_le_of_lt le (of_decide_eq_true greater))

def newestFirst (xs : List α) : List α := xs.insertionSort (· ≥ ·)

theorem newestFirst_perm (xs : List α) : (newestFirst xs).Perm xs := List.perm_insertionSort _ xs

theorem newestFirst_pairwise {xs : List α} (nodup : xs.Nodup) :
    (newestFirst xs).Pairwise fun a b => b < a := by
  have sorted : (newestFirst xs).Pairwise (· ≥ ·) := List.pairwise_insertionSort _ xs
  have distinct : (newestFirst xs).Nodup := (newestFirst_perm xs).nodup_iff.mpr nodup
  refine (sorted.and distinct).imp ?_
  rintro a b ⟨le, ne⟩
  exact lt_of_le_of_ne le ne.symm

theorem mem_drop_of_pairwise {xs : List α} (sorted : xs.Pairwise fun a b => b < a) (n : Nat)
    (x : α) : x ∈ xs.drop n ↔ x ∈ xs ∧ n ≤ above xs x := by
  induction xs generalizing n with
  | nil => simp
  | cons first rest ih =>
      obtain ⟨greatest, sorted⟩ := List.pairwise_cons.mp sorted
      cases n with
      | zero => simp
      | succ n =>
          rw [List.drop_succ_cons, ih sorted]
          constructor
          · rintro ⟨listed, counted⟩
            have counts : above (first :: rest) x = above rest x + 1 :=
              List.countP_cons_of_pos (decide_eq_true (greatest x listed))
            exact ⟨List.mem_cons_of_mem first listed, by omega⟩
          · rintro ⟨listed, counted⟩
            rcases List.mem_cons.mp listed with rfl | listed
            · -- nothing is above the first element
              have none : above (x :: rest) x = 0 := by
                rw [above, List.countP_eq_zero]
                intro y later
                rcases List.mem_cons.mp later with rfl | later
                · simp
                · simpa using (greatest y later).le
              omega
            · have counts : above (first :: rest) x = above rest x + 1 :=
                List.countP_cons_of_pos (decide_eq_true (greatest x listed))
              exact ⟨listed, by omega⟩

/-- **What stands behind the first `n`.** -/
theorem mem_drop_newestFirst {xs : List α} (nodup : xs.Nodup) (n : Nat) (x : α) :
    x ∈ (newestFirst xs).drop n ↔ x ∈ xs ∧ n ≤ above xs x := by
  have order := newestFirst_perm xs
  rw [mem_drop_of_pairwise (newestFirst_pairwise nodup), order.mem_iff, above_perm order]

/-- What is kept is no more than `n` elements. -/
theorem length_filter_above_lt {xs : List α} (nodup : xs.Nodup) (n : Nat) :
    (xs.filter fun x => decide (above xs x < n)).length ≤ n := by
  have order := newestFirst_perm xs
  have kept : (xs.filter fun x => decide (above xs x < n)) ⊆ (newestFirst xs).take n := by
    intro x listed
    obtain ⟨listed, few⟩ := List.mem_filter.mp listed
    have split : x ∈ (newestFirst xs).take n ++ (newestFirst xs).drop n := by
      rw [List.take_append_drop]
      exact order.mem_iff.mpr listed
    rcases List.mem_append.mp split with early | late
    · exact early
    · have many := ((mem_drop_newestFirst nodup n x).mp late).2
      have few := of_decide_eq_true few
      omega
  calc (xs.filter fun x => decide (above xs x < n)).length
      ≤ ((newestFirst xs).take n).length :=
        (List.subperm_of_subset (nodup.filter _) kept).length_le
    _ ≤ n := List.length_take_le n _

end Tailroute.Theory.Retention
