/-
# Theory.FirstOccurrence — lists without repetitions, in the order of first occurrence

`push` appends an element unless it is there already, and `FirstOccurrences xs out` says
what a loop of pushes makes of `xs`: the same elements, each once, in the order in which
they first occur. A loop that computes each element first, and stops at the first one it
cannot compute, pushes the elements of all its inputs or none (`foldlM_push_eq_ok`).
-/
import Mathlib.Data.List.Nodup
import Mathlib.Tactic.Common

namespace Tailroute.Theory

set_option autoImplicit false

variable {α β ε : Type} [DecidableEq α]

/-- Append the element unless it is there. -/
def push (out : List α) (a : α) : List α := if a ∈ out then out else out ++ [a]

/-- The elements of `xs`, each once, in the order of their first occurrences. -/
structure FirstOccurrences (xs out : List α) : Prop where
  nodup : out.Nodup
  mem : ∀ a, a ∈ out ↔ a ∈ xs
  order : out.Pairwise fun a b => xs.idxOf a < xs.idxOf b

theorem firstOccurrences_nil : FirstOccurrences ([] : List α) [] :=
  ⟨.nil, fun _ => Iff.rfl, .nil⟩

theorem FirstOccurrences.ne_nil {xs out : List α} (first : FirstOccurrences xs out)
    (nonempty : xs ≠ []) : out ≠ [] := by
  obtain ⟨a, rest, rfl⟩ := List.exists_cons_of_ne_nil nonempty
  exact List.ne_nil_of_mem ((first.mem a).mpr List.mem_cons_self)

/-- Appending one element to the input is one push. -/
theorem FirstOccurrences.push {xs out : List α} (first : FirstOccurrences xs out) (a : α) :
    FirstOccurrences (xs ++ [a]) (push out a) := by
  have earlier : ∀ b ∈ out, (xs ++ [a]).idxOf b = xs.idxOf b := fun b listed =>
    List.idxOf_append_of_mem ((first.mem b).mp listed)
  have order : out.Pairwise fun b c => (xs ++ [a]).idxOf b < (xs ++ [a]).idxOf c := by
    refine first.order.imp_of_mem ?_
    intro b c listed listed' before
    rw [earlier b listed, earlier c listed']
    exact before
  unfold Theory.push
  split
  · rename_i known
    refine ⟨first.nodup, ?_, order⟩
    intro b
    rw [List.mem_append, List.mem_singleton, first.mem]
    refine ⟨Or.inl, ?_⟩
    rintro (listed | rfl)
    · exact listed
    · exact (first.mem b).mp known
  · rename_i fresh
    have new : a ∉ xs := fun listed => fresh ((first.mem a).mpr listed)
    refine ⟨?_, ?_, ?_⟩
    · rw [List.nodup_append]
      refine ⟨first.nodup, List.nodup_singleton a, ?_⟩
      intro b listed c here same
      rw [List.mem_singleton.mp here] at same
      exact fresh (same ▸ listed)
    · intro b
      rw [List.mem_append, List.mem_append, first.mem]
    · rw [List.pairwise_append]
      refine ⟨order, List.pairwise_singleton _ a, ?_⟩
      intro b listed c here
      rw [List.mem_singleton.mp here, earlier b listed, List.idxOf_append_of_notMem new]
      exact Nat.lt_of_lt_of_le (List.idxOf_lt_length_of_mem ((first.mem b).mp listed))
        (Nat.le_add_right _ _)

theorem FirstOccurrences.foldl_push {xs out : List α} (first : FirstOccurrences xs out)
    (ys : List α) : FirstOccurrences (xs ++ ys) (ys.foldl Theory.push out) := by
  induction ys generalizing xs out with
  | nil =>
      rw [List.append_nil]
      exact first
  | cons a ys ih =>
      rw [List.append_cons, List.foldl_cons]
      exact ih (first.push a)

theorem firstOccurrences_foldl_push (xs : List α) :
    FirstOccurrences xs (xs.foldl Theory.push []) :=
  firstOccurrences_nil.foldl_push xs

/-- New elements that do not repeat are all appended. -/
theorem foldl_push_of_nodup {ys out : List α} (distinct : (out ++ ys).Nodup) :
    ys.foldl Theory.push out = out ++ ys := by
  induction ys generalizing out with
  | nil => rw [List.foldl_nil, List.append_nil]
  | cons a ys ih =>
      have fresh : a ∉ out := by
        intro listed
        exact (List.nodup_append.mp distinct).2.2 a listed a List.mem_cons_self rfl
      rw [List.append_cons] at distinct ⊢
      rw [List.foldl_cons, Theory.push, if_neg fresh]
      exact ih distinct

/-- **A loop that computes the elements first.** -/
theorem foldlM_push_eq_ok {f : β → Except ε α} {ys : List β} {init out : List α} :
    (ys.foldlM (fun out y => do
      let a ← f y
      pure (Theory.push out a)) init : Except ε (List α)) = .ok out ↔
      ∃ xs, List.Forall₂ (fun y a => f y = .ok a) ys xs ∧ xs.foldl Theory.push init = out := by
  induction ys generalizing init with
  | nil =>
      rw [List.foldlM_nil]
      constructor
      · intro done
        exact ⟨[], .nil, Except.ok.inj done⟩
      · rintro ⟨xs, none, rfl⟩
        cases none
        rfl
  | cons y ys ih =>
      rw [List.foldlM_cons]
      cases computed : f y with
      | error e =>
          constructor
          · intro impossible
            cases impossible
          · rintro ⟨xs, all, -⟩
            cases all with
            | cons here _ =>
                rw [computed] at here
                cases here
      | ok a =>
          refine Iff.trans ih ?_
          constructor
          · rintro ⟨xs, all, rfl⟩
            exact ⟨a :: xs, .cons computed all, rfl⟩
          · rintro ⟨xs, all, rfl⟩
            cases all with
            | cons here rest =>
                rw [computed] at here
                cases here
                exact ⟨_, rest, rfl⟩

end Tailroute.Theory
