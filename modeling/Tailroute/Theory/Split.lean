/-
# Theory.Split — lists cut at separators

`List.splitOnP p` cuts a list at the elements that pass `p`. Here is where things are after
the cut: an element that was not cut at lies in one of the parts, and every part is a
stretch of the list. Conversely a stretch that avoids an element lies on one side of it.
-/
import Mathlib.Data.List.Infix

namespace Tailroute.Theory.Split

set_option autoImplicit false

variable {α : Type} {p : α → Bool}

/-- The first part starts the list, and the others lie in it. -/
theorem splitOnP_parts (p : α → Bool) (t : List α) :
    ∃ first others, t.splitOnP p = first :: others ∧ first <+: t ∧
      ∀ part ∈ others, part <:+: t := by
  induction t with
  | nil => exact ⟨[], [], List.splitOnP_nil, List.prefix_rfl, nofun⟩
  | cons c rest ih =>
      obtain ⟨first, others, parts, starts, inside⟩ := ih
      have later : ∀ part ∈ others, part <:+: c :: rest := fun part member =>
        List.infix_cons (inside part member)
      rw [List.splitOnP_cons_eq_if_modifyHead, parts]
      split
      · refine ⟨[], first :: others, rfl, List.nil_prefix, ?_⟩
        exact List.forall_mem_cons.mpr ⟨List.infix_cons starts.isInfix, later⟩
      · exact ⟨c :: first, others, rfl, List.cons_prefix_cons.mpr ⟨rfl, starts⟩, later⟩

/-- Every part is a stretch of the list. -/
theorem infix_of_mem_splitOnP {t part : List α} (member : part ∈ t.splitOnP p) : part <:+: t := by
  obtain ⟨first, others, parts, starts, inside⟩ := splitOnP_parts p t
  rw [parts] at member
  rcases List.mem_cons.mp member with rfl | later
  · exact starts.isInfix
  · exact inside part later

/-- An element is a separator or lies in a part. -/
theorem mem_splitOnP {t : List α} {c : α} (member : c ∈ t) :
    p c = true ∨ ∃ part ∈ t.splitOnP p, c ∈ part := by
  induction t with
  | nil => cases member
  | cons d rest ih =>
      obtain ⟨first, others, parts, -⟩ := splitOnP_parts p rest
      rw [List.splitOnP_cons_eq_if_modifyHead]
      rw [parts] at ih ⊢
      split
      · rename_i cut
        rcases List.mem_cons.mp member with rfl | later
        · exact Or.inl cut
        · refine (ih later).imp_right ?_
          rintro ⟨part, listed, inside⟩
          exact ⟨part, List.mem_cons_of_mem _ listed, inside⟩
      · rcases List.mem_cons.mp member with rfl | later
        · exact Or.inr ⟨c :: first, List.mem_cons_self, List.mem_cons_self⟩
        · refine (ih later).imp_right ?_
          rintro ⟨part, listed, inside⟩
          rcases List.mem_cons.mp listed with rfl | listed
          · exact ⟨d :: part, List.mem_cons_self, List.mem_cons_of_mem d inside⟩
          · exact ⟨part, List.mem_cons_of_mem _ listed, inside⟩

theorem mem_splitOn [BEq α] [LawfulBEq α] {t : List α} {c : α} (x : α) (member : c ∈ t) :
    c = x ∨ ∃ part ∈ t.splitOn x, c ∈ part := by
  rw [List.splitOn_eq_splitOnP]
  have either := @mem_splitOnP α (fun y => y == x) t c member
  exact either.imp_left eq_of_beq

/-- A stretch that avoids an element lies on one side of it. -/
theorem infix_of_not_mem {c : α} {part before after : List α}
    (inside : part <:+: before ++ c :: after) (absent : c ∉ part) :
    part <:+: before ∨ part <:+: after := by
  rcases List.infix_append_iff.mp inside with left | right | ⟨u, v, rfl, ends, starts⟩
  · exact Or.inl left
  · rcases List.infix_cons_iff.mp right with starts | right
    · rcases List.prefix_cons_iff.mp starts with rfl | ⟨v, rfl, -⟩
      · exact Or.inl List.nil_infix
      · exact absurd List.mem_cons_self absent
    · exact Or.inr right
  · rcases List.prefix_cons_iff.mp starts with rfl | ⟨v, rfl, -⟩
    · rw [List.append_nil]
      exact Or.inl ends.isInfix
    · exact absurd (List.mem_append_right u List.mem_cons_self) absent

end Tailroute.Theory.Split
