/-
# Theory.Unordered — results that do not depend on an order

A list of one value is one however it is ordered, and so is a list that repeats one
value (`destutter_insertionSort_eq_singleton`).

Two ways in which an unspecified order reaches a result. A search for the first
element of each of several classes can, over all orders of a list, return any one
element of every class at once (`exists_perm_find?`).

A list of sources, each of which writes a value or none, leaves the value of the
last one that writes (`lastSome`). When a source may behave in several ways, so
may the whole: `Outcome` collects what remains over all orders and all behaviours,
and `settled_iff` says when that is a single result: nobody can write, or all who
can would write the same and somebody must.
-/
import Mathlib.Data.List.Destutter
import Mathlib.Data.List.Forall2
import Mathlib.Data.List.ReduceOption
import Mathlib.Data.List.Sort
import Tailroute.Theory.LastWrite

namespace Tailroute.Theory

set_option autoImplicit false

/-! ## Lists with at most one order -/

/-- Two orders of a list are one unless it has two elements. -/
theorem eq_or_two_le_of_perm {α : Type} {xs ys : List α} (order : xs.Perm ys) :
    xs = ys ∨ ∃ a b rest c d rest', xs = a :: b :: rest ∧ ys = c :: d :: rest' := by
  match xs, ys, order with
  | [], ys, order => exact Or.inl (List.nil_perm.mp order).symm
  | [a], ys, order => exact Or.inl (List.singleton_perm.mp order)
  | a :: b :: rest, [], order => exact absurd order.length_eq (by simp)
  | a :: b :: rest, [c], order => exact absurd order.length_eq (by simp)
  | a :: b :: rest, c :: d :: rest', _ => exact Or.inr ⟨a, b, rest, c, d, rest', rfl, rfl⟩

/-! ## Lists with one value -/

/-- Nothing is left of a list but its first element when repetitions are dropped. -/
theorem destutter'_eq_singleton {α : Type} [DecidableEq α] {a b : α} {xs : List α} :
    xs.destutter' (· ≠ ·) a = [b] ↔ a = b ∧ ∀ x ∈ xs, x = b := by
  induction xs generalizing a with
  | nil => simp [eq_comm]
  | cons x xs ih =>
      rw [List.destutter'_cons]
      by_cases same : a = x
      · subst same
        simp [ih]
      · have nonempty : xs.destutter' (· ≠ ·) x ≠ [] := List.destutter'_ne_nil _ _
        simp only [ne_eq, same, not_false_eq_true, if_true, List.cons.injEq, nonempty, and_false,
          List.mem_cons, forall_eq_or_imp, false_iff, not_and]
        rintro rfl rfl
        exact absurd rfl same

/-- Sorting and dropping repetitions leaves one value exactly for a list of that value. -/
theorem destutter_insertionSort_eq_singleton {α : Type} [DecidableEq α] (r : α → α → Prop)
    [DecidableRel r] {a : α} {xs : List α} :
    (xs.insertionSort r).destutter (· ≠ ·) = [a] ↔ xs ≠ [] ∧ ∀ x ∈ xs, x = a := by
  have order := List.perm_insertionSort r xs
  cases sorted : xs.insertionSort r with
  | nil =>
      rw [sorted] at order
      simp [order.symm.eq_nil]
  | cons x rest =>
      rw [sorted] at order
      have nonempty : xs ≠ [] := by
        rintro rfl
        cases sorted
      have members : (∀ y ∈ xs, y = a) ↔ x = a ∧ ∀ y ∈ rest, y = a := by
        simp only [← order.mem_iff, List.mem_cons, forall_eq_or_imp]
      rw [List.destutter_cons', destutter'_eq_singleton, members]
      simp [nonempty]

/-! ## First matches over all orders -/

section Classes

variable {α ι : Type} [DecidableEq α] [DecidableEq ι]

/-- **Any choice of one element per class comes first in some order.** -/
theorem exists_perm_find? (class? : α → Option ι) (xs : List α) (chosen : ι → Option α)
    (member : ∀ i x, chosen i = some x → x ∈ xs ∧ class? x = some i)
    (absent : ∀ i, chosen i = none → ∀ x ∈ xs, class? x ≠ some i) :
    ∃ ys, xs.Perm ys ∧ ∀ i, (ys.find? fun x => decide (class? x = some i)) = chosen i := by
  -- the chosen elements in front, the others behind them
  let first : α → Bool := fun x => (class? x).any fun i => decide (chosen i = some x)
  refine ⟨xs.filter first ++ xs.filter fun x => !first x, (List.filter_append_perm first xs).symm, ?_⟩
  intro i
  cases choice : chosen i with
  | none =>
      apply List.find?_eq_none.mpr
      intro x listed
      have inside : x ∈ xs := (List.filter_append_perm first xs).mem_iff.mp listed
      simpa using absent i choice x inside
  | some x =>
      obtain ⟨inside, classed⟩ := member i x choice
      have front : x ∈ xs.filter first := by
        rw [List.mem_filter]
        exact ⟨inside, by simp [first, classed, choice]⟩
      have found : (xs.filter first).find? (fun y => decide (class? y = some i)) = some x := by
        cases search : (xs.filter first).find? fun y => decide (class? y = some i) with
        | none =>
            have missed := List.find?_eq_none.mp search x front
            simp [classed] at missed
        | some y =>
            have same : class? y = some i := by simpa using List.find?_some search
            have picked := (List.mem_filter.mp (List.mem_of_find?_eq_some search)).2
            simp only [first, same, Option.any_some, choice, decide_eq_true_eq] at picked
            rw [Option.some.inj picked]
      rw [List.find?_append, found, Option.some_or]

end Classes

/-! ## The last source that writes -/

section LastSome

variable {V : Type}

/-- The last value among optional ones. -/
def lastSome (os : List (Option V)) : Option V := os.reduceOption.getLast?

theorem lastSome_append (os later : List (Option V)) :
    lastSome (os ++ later) = (lastSome later).or (lastSome os) := by
  rw [lastSome, List.reduceOption_append, List.getLast?_append]
  rfl

theorem mem_of_lastSome {os : List (Option V)} {v : V} (last : lastSome os = some v) :
    some v ∈ os :=
  List.reduceOption_mem_iff.mp (List.mem_of_getLast? last)

theorem lastSome_eq_none_iff {os : List (Option V)} :
    lastSome os = none ↔ ∀ v, some v ∉ os := by
  rw [lastSome, List.getLast?_eq_none_iff, List.eq_nil_iff_forall_not_mem]
  simp only [List.reduceOption_mem_iff]

theorem lastSome_concat_some (os : List (Option V)) (v : V) :
    lastSome (os ++ [some v]) = some v := by
  rw [lastSome_append]
  rfl

theorem lastSome_map {X : Type} (f : X → Option V) (xs : List X) :
    lastSome (xs.map f) = (xs.filterMap f).getLast? := by
  show ((xs.map f).filterMap id).getLast? = _
  rw [List.filterMap_map, Function.id_comp]

/-- Sources that write nothing may be left out. -/
theorem lastSome_map_filter {X : Type} {f : X → Option V} {p : X → Bool}
    (silent : ∀ x, p x = false → f x = none) (xs : List X) :
    lastSome ((xs.filter p).map f) = lastSome (xs.map f) := by
  have bound : (fun x => ((Option.guard p x).bind f)) = f := by
    funext x
    cases kept : p x with
    | true => simp [Option.guard, kept]
    | false => simp [Option.guard, kept, silent x kept]
  rw [lastSome_map, lastSome_map, ← List.filterMap_eq_filter, List.filterMap_filterMap, bound]

/-- Sources that fail a check on which their writes depend may be left out. -/
theorem lastSome_map_filter_ok {X A E : Type} {f : X → Option V} (check : X → Except E A)
    (checked : ∀ x v, f x = some v → ∃ a, check x = .ok a) (xs : List X) :
    lastSome ((xs.filter fun x => (check x).toOption.isSome).map f) = lastSome (xs.map f) := by
  apply lastSome_map_filter
  intro x failed
  rw [Option.eq_none_iff_forall_ne_some]
  intro v writes
  obtain ⟨a, passed⟩ := checked x v writes
  rw [passed] at failed
  cases failed

/-- Sources that are read through an optional view. -/
theorem lastSome_map_filterMap {X Y : Type} (view : X → Option Y) (f : Y → Option V) (xs : List X) :
    lastSome ((xs.filterMap view).map f) = lastSome (xs.map fun x => (view x).bind f) := by
  rw [lastSome_map, lastSome_map, List.filterMap_filterMap]

/-- The last source that gives anything gives the value. -/
def LastGives {X : Type} (gives : X → V → Prop) (xs : List X) (v : V) : Prop :=
  ∃ before x after, xs = before ++ x :: after ∧ gives x v ∧ ∀ y ∈ after, ∀ w, ¬gives y w

def NoneGives {X : Type} (gives : X → V → Prop) (xs : List X) : Prop :=
  ∀ x ∈ xs, ∀ v, ¬gives x v

theorem lastSome_map_eq_none_iff {X : Type} {f : X → Option V} {gives : X → V → Prop}
    (spec : ∀ x v, f x = some v ↔ gives x v) {xs : List X} :
    lastSome (xs.map f) = none ↔ NoneGives gives xs := by
  simp only [lastSome_eq_none_iff, NoneGives, ← spec, List.mem_map, not_exists, not_and]
  exact ⟨fun none x listed v => none v x listed, fun none v x listed => none x listed v⟩

theorem lastSome_map_eq_some_iff {X : Type} {f : X → Option V} {gives : X → V → Prop}
    (spec : ∀ x v, f x = some v ↔ gives x v) {xs : List X} {v : V} :
    lastSome (xs.map f) = some v ↔ LastGives gives xs v := by
  constructor
  · intro last
    rw [lastSome_map, List.getLast?_eq_some_iff] at last
    obtain ⟨vs, given⟩ := last
    obtain ⟨before, rest, rfl, -, tail⟩ := List.filterMap_eq_append_iff.mp given
    obtain ⟨skipped, x, after, rfl, -, here, quiet⟩ := List.filterMap_eq_cons_iff.mp tail
    refine ⟨before ++ skipped, x, after, by simp, (spec x v).mp here, ?_⟩
    intro y listed w gives
    have silent := List.filterMap_eq_nil_iff.mp quiet y listed
    rw [(spec y w).mpr gives] at silent
    cases silent
  · rintro ⟨before, x, after, rfl, gives, quiet⟩
    have silent := (lastSome_map_eq_none_iff spec).mpr quiet
    rw [List.append_cons, List.map_append, lastSome_append, silent, Option.none_or,
      List.map_append, List.map_singleton, (spec x v).mpr gives, lastSome_concat_some]

/-- Writes made source by source. -/
theorem lastWrite_flatMap {X K : Type} [DecidableEq K] (writes : X → List (K × V)) (xs : List X)
    (k : K) :
    lastWrite (xs.flatMap writes) k = lastSome (xs.map fun x => lastWrite (writes x) k) := by
  induction xs using List.reverseRecOn with
  | nil => rfl
  | append_singleton xs x ih =>
      rw [List.flatMap_append, lastWrite_append, ih, List.map_append, lastSome_append]
      simp only [List.flatMap_cons, List.flatMap_nil, List.append_nil, List.map_cons, List.map_nil]
      cases lastWrite (writes x) k <;> rfl

end LastSome

/-! ## Sources with several behaviours -/

section Sources

variable {X V : Type}

theorem exists_forall₂ {Y : Type} {R : X → Y → Prop} {xs : List X} (total : ∀ x ∈ xs, ∃ y, R x y) :
    ∃ ys, List.Forall₂ R xs ys := by
  induction xs with
  | nil => exact ⟨[], .nil⟩
  | cons x xs ih =>
      obtain ⟨y, related⟩ := total x List.mem_cons_self
      obtain ⟨ys, rest⟩ := ih fun x' member => total x' (List.mem_cons_of_mem _ member)
      exact ⟨y :: ys, .cons related rest⟩

theorem exists_of_forall₂_left {Y : Type} {R : X → Y → Prop} {xs : List X} {ys : List Y}
    (related : List.Forall₂ R xs ys) {x : X} (member : x ∈ xs) : ∃ y ∈ ys, R x y := by
  induction related with
  | nil => cases member
  | cons here _ ih =>
      rcases List.mem_cons.mp member with rfl | later
      · exact ⟨_, List.mem_cons_self, here⟩
      · obtain ⟨y, listed, there⟩ := ih later
        exact ⟨y, List.mem_cons_of_mem _ listed, there⟩

/-- What can remain of the sources: `can x o` says that source `x` may write `o`. -/
def Outcome (can : X → Option V → Prop) (xs : List X) (o : Option V) : Prop :=
  ∃ ys os, xs.Perm ys ∧ List.Forall₂ can ys os ∧ lastSome os = o

/-- No source can write, or all that can write one value and some source must. -/
def Settled (can : X → Option V → Prop) (xs : List X) : Prop :=
  (∀ x ∈ xs, ∀ v, ¬can x (some v)) ∨
    ∃ v, (∀ x ∈ xs, ∀ w, can x (some w) → w = v) ∧ ∃ x ∈ xs, ¬can x none

variable {can : X → Option V → Prop} {xs : List X}

theorem exists_can_of_outcome {v : V} (outcome : Outcome can xs (some v)) :
    ∃ x ∈ xs, can x (some v) := by
  obtain ⟨ys, os, order, behaved, last⟩ := outcome
  obtain ⟨y, listed, wrote⟩ := exists_of_forall₂_left behaved.flip (mem_of_lastSome last)
  exact ⟨y, order.mem_iff.mpr listed, wrote⟩

/-- Sources with one behaviour each differ only in their order. -/
theorem outcome_fun_iff {f : X → Option V} {o : Option V} :
    Outcome (fun x o => f x = o) xs o ↔ ∃ ys, xs.Perm ys ∧ lastSome (ys.map f) = o := by
  constructor
  · rintro ⟨ys, os, order, behaved, last⟩
    rw [← List.forall₂_map_left_iff, List.forall₂_eq_eq_eq] at behaved
    exact ⟨ys, order, behaved ▸ last⟩
  · rintro ⟨ys, order, last⟩
    refine ⟨ys, ys.map f, order, ?_, last⟩
    rw [List.forall₂_map_right_iff]
    exact List.forall₂_same.mpr fun _ _ => rfl

/-- A source that can write can have the last word. -/
theorem outcome_of_can (total : ∀ x ∈ xs, ∃ o, can x o) {x : X} (member : x ∈ xs) {v : V}
    (writes : can x (some v)) : Outcome can xs (some v) := by
  obtain ⟨front, back, rfl⟩ := List.append_of_mem member
  have others : ∀ y ∈ front ++ back, ∃ o, can y o := by
    intro y listed
    apply total
    rcases List.mem_append.mp listed with before | after
    · exact List.mem_append_left _ before
    · exact List.mem_append_right _ (List.mem_cons_of_mem _ after)
  obtain ⟨os, behaved⟩ := exists_forall₂ others
  refine ⟨front ++ back ++ [x], os ++ [some v], ?_, ?_, lastSome_concat_some os v⟩
  · exact List.perm_middle.trans (List.perm_append_singleton x (front ++ back)).symm
  · exact List.rel_append behaved (.cons writes .nil)

/-- Sources that can all pass can leave nothing. -/
theorem outcome_none (pass : ∀ x ∈ xs, can x none) : Outcome can xs none := by
  refine ⟨xs, xs.map fun _ => none, .refl xs, ?_, ?_⟩
  · rw [List.forall₂_map_right_iff]
    exact List.forall₂_same.mpr pass
  · rw [lastSome_eq_none_iff]
    intro v listed
    obtain ⟨x, -, same⟩ := List.mem_map.mp listed
    cases same

/-- **When an unordered list of sources has one result.** -/
theorem settled_iff (total : ∀ x ∈ xs, ∃ o, can x o) :
    Settled can xs ↔ ∀ o o', Outcome can xs o → Outcome can xs o' → o = o' := by
  constructor
  · rintro (silent | ⟨v, agree, x, member, must⟩)
    · have nothing : ∀ o, Outcome can xs o → o = none := by
        intro o outcome
        cases o with
        | none => rfl
        | some v =>
            obtain ⟨x, listed, writes⟩ := exists_can_of_outcome outcome
            exact absurd writes (silent x listed v)
      intro o o' outcome outcome'
      rw [nothing o outcome, nothing o' outcome']
    · have value : ∀ o, Outcome can xs o → o = some v := by
        intro o outcome
        cases o with
        | none =>
            obtain ⟨ys, os, order, behaved, last⟩ := outcome
            obtain ⟨o, listed, wrote⟩ := exists_of_forall₂_left behaved (order.mem_iff.mp member)
            cases o with
            | none => exact absurd wrote must
            | some w => exact absurd listed (lastSome_eq_none_iff.mp last w)
        | some w =>
            obtain ⟨y, listed, writes⟩ := exists_can_of_outcome outcome
            rw [agree y listed w writes]
      intro o o' outcome outcome'
      rw [value o outcome, value o' outcome']
  · intro unique
    by_cases silent : ∀ x ∈ xs, ∀ v, ¬can x (some v)
    · exact Or.inl silent
    · push Not at silent
      obtain ⟨x, member, v, writes⟩ := silent
      have last := outcome_of_can total member writes
      refine Or.inr ⟨v, ?_, ?_⟩
      · intro y listed w wrote
        exact Option.some.inj (unique _ _ (outcome_of_can total listed wrote) last)
      · by_contra pass
        push Not at pass
        cases unique _ _ (outcome_none pass) last

end Sources

end Tailroute.Theory
