/-
# Theory.Transition — runs of a partial step function, and their invariants

A system is a step function `S → A → Option S`: an action that is not enabled
answers `none`. `Reach step ok init` is reachability by steps that all meet the
side condition `ok` in the state before them; with `ok` trivially true it is
plain reachability. `Reach.invariant` is the one induction over runs.

A concrete run is a list of actions. `guarded step ok` refuses a step that does
not meet `ok`, so one evaluation of `run` exhibits a reachable state together
with the side condition of each of its steps (`reach_of_run`).
-/
import Mathlib.Logic.Basic

namespace Tailroute.Theory.Transition

set_option autoImplicit false

variable {S A : Type}

/-- Reachability by steps that all meet `ok`. -/
inductive Reach (step : S → A → Option S) (ok : S → A → Prop) (init : S) : S → Prop
  | start : Reach step ok init init
  | next {s s' : S} {a : A} (past : Reach step ok init s) (allowed : ok s a)
      (taken : step s a = some s') : Reach step ok init s'

variable {step : S → A → Option S} {ok ok' : S → A → Prop} {init s : S}

/-- A property of the initial state that every allowed step keeps holds of every
reachable state. -/
theorem Reach.invariant {I : S → Prop} (base : I init)
    (keep : ∀ s a s', Reach step ok init s → I s → ok s a → step s a = some s' → I s')
    (reached : Reach step ok init s) : I s := by
  induction reached with
  | start => exact base
  | next past allowed taken ih => exact keep _ _ _ past ih allowed taken

/-- A weaker side condition reaches more states. -/
theorem Reach.mono (weaker : ∀ s a, ok s a → ok' s a) (reached : Reach step ok init s) :
    Reach step ok' init s := by
  induction reached with
  | start => exact .start
  | next _ allowed taken ih => exact .next ih (weaker _ _ allowed) taken

/-- Run a list of actions; the first one that is not enabled stops the run. -/
def run (step : S → A → Option S) : S → List A → Option S
  | s, [] => some s
  | s, a :: rest => (step s a).bind fun s' => run step s' rest

theorem run_cons {s s' : S} {a : A} (taken : step s a = some s') (rest : List A) :
    run step s (a :: rest) = run step s' rest := by
  rw [run, taken, Option.bind_some]

theorem run_append {s : S} (before after : List A) :
    run step s (before ++ after) = (run step s before).bind fun s' => run step s' after := by
  induction before generalizing s with
  | nil => rfl
  | cons a rest ih =>
      cases taken : step s a with
      | none => simp only [List.cons_append, run, taken, Option.bind_none]
      | some s' =>
          rw [List.cons_append, run_cons taken, run_cons taken]
          exact ih

/-- What ran to its end had run to each point before. -/
theorem run_of_prefix {s s' : S} {past actions : List A} (earlier : past <+: actions)
    (ran : run step s actions = some s') : ∃ mid, run step s past = some mid := by
  obtain ⟨rest, rfl⟩ := earlier
  rw [run_append] at ran
  obtain ⟨mid, reached, -⟩ := Option.bind_eq_some_iff.mp ran
  exact ⟨mid, reached⟩

/-- A property that every action of the list keeps holds after the list. -/
theorem run_invariant {I : S → Prop} {s s' : S} {actions : List A} (base : I s)
    (keep : ∀ s, ∀ a ∈ actions, ∀ s', I s → step s a = some s' → I s')
    (ran : run step s actions = some s') : I s' := by
  induction actions generalizing s with
  | nil =>
      cases ran
      exact base
  | cons a rest ih =>
      obtain ⟨mid, taken, ran⟩ := Option.bind_eq_some_iff.mp ran
      refine ih (keep s a List.mem_cons_self mid base taken) ?_ ran
      exact fun s b listed => keep s b (List.mem_cons_of_mem a listed)

/-- The same with a note that each action updates. -/
theorem run_fold_invariant {B : Type} {note : B → A → B} {I : B → S → Prop} {b : B} {s s' : S}
    {actions : List A} (base : I b s)
    (keep : ∀ b s a s', I b s → step s a = some s' → I (note b a) s')
    (ran : run step s actions = some s') : I (actions.foldl note b) s' := by
  induction actions generalizing b s with
  | nil =>
      cases ran
      exact base
  | cons a rest ih =>
      obtain ⟨mid, taken, ran⟩ := Option.bind_eq_some_iff.mp ran
      exact ih (keep b s a mid base taken) ran

/-- A run whose final state passes a test. -/
theorem exists_run (P : S → Prop) [DecidablePred P] (actions : List A)
    (ran : ((run step s actions).any fun s => decide (P s)) = true) :
    ∃ s', run step s actions = some s' ∧ P s' := by
  cases final : run step s actions with
  | none =>
      rw [final] at ran
      cases ran
  | some s' =>
      rw [final] at ran
      exact ⟨s', rfl, of_decide_eq_true ran⟩

/-- The step function that also checks the side condition. -/
def guarded (step : S → A → Option S) (ok : S → A → Prop) [∀ s a, Decidable (ok s a)] :
    S → A → Option S :=
  fun s a => if ok s a then step s a else none

theorem reach_of_run_from [∀ s a, Decidable (ok s a)] {s' : S} (past : Reach step ok init s)
    (actions : List A) (ran : run (guarded step ok) s actions = some s') :
    Reach step ok init s' := by
  induction actions generalizing s with
  | nil =>
      cases ran
      exact past
  | cons a rest ih =>
      obtain ⟨mid, taken, ran⟩ := Option.bind_eq_some_iff.mp ran
      unfold guarded at taken
      split at taken
      · rename_i allowed
        exact ih (past.next allowed taken) ran
      · cases taken

/-- A checked run of actions reaches its final state. -/
theorem reach_of_run [∀ s a, Decidable (ok s a)] (actions : List A)
    (ran : run (guarded step ok) init actions = some s) : Reach step ok init s :=
  reach_of_run_from .start actions ran

/-- A checked run whose final state passes a test exhibits a reachable state with
the tested property. -/
theorem exists_reach_of_run [∀ s a, Decidable (ok s a)] (P : S → Prop) [DecidablePred P]
    (actions : List A)
    (ran : ((run (guarded step ok) init actions).any fun s => decide (P s)) = true) :
    ∃ s, Reach step ok init s ∧ P s := by
  obtain ⟨s, final, holds⟩ := exists_run P actions ran
  exact ⟨s, reach_of_run actions final, holds⟩

end Tailroute.Theory.Transition
