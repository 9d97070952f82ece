/-
# Theory.Attempt — computations that can fail, and rules for how they end

An attempt works on a state and either returns a value or fails with an error; in
both cases it leaves the state it has reached. Nothing is undone by a failure: a
system that undoes its work says so in its own state.

`Ends x s ok bad` says how `x` ends when it starts in `s`. The rules compose it: `bind`
for sequences, `foldlM` for loops with an invariant over what remains of the list. One
`bad` runs through all of them, since an error is passed on unchanged.
-/
import Mathlib.Logic.Basic

namespace Tailroute.Theory

set_option autoImplicit false

/-- A computation on a state that can fail. -/
def Attempt (σ ε α : Type) : Type := σ → Except ε α × σ

namespace Attempt

variable {σ ε α β : Type}

instance : Monad (Attempt σ ε) where
  pure a := fun s => (.ok a, s)
  bind x f := fun s =>
    match x s with
    | (.ok a, s') => f a s'
    | (.error e, s') => (.error e, s')

/-- Fail unless the state gives a value. -/
def ofExcept (read : σ → Except ε α) : Attempt σ ε α := fun s => (read s, s)

/-- The same attempt with its error translated. -/
def mapError {ε' : Type} (f : ε → ε') (x : Attempt σ ε α) : Attempt σ ε' α := fun s =>
  match x s with
  | (.ok a, s') => (.ok a, s')
  | (.error e, s') => (.error (f e), s')

/-- The value and the state the attempt returns with, or the error and the state it
fails in. -/
def Ends (x : Attempt σ ε α) (s : σ) (ok : α → σ → Prop) (bad : ε → σ → Prop) : Prop :=
  match x s with
  | (.ok a, s') => ok a s'
  | (.error e, s') => bad e s'

variable {x : Attempt σ ε α} {s : σ} {ok : α → σ → Prop} {bad : ε → σ → Prop}

theorem Ends.of_ok (ends : Ends x s ok bad) {a : α} {s' : σ} (returned : x s = (.ok a, s')) :
    ok a s' := by
  rw [Ends, returned] at ends
  exact ends

theorem Ends.of_error (ends : Ends x s ok bad) {e : ε} {s' : σ} (failed : x s = (.error e, s')) :
    bad e s' := by
  rw [Ends, failed] at ends
  exact ends

theorem Ends.mono {ok' : α → σ → Prop} (ends : Ends x s ok bad)
    (weaker : ∀ a s', ok a s' → ok' a s') : Ends x s ok' bad := by
  cases run : x s with
  | mk result s' =>
      rw [Ends, run] at ends ⊢
      cases result with
      | ok a => exact weaker a s' ends
      | error e => exact ends

theorem Ends.weaken {bad' : ε → σ → Prop} (ends : Ends x s ok bad)
    (weaker : ∀ e s', bad e s' → bad' e s') : Ends x s ok bad' := by
  cases run : x s with
  | mk result s' =>
      rw [Ends, run] at ends ⊢
      cases result with
      | ok a => exact ends
      | error e => exact weaker e s' ends

theorem ends_mapError {ε' : Type} {f : ε → ε'} {bad : ε' → σ → Prop}
    (ends : Ends x s ok fun e => bad (f e)) : Ends (x.mapError f) s ok bad := by
  rw [Ends, mapError]
  cases run : x s with
  | mk result s' =>
      cases result with
      | ok a => exact ends.of_ok run
      | error e => exact ends.of_error run

theorem ends_pure {a : α} (holds : ok a s) : Ends (pure a) s ok bad := holds

theorem Ends.bind {f : α → Attempt σ ε β} {mid : α → σ → Prop} {ok : β → σ → Prop}
    (first : Ends x s mid bad) (next : ∀ a s', mid a s' → Ends (f a) s' ok bad) :
    Ends (x >>= f) s ok bad := by
  show match (match x s with
    | (.ok a, s') => f a s'
    | (.error e, s') => (.error e, s')) with
    | (.ok b, s') => ok b s'
    | (.error e, s') => bad e s'
  cases run : x s with
  | mk result s' =>
      cases result with
      | ok a => exact next a s' (first.of_ok run)
      | error e => exact first.of_error run

theorem ends_ofExcept {read : σ → Except ε α} (value : ∀ a, read s = .ok a → ok a s)
    (error : ∀ e, read s = .error e → bad e s) : Ends (ofExcept read) s ok bad := by
  show match (read s, s) with
    | (.ok a, s') => ok a s'
    | (.error e, s') => bad e s'
  cases result : read s with
  | ok a => exact value a result
  | error e => exact error e result

/-- **The rule for loops.** The invariant speaks about what remains of the list. -/
theorem ends_foldlM {step : β → α → Attempt σ ε β} (inv : List α → β → σ → Prop)
    (keep : ∀ a rest b s, inv (a :: rest) b s → Ends (step b a) s (inv rest) bad)
    {xs : List α} {b : β} {s : σ} (start : inv xs b s) :
    Ends (xs.foldlM step b) s (inv []) bad := by
  induction xs generalizing b s with
  | nil => exact ends_pure start
  | cons a rest ih =>
      rw [List.foldlM_cons]
      exact (keep a rest b s start).bind fun _ _ kept => ih kept

end Attempt

end Tailroute.Theory
