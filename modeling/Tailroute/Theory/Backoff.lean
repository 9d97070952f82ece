/-
# Theory.Backoff — delays that double up to a bound

A retry loop waits, doubles the wait and caps it, and goes back to the base after a
success. `Paced base cap d` says that `d` is a wait of such a loop: the base doubled some
number of times and capped.
-/
import Mathlib.Algebra.Group.Nat.Even

namespace Tailroute.Theory.Backoff

set_option autoImplicit false

/-- The delay after a number of failures in a row. -/
def delay (base cap failures : Nat) : Nat := min (base * 2 ^ failures) cap

def Paced (base cap d : Nat) : Prop := ∃ failures, d = delay base cap failures

variable {base cap d : Nat}

/-- Doubling a capped delay and capping it again is one more failure. -/
theorem double_delay (failures : Nat) :
    min (delay base cap failures * 2) cap = delay base cap (failures + 1) := by
  have doubled : base * 2 ^ (failures + 1) = base * 2 ^ failures * 2 := by
    rw [Nat.pow_succ, Nat.mul_assoc]
  unfold delay
  rw [doubled]
  omega

theorem paced_base (fits : base ≤ cap) : Paced base cap base :=
  ⟨0, by rw [delay, Nat.pow_zero, Nat.mul_one, Nat.min_eq_left fits]⟩

theorem Paced.double (paced : Paced base cap d) : Paced base cap (min (d * 2) cap) := by
  obtain ⟨failures, rfl⟩ := paced
  exact ⟨failures + 1, double_delay failures⟩

theorem Paced.le_cap (paced : Paced base cap d) : d ≤ cap := by
  obtain ⟨failures, rfl⟩ := paced
  exact Nat.min_le_right _ _

end Tailroute.Theory.Backoff
