/-
# Theory.TextOrder — codes whose lexicographic order is the order of the data

Text columns are compared character by character. `Orders r enc` says that the
code `enc` decides such a comparison by itself: whenever `r a b`, the code of `a`
followed by anything is lexicographically below the code of `b` followed by
anything. That is stronger than monotonicity, and it is what composes: the code
of a record is the concatenation of the codes of its fields, and
`Orders.andThen` compares a record by its first field and, where those codes
agree, by the rest.

Fixed-width decimals (`decimal`) order the numbers they can hold.
-/
import Mathlib.Data.List.Lex
import Mathlib.Data.Nat.Digits.Defs
import Mathlib.Tactic.Ring

namespace Tailroute.Theory.TextOrder

set_option autoImplicit false

/-! ## Codes -/

section Codes

variable {α γ : Type} [LT γ] {r q : α → α → Prop} {enc enc' : α → List γ}

/-- The code of `a` is below the code of `b` whatever follows the two. -/
def Orders (r : α → α → Prop) (enc : α → List γ) : Prop :=
  ∀ ⦃a b : α⦄, r a b → ∀ s t : List γ, enc a ++ s < enc b ++ t

theorem Orders.lt (orders : Orders r enc) {a b : α} (below : r a b) : enc a < enc b := by
  simpa using orders below [] []

/-- The code of one field of a record. -/
theorem Orders.comap {β : Type} (orders : Orders r enc) (f : β → α) :
    Orders (fun a b => r (f a) (f b)) fun b => enc (f b) :=
  fun _ _ below => orders below

/-- A code followed by another one still decides what it decided. -/
theorem Orders.append (orders : Orders r enc) (tail : α → List γ) :
    Orders r fun a => enc a ++ tail a := by
  intro a b below s t
  simpa only [List.append_assoc] using orders below (tail a ++ s) (tail b ++ t)

/-- Compare by the first code, and by the second where the first codes agree. -/
theorem Orders.andThen (first : Orders r enc) (second : Orders q enc') :
    Orders (fun a b => r a b ∨ (enc a = enc b ∧ q a b)) fun a => enc a ++ enc' a := by
  intro a b below s t
  rcases below with below | ⟨same, below⟩
  · exact first.append enc' below s t
  · rw [List.append_assoc, List.append_assoc, same]
    exact List.append_left_lt (second below s t)

/-- A text in front of all codes. -/
theorem Orders.behind (orders : Orders r enc) (start : List γ) :
    Orders r fun a => start ++ enc a := by
  intro a b below s t
  rw [List.append_assoc, List.append_assoc]
  exact List.append_left_lt (orders below s t)

end Codes

/-! ## Fixed-width decimals -/

/-- The last `width` decimal digits of `n`, most significant first. -/
def decimal : Nat → Nat → List Char
  | 0, _ => []
  | width + 1, n => decimal width (n / 10) ++ [Nat.digitChar (n % 10)]

@[simp] theorem decimal_length (width n : Nat) : (decimal width n).length = width := by
  induction width generalizing n with
  | zero => rfl
  | succ width ih => simp [decimal, ih]

theorem digitChar_lt {a b : Nat} (below : a < b) (hb : b < 10) :
    Nat.digitChar a < Nat.digitChar b := by
  rw [Char.lt_def, UInt32.lt_iff_toNat_lt]
  change (Nat.digitChar a).toNat < (Nat.digitChar b).toNat
  rw [Nat.toNat_digitChar_of_lt_ten (by omega), Nat.toNat_digitChar_of_lt_ten hb]
  omega

/-- Fixed-width decimals order the numbers of at most that many digits. -/
theorem decimal_orders (width : Nat) :
    Orders (fun a b : Nat => a < b ∧ b < 10 ^ width) (decimal width) := by
  induction width with
  | zero =>
      rintro a b ⟨below, fits⟩
      simp at fits
      omega
  | succ width ih =>
      rintro a b ⟨below, fits⟩ s t
      rw [pow_succ] at fits
      simp only [decimal, List.append_assoc]
      -- either the leading digits already differ, or they agree and the last one decides
      by_cases leading : a / 10 < b / 10
      · exact ih ⟨leading, by omega⟩ _ _
      · have same : a / 10 = b / 10 := by omega
        rw [same]
        apply List.append_left_lt
        exact List.cons_lt_cons_iff.mpr (Or.inl (digitChar_lt (by omega) (by omega)))

/-- A decimal is its leading digits followed by its trailing ones. -/
theorem decimal_add (width trailing n : Nat) :
    decimal (width + trailing) n = decimal width (n / 10 ^ trailing) ++ decimal trailing n := by
  induction trailing generalizing n with
  | zero => simp [decimal]
  | succ trailing ih =>
      rw [← Nat.add_assoc, decimal, ih, decimal, Nat.div_div_eq_div_mul, pow_succ,
        Nat.mul_comm 10, List.append_assoc]

/-- A decimal holds the number modulo its width. -/
theorem decimal_mod (width n : Nat) : decimal width (n % 10 ^ width) = decimal width n := by
  induction width generalizing n with
  | zero => rfl
  | succ width ih =>
      have leading : n % 10 ^ (width + 1) / 10 = n / 10 % 10 ^ width := by
        rw [pow_succ, Nat.mul_comm, Nat.mod_mul_right_div_self]
      have last : n % 10 ^ (width + 1) % 10 = n % 10 :=
        Nat.mod_mod_of_dvd n (dvd_pow_self 10 (Nat.succ_ne_zero width))
      rw [decimal, leading, last, ih, decimal]

theorem isDigit_decimal (width n : Nat) : ∀ c ∈ decimal width n, c.isDigit = true := by
  induction width generalizing n with
  | zero => simp [decimal]
  | succ width ih =>
      intro c member
      rw [decimal, List.mem_append, List.mem_singleton] at member
      rcases member with leading | rfl
      · exact ih _ c leading
      · have digit : ∀ d : Fin 10, (Nat.digitChar d).isDigit = true := by decide
        exact digit ⟨n % 10, Nat.mod_lt _ (by decide)⟩

theorem toNat_of_isDigit {c : Char} (digit : c.isDigit = true) :
    48 ≤ c.toNat ∧ c.toNat ≤ 57 := by
  simp only [Char.isDigit, Bool.and_eq_true, decide_eq_true_eq, ge_iff_le,
    UInt32.le_iff_toNat_le] at digit
  exact digit

/-- Reading a digit character back. -/
def digitValue (c : Char) : Nat := c.toNat - 48

@[simp] theorem digitValue_digitChar (n : Nat) : digitValue (Nat.digitChar (n % 10)) = n % 10 := by
  rw [digitValue, Nat.toNat_digitChar_of_lt_ten (Nat.mod_lt _ (by decide))]
  omega

/-- Reading a decimal back, most significant digit first. -/
def decimalValue (cs : List Char) : Nat :=
  cs.foldl (fun n c => 10 * n + digitValue c) 0

theorem decimalValue_append_singleton (cs : List Char) (c : Char) :
    decimalValue (cs ++ [c]) = 10 * decimalValue cs + digitValue c := by
  simp [decimalValue]

theorem decimalValue_decimal (width n : Nat) : decimalValue (decimal width n) = n % 10 ^ width := by
  induction width generalizing n with
  | zero => simp [decimal, decimalValue, Nat.mod_one]
  | succ width ih =>
      rw [decimal, decimalValue_append_singleton, ih, digitValue_digitChar, pow_succ,
        Nat.mul_comm (10 ^ width) 10, Nat.mod_mul]
      omega

theorem decimalValue_toDigits (n : Nat) : decimalValue (Nat.toDigits 10 n) = n := by
  induction n using Nat.strongRecOn with
  | ind n ih =>
      rw [Nat.toDigits_eq_if (by decide)]
      split
      · rename_i single
        have value : decimalValue ([] ++ [Nat.digitChar (n % 10)]) = n := by
          rw [decimalValue_append_singleton, digitValue_digitChar, Nat.mod_eq_of_lt single]
          exact Nat.zero_add n
        rwa [Nat.mod_eq_of_lt single] at value
      · rename_i several
        rw [decimalValue_append_singleton, ih (n / 10) (by omega), digitValue_digitChar]
        omega

end Tailroute.Theory.TextOrder
