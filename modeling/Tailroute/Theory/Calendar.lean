/-
# Theory.Calendar — days and civil dates of the proleptic Gregorian calendar

Days are counted from the first day of year 1. `daysBeforeYear y` is the number
of the first day of year `y`; `yearOf n` is the year whose first day is the last
one not after day `n`, found by one division and a correction of at most one
year (`yearOf_bracket`). Inside a year the ordinal day is split by the lengths of
the months (`split`), which is done for any list of lengths.

Two facts are used of all this. A civil date determines its day
(`dayNumber_civil`), and the triple of year, month and day is ordered as the
days are (`civil_lt`): years are monotone in the day, and inside one year the
months and their remainders are ordered as the ordinal days are (`split_lt`).
-/
import Mathlib.Tactic.Common
import Mathlib.Algebra.Order.Ring.Int

namespace Tailroute.Theory.Calendar

set_option autoImplicit false

/-! ## Years -/

/-- The number of the first day of year `y`; day 0 opens year 1. -/
def daysBeforeYear (y : Int) : Int :=
  365 * (y - 1) + (y - 1) / 4 - (y - 1) / 100 + (y - 1) / 400

/-- One more day in a leap year. -/
def leapDays (y : Int) : Int :=
  if y % 4 = 0 ∧ (y % 100 ≠ 0 ∨ y % 400 = 0) then 1 else 0

/-- The average year of 146097/400 days misses the year of a day by one at most. -/
def yearGuess (n : Int) : Int := 400 * n / 146097 + 1

def yearOf (n : Int) : Int :=
  if n < daysBeforeYear (yearGuess n) then yearGuess n - 1
  else if daysBeforeYear (yearGuess n + 1) ≤ n then yearGuess n + 1
  else yearGuess n

theorem daysBeforeYear_succ (y : Int) :
    daysBeforeYear (y + 1) = daysBeforeYear y + 365 + leapDays y := by
  unfold daysBeforeYear leapDays
  split <;> omega

theorem leapDays_bounds (y : Int) : 0 ≤ leapDays y ∧ leapDays y ≤ 1 := by
  unfold leapDays
  split <;> omega

theorem daysBeforeYear_mono {y z : Int} (le : y ≤ z) : daysBeforeYear y ≤ daysBeforeYear z := by
  unfold daysBeforeYear
  omega

theorem yearGuess_bracket (n : Int) :
    daysBeforeYear (yearGuess n - 1) ≤ n ∧ n < daysBeforeYear (yearGuess n + 2) := by
  unfold daysBeforeYear yearGuess
  constructor <;> omega

/-- The year of a day is the one whose first day is the last not after it. -/
theorem yearOf_bracket (n : Int) :
    daysBeforeYear (yearOf n) ≤ n ∧ n < daysBeforeYear (yearOf n + 1) := by
  obtain ⟨low, high⟩ := yearGuess_bracket n
  unfold yearOf
  split
  · rename_i before
    exact ⟨low, by simpa using before⟩
  · rename_i after
    split
    · rename_i next
      exact ⟨next, by rw [show yearGuess n + 1 + 1 = yearGuess n + 2 by omega]; exact high⟩
    · rename_i same
      exact ⟨by omega, by omega⟩

theorem yearOf_mono {n m : Int} (le : n ≤ m) : yearOf n ≤ yearOf m := by
  by_contra later
  have within := (yearOf_bracket m).2
  have opened := (yearOf_bracket n).1
  have mono := daysBeforeYear_mono (show yearOf m + 1 ≤ yearOf n by omega)
  omega

/-- The ordinal day of the year, counted from 0. -/
def dayOfYear (n : Int) : Int := n - daysBeforeYear (yearOf n)

theorem dayOfYear_bounds (n : Int) :
    0 ≤ dayOfYear n ∧ dayOfYear n < 365 + leapDays (yearOf n) := by
  have bracket := yearOf_bracket n
  rw [daysBeforeYear_succ] at bracket
  unfold dayOfYear
  omega

/-! ## Splitting a count by consecutive lengths -/

/-- The index of the segment that holds `d` when segments of the given lengths
are laid end to end, and the offset inside it. -/
def split : List Int → Int → Nat × Int
  | [], d => (0, d)
  | len :: rest, d => if d < len then (0, d) else ((split rest (d - len)).1 + 1, (split rest (d - len)).2)

/-- Segments and offsets are ordered as the counts are. -/
theorem split_lt (lengths : List Int) {d e : Int} (below : d < e) :
    (split lengths d).1 < (split lengths e).1 ∨
      (split lengths d).1 = (split lengths e).1 ∧ (split lengths d).2 < (split lengths e).2 := by
  induction lengths generalizing d e with
  | nil => exact Or.inr ⟨rfl, below⟩
  | cons len rest ih =>
      simp only [split]
      by_cases hd : d < len
      · by_cases he : e < len
        · simpa [hd, he] using below
        · simp [hd, he]
      · have he : ¬ e < len := by omega
        simpa [hd, he] using ih (show d - len < e - len by omega)

/-- The lengths before the segment, and the offset, add up to the count. -/
theorem split_sum (lengths : List Int) (d : Int) :
    (lengths.take (split lengths d).1).sum + (split lengths d).2 = d := by
  induction lengths generalizing d with
  | nil => simp [split]
  | cons len rest ih =>
      simp only [split]
      by_cases hd : d < len
      · simp [hd]
      · have := ih (d - len)
        simp only [hd, if_false, List.take_succ_cons, List.sum_cons]
        omega

/-- Below the total length, the segment exists and holds the offset. -/
theorem split_within (lengths : List Int) {d : Int} (low : 0 ≤ d) (high : d < lengths.sum) :
    ∃ len ∈ lengths, 0 ≤ (split lengths d).2 ∧ (split lengths d).2 < len ∧
      (split lengths d).1 < lengths.length := by
  induction lengths generalizing d with
  | nil =>
      simp at high
      omega
  | cons len rest ih =>
      simp only [split]
      by_cases hd : d < len
      · exact ⟨len, by simp, by simp [hd, low]⟩
      · rw [List.sum_cons] at high
        obtain ⟨len', member, bounds⟩ := ih (show 0 ≤ d - len by omega) (by omega)
        exact ⟨len', by simp [member], by simpa [hd] using bounds⟩

/-! ## Civil dates -/

/-- The lengths of the months in a year with `leap` leap days. -/
def monthLengths (leap : Int) : List Int :=
  [31, 28 + leap, 31, 30, 31, 30, 31, 31, 30, 31, 30, 31]

/-- A date of the calendar. -/
structure Civil where
  year : Int
  month : Nat
  day : Nat
deriving Repr, DecidableEq

/-- The months of the year of day `n`. -/
def monthsOf (n : Int) : List Int := monthLengths (leapDays (yearOf n))

/-- The civil date of a day. -/
def civil (n : Int) : Civil where
  year := yearOf n
  month := (split (monthsOf n) (dayOfYear n)).1 + 1
  day := (split (monthsOf n) (dayOfYear n)).2.toNat + 1

/-- The day of a civil date. -/
def dayNumber (c : Civil) : Int :=
  daysBeforeYear c.year + ((monthLengths (leapDays c.year)).take (c.month - 1)).sum + (c.day - 1)

/-- The months of a year hold all of its days, and none is longer than 31. -/
theorem civil_bounds (n : Int) :
    0 ≤ (split (monthsOf n) (dayOfYear n)).2 ∧ (civil n).month ≤ 12 ∧ (civil n).day ≤ 31 := by
  obtain ⟨low, high⟩ := dayOfYear_bounds n
  have leap := leapDays_bounds (yearOf n)
  have total : (monthsOf n).sum = 365 + leapDays (yearOf n) := by
    simp [monthsOf, monthLengths]
    omega
  obtain ⟨len, member, offset, inside, index⟩ :=
    split_within (monthsOf n) low (by rw [total]; exact high)
  have short : len ≤ 31 := by
    simp only [monthsOf, monthLengths, List.mem_cons, List.not_mem_nil, or_false] at member
    omega
  have twelve : (monthsOf n).length = 12 := rfl
  simp only [civil]
  omega

/-- **A civil date determines its day.** -/
theorem dayNumber_civil (n : Int) : dayNumber (civil n) = n := by
  have sum := split_sum (monthsOf n) (dayOfYear n)
  have offset := (civil_bounds n).1
  simp only [dayNumber, civil, Nat.add_sub_cancel, monthsOf] at sum offset ⊢
  unfold dayOfYear at sum offset ⊢
  omega

/-- **Civil dates are ordered as their days are**, field by field. -/
theorem civil_lt {n m : Int} (below : n < m) :
    (civil n).year < (civil m).year ∨
      (civil n).year = (civil m).year ∧
        ((civil n).month < (civil m).month ∨
          (civil n).month = (civil m).month ∧ (civil n).day < (civil m).day) := by
  rcases lt_or_eq_of_le (yearOf_mono below.le) with year | year
  · exact Or.inl year
  · refine Or.inr ⟨year, ?_⟩
    have ordinal : dayOfYear n < dayOfYear m := by
      unfold dayOfYear
      rw [year]
      omega
    have months : monthsOf m = monthsOf n := by rw [monthsOf, monthsOf, year]
    have offset := (civil_bounds n).1
    simp only [civil, months]
    rcases split_lt (monthsOf n) ordinal with month | ⟨month, day⟩
    · exact Or.inl (by omega)
    · exact Or.inr ⟨by omega, by omega⟩

example : civil 719162 = ⟨1970, 1, 1⟩ := by decide
example : civil 730178 = ⟨2000, 2, 29⟩ := by decide

end Tailroute.Theory.Calendar
