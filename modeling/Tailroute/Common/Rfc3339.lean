/-
# Common.Rfc3339 — instants and the text the store keeps of them

The controller reads `Utc::now()`, writes it with chrono's `to_rfc3339`, and
later either parses the text back or compares it as text. Instants and durations
are integers: nanoseconds since the Unix epoch, and between two instants.
`toRfc3339` is chrono's layout for UTC: a four-digit year (an explicit sign
outside 0000–9999), zero to nine fractional digits in groups of three, and the
offset `+00:00`.

* `toRfc3339_lt_iff`: against a four-digit-year timestamp, the text comparison
  `last_seen_at < cutoff` is the comparison of the instants, except that a cutoff
  after year 9999 is below every such timestamp: its `+` sorts before the digits.
* `Rfc3339`: a parser that undoes the formatting of four-digit years, which is
  all the controller relies on; `layoutParser` is one.
-/
import Tailroute.Common.Text
import Tailroute.Theory.TextOrder
import Tailroute.Theory.Calendar

namespace Tailroute.Common

open Tailroute.Theory.TextOrder Tailroute.Theory.Calendar

set_option autoImplicit false

def nanosPerSecond : Int := 1000000000

/-- The number of 1970-01-01 among the days of the calendar. -/
def epochDay : Int := 719162

namespace Instant

/-! ## The fields of a timestamp -/

def seconds (t : Int) : Int := t / nanosPerSecond

def nanos (t : Int) : Nat := (t % nanosPerSecond).toNat

def date (t : Int) : Civil := civil (seconds t / 86400 + epochDay)

def secondOfDay (t : Int) : Nat := (seconds t % 86400).toNat

def year (t : Int) : Int := (date t).year

def month (t : Int) : Nat := (date t).month

def day (t : Int) : Nat := (date t).day

def hour (t : Int) : Nat := secondOfDay t / 3600

def minute (t : Int) : Nat := secondOfDay t / 60 % 60

def second (t : Int) : Nat := secondOfDay t % 60

/-- The years RFC 3339 writes with four digits and no sign. -/
def FourDigitYear (t : Int) : Prop := 0 ≤ year t ∧ year t ≤ 9999

instance (t : Int) : Decidable (FourDigitYear t) := inferInstanceAs (Decidable (_ ∧ _))

theorem nanos_lt (t : Int) : nanos t < 10 ^ 9 := by
  simp only [nanos, nanosPerSecond]
  omega

theorem secondOfDay_lt (t : Int) : secondOfDay t < 86400 := by
  simp only [secondOfDay]
  omega

theorem month_lt (t : Int) : month t < 10 ^ 2 := by
  have bounds := civil_bounds (seconds t / 86400 + epochDay)
  change (civil _).month < _
  omega

theorem day_lt (t : Int) : day t < 10 ^ 2 := by
  have bounds := civil_bounds (seconds t / 86400 + epochDay)
  change (civil _).day < _
  omega

theorem hour_lt (t : Int) : hour t < 10 ^ 2 := by
  have daytime := secondOfDay_lt t
  simp only [hour]
  omega

theorem minute_lt (t : Int) : minute t < 10 ^ 2 := by
  simp only [minute]
  omega

theorem second_lt (t : Int) : second t < 10 ^ 2 := by
  simp only [second]
  omega

theorem year_mono {s t : Int} (le : s ≤ t) : year s ≤ year t := by
  apply yearOf_mono
  simp only [seconds, nanosPerSecond]
  omega

/-- The fields of an instant put together again. -/
theorem ofFields (t : Int) :
    ((dayNumber (date t) - epochDay) * 86400 + hour t * 3600 + minute t * 60 + second t) *
      nanosPerSecond + nanos t = t := by
  rw [date, dayNumber_civil]
  simp only [hour, minute, second, secondOfDay, nanos, seconds, nanosPerSecond, epochDay]
  omega

/-- Later fields decide only where the earlier ones agree. -/
theorem fields_lt {s t : Int} (below : s < t) :
    year s < year t ∨ year s = year t ∧ (month s < month t ∨ month s = month t ∧
      (day s < day t ∨ day s = day t ∧ (hour s < hour t ∨ hour s = hour t ∧
        (minute s < minute t ∨ minute s = minute t ∧
          (second s < second t ∨ second s = second t ∧ nanos s < nanos t))))) := by
  have clock : seconds s / 86400 = seconds t / 86400 →
      hour s < hour t ∨ hour s = hour t ∧ (minute s < minute t ∨ minute s = minute t ∧
        (second s < second t ∨ second s = second t ∧ nanos s < nanos t)) := by
    intro sameDay
    simp only [hour, minute, second, secondOfDay, nanos, seconds, nanosPerSecond] at sameDay ⊢
    omega
  by_cases sameDay : seconds s / 86400 = seconds t / 86400
  · have sameDate : date s = date t := by rw [date, date, sameDay]
    exact Or.inr ⟨by rw [year, year, sameDate], Or.inr ⟨by rw [month, month, sameDate],
      Or.inr ⟨by rw [day, day, sameDate], clock sameDay⟩⟩⟩
  · have earlier : seconds s / 86400 + epochDay < seconds t / 86400 + epochDay := by
      simp only [seconds, nanosPerSecond] at sameDay ⊢
      omega
    rcases civil_lt earlier with year | ⟨year, month | ⟨month, day⟩⟩
    · exact Or.inl year
    · exact Or.inr ⟨year, Or.inl month⟩
    · exact Or.inr ⟨year, Or.inr ⟨month, Or.inl day⟩⟩

/-- The fields down to the second determine the second. -/
theorem seconds_eq_of_fields {s t : Int} (years : year s = year t) (months : month s = month t)
    (days : day s = day t) (hours : hour s = hour t) (minutes : minute s = minute t)
    (secs : second s = second t) : seconds s = seconds t := by
  have sameDate : date s = date t := by
    show Civil.mk (year s) (month s) (day s) = Civil.mk (year t) (month t) (day t)
    rw [years, months, days]
  have sameDay := congrArg dayNumber sameDate
  rw [date, date, dayNumber_civil, dayNumber_civil] at sameDay
  simp only [hour, minute, second, secondOfDay] at hours minutes secs
  omega

end Instant

/-! ## Formatting -/

/-- The UTC offset every timestamp ends with. -/
def utcOffset : Text := ['+', '0', '0', ':', '0', '0']

/-- Four digits inside 0000–9999, an explicit sign outside. -/
def yearText (y : Int) : Text :=
  if 0 ≤ y ∧ y ≤ 9999 then decimal 4 y.toNat
  else (if y < 0 then '-' else '+') ::
    (if y.natAbs < 10000 then decimal 4 y.natAbs else Nat.toDigits 10 y.natAbs)

/-- No fraction, or as many groups of three digits as the nanoseconds need. -/
def fraction (nanos : Nat) : Text :=
  if nanos = 0 then []
  else if nanos % 1000000 = 0 then '.' :: decimal 3 (nanos / 1000000)
  else if nanos % 1000 = 0 then '.' :: decimal 6 (nanos / 1000)
  else '.' :: decimal 9 nanos

/-- Everything after the year, separators included. -/
def afterYear (t : Int) : Text :=
  '-' :: (decimal 2 (Instant.month t) ++ '-' :: (decimal 2 (Instant.day t) ++ 'T' ::
    (decimal 2 (Instant.hour t) ++ ':' :: (decimal 2 (Instant.minute t) ++ ':' ::
      (decimal 2 (Instant.second t) ++ (fraction (Instant.nanos t) ++ utcOffset))))))

/-- chrono's `to_rfc3339` of a UTC instant. -/
def toRfc3339 (t : Int) : Text := yearText (Instant.year t) ++ afterYear t

/-- The first instant that is written with a sign. -/
def year10000 : Int := 253402300800 * nanosPerSecond

example : toRfc3339 year10000 = "+10000-01-01T00:00:00+00:00".toList := by decide

theorem toRfc3339_fourDigit {t : Int} (four : Instant.FourDigitYear t) :
    toRfc3339 t = decimal 4 (Instant.year t).toNat ++ afterYear t := by
  rw [toRfc3339, yearText, if_pos (show 0 ≤ Instant.year t ∧ Instant.year t ≤ 9999 from four)]

example : toRfc3339 0 = "1970-01-01T00:00:00+00:00".toList := by decide
example : toRfc3339 1500000 = "1970-01-01T00:00:00.001500+00:00".toList := by decide

/-! ## Text order -/

/-- `count` groups of three digits, cut at the first remainder that is zero. -/
def groups : Nat → Nat → Text
  | 0, _ => utcOffset
  | count + 1, n =>
      if n = 0 then utcOffset else decimal 3 (n / 1000 ^ count) ++ groups count (n % 1000 ^ count)

theorem offset_lt_decimal (width n : Nat) (s t : Text) :
    utcOffset ++ s < decimal (width + 1) n ++ t := by
  rw [Nat.add_comm, decimal_add]
  simp only [decimal, List.nil_append, List.cons_append, utcOffset]
  have digit : '+' < Nat.digitChar (n / 10 ^ width % 10) := by
    rw [Char.lt_def, UInt32.lt_iff_toNat_lt]
    change '+'.toNat < (Nat.digitChar _).toNat
    rw [Nat.toNat_digitChar_of_lt_ten (Nat.mod_lt _ (by decide))]
    simp
    omega
  exact List.cons_lt_cons_iff.mpr (Or.inl digit)

theorem groups_orders (count : Nat) :
    Orders (fun a b : Nat => a < b ∧ b < 1000 ^ count) (groups count) := by
  induction count with
  | zero =>
      rintro a b ⟨below, fits⟩
      simp at fits
      omega
  | succ count ih =>
      rintro a b ⟨below, fits⟩ s t
      have positive : 0 < 1000 ^ count := by positivity
      have leading : b / 1000 ^ count < 10 ^ 3 := by
        rw [Nat.div_lt_iff_lt_mul positive, show (10 : Nat) ^ 3 = 1000 by norm_num, ← pow_succ']
        exact fits
      rw [groups, groups, if_neg (show b ≠ 0 by omega)]
      by_cases exact : a = 0
      · rw [if_pos exact, List.append_assoc]
        exact offset_lt_decimal 2 _ s _
      · rw [if_neg exact, List.append_assoc, List.append_assoc]
        rcases lt_or_eq_of_le (Nat.div_le_div_right below.le : a / 1000 ^ count ≤ b / 1000 ^ count)
          with differ | same
        · exact decimal_orders 3 ⟨differ, leading⟩ _ _
        · rw [same]
          apply List.append_left_lt
          have ha := Nat.div_add_mod a (1000 ^ count)
          have hb := Nat.div_add_mod b (1000 ^ count)
          rw [same] at ha
          exact ih ⟨by omega, Nat.mod_lt _ positive⟩ s t

/-- The fraction and the offset, read as groups behind a dot. -/
theorem fraction_append_offset (n : Nat) :
    fraction n ++ utcOffset = if n = 0 then utcOffset else '.' :: groups 3 n := by
  have six : decimal 6 (n / 1000) = decimal 3 (n / 1000000) ++ decimal 3 (n / 1000) := by
    rw [show (6 : Nat) = 3 + 3 from rfl, decimal_add, Nat.div_div_eq_div_mul,
      show 1000 * 10 ^ 3 = 1000000 by norm_num]
  have nine : decimal 9 n = decimal 3 (n / 1000000) ++ (decimal 3 (n / 1000) ++ decimal 3 n) := by
    rw [show (9 : Nat) = 6 + 3 from rfl, decimal_add, ← List.append_assoc, ← six]
    rfl
  have second : decimal 3 (n % 1000000 / 1000) = decimal 3 (n / 1000) := by
    rw [← decimal_mod 3 (n / 1000)]
    congr 1
    omega
  have third : decimal 3 (n % 1000000 % 1000) = decimal 3 n := by
    rw [← decimal_mod 3 n]
    congr 1
    omega
  by_cases zero : n = 0
  · simp [fraction, zero]
  by_cases milli : n % 1000000 = 0
  · simp [fraction, groups, zero, milli]
  by_cases micro : n % 1000 = 0
  · have rest : n % 1000000 % 1000 = 0 := by omega
    simp [fraction, groups, zero, milli, micro, rest, six, second]
  · have rest : n % 1000000 % 1000 ≠ 0 := by omega
    simp only [fraction, groups, zero, milli, micro, rest, nine, if_false, pow_zero, Nat.div_one,
      second, third, List.append_assoc, List.cons_append, Nat.reducePow]

theorem fraction_orders :
    Orders (fun a b : Nat => a < b ∧ b < 10 ^ 9) fun n => fraction n ++ utcOffset := by
  rintro a b ⟨below, fits⟩ s t
  simp only [fraction_append_offset, if_neg (show b ≠ 0 by omega)]
  by_cases zero : a = 0
  · rw [if_pos zero]
    exact List.cons_lt_cons_iff.mpr (Or.inl (by decide))
  · rw [if_neg zero]
    exact (groups_orders 3).behind ['.'] ⟨below, by simpa using fits⟩ s t

/-- The fields down to the second, between separators, decide before what follows them. -/
theorem fields_orders {q : Int → Int → Prop} {rest : Int → Text} (tail : Orders q rest)
    (dash colon : Text) :
    Orders (fun s t => Instant.FourDigitYear s ∧ Instant.FourDigitYear t ∧ s < t ∧
        (Instant.seconds s = Instant.seconds t → Instant.nanos s < Instant.nanos t → q s t))
      fun t => decimal 4 (Instant.year t).toNat ++ (dash ++ (decimal 2 (Instant.month t) ++
        (dash ++ (decimal 2 (Instant.day t) ++ ('T' :: (decimal 2 (Instant.hour t) ++
          (colon ++ (decimal 2 (Instant.minute t) ++ (colon ++ (decimal 2 (Instant.second t) ++
            rest t)))))))))) := by
  have field : ∀ (width : Nat) (f : Int → Nat),
      Orders (fun a b => f a < f b ∧ f b < 10 ^ width) fun a => decimal width (f a) :=
    fun width f => (decimal_orders width).comap f
  have clock := (field 2 Instant.hour).andThen (((field 2 Instant.minute).andThen
    (((field 2 Instant.second).andThen tail).behind colon)).behind colon)
  have whole := (field 4 fun a => (Instant.year a).toNat).andThen (((field 2 Instant.month).andThen
    (((field 2 Instant.day).andThen (clock.behind ['T'])).behind dash)).behind dash)
  rintro s t ⟨⟨hs0, hs9⟩, ⟨ht0, ht9⟩, below, last⟩
  refine whole ?_
  -- the two texts are compared field by field, as the instants are
  rcases Instant.fields_lt below with h | ⟨ey, h | ⟨em, h | ⟨ed, h | ⟨eh, h | ⟨en, h | ⟨es, h⟩⟩⟩⟩⟩⟩
  · exact Or.inl ⟨by omega, by omega⟩
  · exact Or.inr ⟨by rw [ey], Or.inl ⟨h, Instant.month_lt t⟩⟩
  · exact Or.inr ⟨by rw [ey], Or.inr ⟨by rw [em], Or.inl ⟨h, Instant.day_lt t⟩⟩⟩
  · exact Or.inr ⟨by rw [ey], Or.inr ⟨by rw [em], Or.inr ⟨by rw [ed], Or.inl
      ⟨h, Instant.hour_lt t⟩⟩⟩⟩
  · exact Or.inr ⟨by rw [ey], Or.inr ⟨by rw [em], Or.inr ⟨by rw [ed], Or.inr ⟨by rw [eh],
      Or.inl ⟨h, Instant.minute_lt t⟩⟩⟩⟩⟩
  · exact Or.inr ⟨by rw [ey], Or.inr ⟨by rw [em], Or.inr ⟨by rw [ed], Or.inr ⟨by rw [eh],
      Or.inr ⟨by rw [en], Or.inl ⟨h, Instant.second_lt t⟩⟩⟩⟩⟩⟩
  · have same := Instant.seconds_eq_of_fields ey em ed eh en es
    exact Or.inr ⟨by rw [ey], Or.inr ⟨by rw [em], Or.inr ⟨by rw [ed], Or.inr ⟨by rw [eh],
      Or.inr ⟨by rw [en], Or.inr ⟨by rw [es], last same h⟩⟩⟩⟩⟩⟩

theorem toRfc3339_lt {s t : Int} (hs : Instant.FourDigitYear s) (ht : Instant.FourDigitYear t)
    (below : s < t) : toRfc3339 s < toRfc3339 t := by
  have ordered := fields_orders (fraction_orders.comap Instant.nanos) ['-'] [':']
  rw [toRfc3339_fourDigit hs, toRfc3339_fourDigit ht]
  exact ordered.lt ⟨hs, ht, below, fun _ later => ⟨later, Instant.nanos_lt t⟩⟩

/-- A year outside 0000–9999 is written behind a sign, which sorts before every
four-digit year. -/
theorem signed_lt_fourDigit {s c : Int} (hs : Instant.FourDigitYear s)
    (hc : ¬ Instant.FourDigitYear c) : toRfc3339 c < toRfc3339 s := by
  have leading : ∃ rest, decimal 4 (Instant.year s).toNat =
      Nat.digitChar ((Instant.year s).toNat / 1000 % 10) :: rest := by
    rw [show (4 : Nat) = 1 + 3 from rfl, decimal_add]
    exact ⟨_, rfl⟩
  obtain ⟨rest, leading⟩ := leading
  rw [toRfc3339_fourDigit hs, leading, toRfc3339, yearText,
    if_neg (show ¬ (0 ≤ Instant.year c ∧ Instant.year c ≤ 9999) from hc)]
  refine List.cons_lt_cons_iff.mpr (Or.inl ?_)
  rw [Char.lt_def, UInt32.lt_iff_toNat_lt]
  change Char.toNat _ < (Nat.digitChar _).toNat
  rw [Nat.toNat_digitChar_of_lt_ten (Nat.mod_lt _ (by decide))]
  split <;> simp <;> omega

/-- **Comparing a stored timestamp with a cutoff as text.** Below a cutoff up to
year 9999 the comparison is the one of the instants; no four-digit timestamp is
below a later cutoff. -/
theorem toRfc3339_lt_iff {s : Int} (hs : Instant.FourDigitYear s) (c : Int) :
    toRfc3339 s < toRfc3339 c ↔ s < c ∧ Instant.year c ≤ 9999 := by
  by_cases hc : Instant.FourDigitYear c
  · constructor
    · intro text
      refine ⟨?_, hc.2⟩
      rcases lt_trichotomy s c with below | same | above
      · exact below
      · exact absurd text (same ▸ List.lt_irrefl _)
      · exact absurd (toRfc3339_lt hc hs above) (List.lt_asymm text)
    · rintro ⟨below, -⟩
      exact toRfc3339_lt hs hc below
  · constructor
    · intro text
      exact absurd (signed_lt_fourDigit hs hc) (List.lt_asymm text)
    · rintro ⟨below, late⟩
      -- a cutoff at or after `s` has a year that is not negative either
      have later := Instant.year_mono below.le
      exact absurd ⟨by have := hs.1; omega, late⟩ hc

/-! ## Parsing -/

/-- A parser that undoes the formatting of four-digit years. chrono's
`parse_from_rfc3339` is one; what it does with other texts is left open. -/
structure Rfc3339 where
  parse : Text → Option Int
  parse_toRfc3339 : ∀ t, Instant.FourDigitYear t → parse (toRfc3339 t) = some t

/-- The nanoseconds of the digits that open a text. -/
def readNanos (s : Text) : Nat :=
  decimalValue (s.takeWhile Char.isDigit) * 10 ^ (9 - (s.takeWhile Char.isDigit).length)

/-- The instant whose fields stand at the positions of the four-digit layout. -/
def readFields (s : Text) : Int :=
  ((dayNumber ⟨decimalValue (s.take 4), decimalValue ((s.drop 5).take 2),
    decimalValue ((s.drop 8).take 2)⟩ - epochDay) * 86400 + decimalValue ((s.drop 11).take 2) * 3600 +
      decimalValue ((s.drop 14).take 2) * 60 + decimalValue ((s.drop 17).take 2)) * nanosPerSecond +
        readNanos (s.drop 20)

theorem readNanos_decimal (width n : Nat) :
    readNanos (decimal width n ++ utcOffset) = n % 10 ^ width * 10 ^ (9 - width) := by
  have digits : (decimal width n ++ utcOffset).takeWhile Char.isDigit = decimal width n := by
    rw [List.takeWhile_append_of_pos (isDigit_decimal width n)]
    simp [utcOffset]
  rw [readNanos, digits, decimalValue_decimal, decimal_length]

/-- Behind the dot stand the nanoseconds; without a fraction, the offset's zeros. -/
theorem readNanos_fraction {n : Nat} (fits : n < 10 ^ 9) :
    readNanos ((fraction n ++ utcOffset).drop 1) = n := by
  by_cases zero : n = 0
  · subst zero
    decide
  by_cases milli : n % 1000000 = 0
  · simp only [fraction, zero, milli, if_true, if_false, List.cons_append, List.drop_succ_cons,
      List.drop_zero, readNanos_decimal]
    omega
  by_cases micro : n % 1000 = 0
  · simp only [fraction, zero, milli, micro, if_true, if_false, List.cons_append,
      List.drop_succ_cons, List.drop_zero, readNanos_decimal]
    omega
  · simp only [fraction, zero, milli, micro, if_false, List.cons_append, List.drop_succ_cons,
      List.drop_zero, readNanos_decimal]
    omega

/-- A slice that starts behind a two- or four-digit field and its separator. -/
theorem drop_field (width n k : Nat) (c : Char) (rest : Text) :
    (decimal width n ++ c :: rest).drop (width + 1 + k) = rest.drop k := by
  rw [List.drop_append, decimal_length, List.drop_eq_nil_of_le (by rw [decimal_length]; omega),
    show width + 1 + k - width = k + 1 by omega]
  rfl

theorem value_take_field (width n : Nat) (rest : Text) :
    decimalValue ((decimal width n ++ rest).take width) = n % 10 ^ width := by
  rw [List.take_append_of_le_length (by rw [decimal_length]), List.take_of_length_le
    (by rw [decimal_length]), decimalValue_decimal]

theorem readFields_toRfc3339 {t : Int} (four : Instant.FourDigitYear t) :
    readFields (toRfc3339 t) = t := by
  obtain ⟨-, months, days⟩ := civil_bounds (Instant.seconds t / 86400 + epochDay)
  have daytime := Instant.secondOfDay_lt t
  have date : (⟨((Instant.year t).toNat % 10 ^ 4 : Nat), Instant.month t % 10 ^ 2,
      Instant.day t % 10 ^ 2⟩ : Civil) = Instant.date t := by
    have year : (((Instant.year t).toNat % 10 ^ 4 : Nat) : Int) = Instant.year t := by
      obtain ⟨low, high⟩ := four
      omega
    rw [year, Instant.month, Nat.mod_eq_of_lt (by simp only [Instant.date]; omega), Instant.day,
      Nat.mod_eq_of_lt (by simp only [Instant.date]; omega)]
    rfl
  have hour : Instant.hour t % 10 ^ 2 = Instant.hour t := by
    rw [Instant.hour]
    omega
  have minute : Instant.minute t % 10 ^ 2 = Instant.minute t := by
    rw [Instant.minute]
    omega
  have second : Instant.second t % 10 ^ 2 = Instant.second t := by
    rw [Instant.second]
    omega
  have nanos : (decimal 2 (Instant.second t) ++
      (fraction (Instant.nanos t) ++ utcOffset)).drop 3 =
      (fraction (Instant.nanos t) ++ utcOffset).drop 1 := by
    rw [List.drop_append, decimal_length, List.drop_eq_nil_of_le (by simp)]
    rfl
  have whole := Instant.ofFields t
  rw [toRfc3339_fourDigit four, afterYear, readFields, value_take_field, drop_field 4 _ 0,
    List.drop_zero, value_take_field, drop_field 4 _ 3, drop_field 2 _ 0, List.drop_zero,
    value_take_field, drop_field 4 _ 6, drop_field 2 _ 3, drop_field 2 _ 0, List.drop_zero,
    value_take_field, drop_field 4 _ 9, drop_field 2 _ 6, drop_field 2 _ 3, drop_field 2 _ 0,
    List.drop_zero, value_take_field, drop_field 4 _ 12, drop_field 2 _ 9, drop_field 2 _ 6,
    drop_field 2 _ 3, drop_field 2 _ 0, List.drop_zero, value_take_field, drop_field 4 _ 15,
    drop_field 2 _ 12, drop_field 2 _ 9, drop_field 2 _ 6, drop_field 2 _ 3, nanos,
    readNanos_fraction (Instant.nanos_lt t), date, hour, minute, second]
  exact whole

/-- The parser of exactly what `toRfc3339` writes. -/
def layoutParser : Rfc3339 where
  parse s := if toRfc3339 (readFields s) = s then some (readFields s) else none
  parse_toRfc3339 t four := by simp only [readFields_toRfc3339 four, if_true]

end Tailroute.Common
