/-!
# `Calendar.Date` — days of the Gregorian calendar

The calendar is extended backwards to year 1 and ends with year 9999. A day is counted from 1 January
1970, which is day zero.

  * `Date.of` — the day with a year, a month and a day, if the calendar has it
  * `Date.dayNumber`, `Date.ofDayNumber?` — between days and their numbers
  * `Date.weekday` — the day of the week, Monday being zero
-/

namespace Reckon.Calendar

/-! ## Years and months -/

/-- The year has a 29 February. -/
def isLeap (year : Nat) : Bool :=
  year % 4 == 0 && (year % 100 != 0 || year % 400 == 0)

/-- The number of days of a year. -/
def yearLength (year : Nat) : Nat :=
  if isLeap year then 366 else 365

/-- The number of days of a month. -/
def monthLength (year month : Nat) : Nat :=
  if month = 2 then (if isLeap year then 29 else 28)
  else if month = 4 ∨ month = 6 ∨ month = 9 ∨ month = 11 then 30
  else 31

/-- The number of days of the first `years` years. -/
def daysOfYears (years : Nat) : Nat :=
  365 * years + years / 4 - years / 100 + years / 400

/-- The number of days before a year, from year 1 on. -/
def daysBeforeYear (year : Nat) : Nat :=
  daysOfYears (year - 1)

/-- The number of days of a year before a month. -/
def daysBeforeMonth (year : Nat) : Nat → Nat
  | 0 | 1 => 0
  | month + 2 => daysBeforeMonth year (month + 1) + monthLength year (month + 1)

/-- Every year starts where the one before it ends. -/
theorem daysOfYears_succ (years : Nat) :
    daysOfYears (years + 1) = daysOfYears years + yearLength (years + 1) := by
  have h4 : (years + 1) / 4 = years / 4 + if (years + 1) % 4 = 0 then 1 else 0 := by
    split <;> omega
  have h100 : (years + 1) / 100 = years / 100 + if (years + 1) % 100 = 0 then 1 else 0 := by
    split <;> omega
  have h400 : (years + 1) / 400 = years / 400 + if (years + 1) % 400 = 0 then 1 else 0 := by
    split <;> omega
  have hc : (years + 1) % 100 = 0 → (years + 1) % 4 = 0 := by omega
  have hq : (years + 1) % 400 = 0 → (years + 1) % 100 = 0 := by omega
  have hle : years / 100 ≤ years := Nat.div_le_self ..
  simp only [daysOfYears, yearLength, isLeap, h4, h100, h400]
  clear h4 h100 h400
  have hs : years / 100 ≤ 365 * years + years / 4 := by omega
  by_cases d4 : (years + 1) % 4 = 0 <;> by_cases d100 : (years + 1) % 100 = 0 <;>
    by_cases d400 : (years + 1) % 400 = 0 <;>
    simp only [d4, d100, d400, true_implies, false_implies] at hc hq <;>
    simp [d4, d100, d400] <;> clear d4 d100 d400 hc hq hle <;>
    generalize years / 4 = q4 at * <;> generalize years / 100 = q100 at * <;> omega

/-- More years have more days. -/
theorem daysOfYears_mono {a b : Nat} (h : a ≤ b) : daysOfYears a ≤ daysOfYears b := by
  obtain ⟨k, rfl⟩ := Nat.exists_eq_add_of_le h
  induction k with
  | zero => exact Nat.le_refl _
  | succ k ih =>
    have hstep := daysOfYears_succ (a + k)
    have hk := ih (Nat.le_add_right a k)
    rw [Nat.add_assoc] at hstep
    omega

/-- The months fill the year. -/
theorem daysBeforeMonth_thirteen (year : Nat) : daysBeforeMonth year 13 = yearLength year := by
  simp only [daysBeforeMonth, monthLength, yearLength]
  cases isLeap year <;> rfl

/-! ## Dates -/

/-- The calendar has the day. -/
def IsDate (year month day : Int) : Prop :=
  1 ≤ year ∧ year ≤ 9999 ∧ 1 ≤ month ∧ month ≤ 12 ∧
    1 ≤ day ∧ day ≤ monthLength year.toNat month.toNat

instance (year month day : Int) : Decidable (IsDate year month day) :=
  inferInstanceAs (Decidable (_ ∧ _))

/-- A day of the calendar. -/
structure Date where
  year : Nat
  month : Nat
  day : Nat
  isDate : IsDate year month day
deriving DecidableEq

/-- Why there is no day with given parts, or with a given number. -/
inductive DateError where
  | year (n : Int)
  | month
  | day
deriving Repr, DecidableEq

/-- Why there is no day, in words. -/
def DateError.message : DateError → String
  | .year n => s!"year {n} is out of range"
  | .month => "month must be in 1..12"
  | .day => "day is out of range for month"

namespace Date

/-- The day with given parts. -/
def of (year month day : Int) : Except DateError Date :=
  if hy : 1 ≤ year ∧ year ≤ 9999 then
    if hm : 1 ≤ month ∧ month ≤ 12 then
      if hd : 1 ≤ day ∧ day ≤ monthLength year.toNat month.toNat then
        .ok ⟨year.toNat, month.toNat, day.toNat, by
          have hy' : ((year.toNat : Nat) : Int) = year := by omega
          have hm' : ((month.toNat : Nat) : Int) = month := by omega
          have hd' : ((day.toNat : Nat) : Int) = day := by omega
          rw [hy', hm', hd']
          exact ⟨hy.1, hy.2, hm.1, hm.2, hd.1, hd.2⟩⟩
      else .error .day
    else .error .month
  else .error (.year year)

/-- The first day of 1970. -/
def epoch : Date :=
  ⟨1970, 1, 1, by decide⟩

/-- The number of days of the year before a day. -/
def daysBefore (d : Date) : Nat :=
  daysBeforeMonth d.year d.month + (d.day - 1)

/-- The place of a day in its year, from one on. -/
def dayOfYear (d : Date) : Nat :=
  d.daysBefore + 1

/-- The number of days before a day, from year 1 on. -/
def ordinal (d : Date) : Nat :=
  daysBeforeYear d.year + d.daysBefore

/-- The number of days before 1970. -/
def epochOrdinal : Nat := 719162

/-- The number of days of the calendar. -/
def count : Nat := 3652059

/-- The number of a day, counted from the first of 1970. -/
def dayNumber (d : Date) : Int :=
  d.ordinal - (epochOrdinal : Int)

/-! ### From numbers to days -/

/-- The number of whole years within `n` days from year 1 on. -/
def yearsWithin (n : Nat) : Nat :=
  let guess := 400 * n / 146097
  if n < daysOfYears guess then guess - 1
  else if daysOfYears (guess + 1) ≤ n then guess + 1
  else guess

/-- The year of the day that `n` days are before. -/
def yearOf (n : Nat) : Nat :=
  yearsWithin n + 1

/-- The month, and the day of it, that comes `n` days after the start of `month`, when `left` months
follow it. -/
def monthOf (year : Nat) : (left month n : Nat) → Nat × Nat
  | 0, month, n => (month, n + 1)
  | left + 1, month, n =>
    if n < monthLength year month then (month, n + 1)
    else monthOf year left (month + 1) (n - monthLength year month)

/-- A year is about 365.2425 days long. -/
theorem daysOfYears_bounds (years : Nat) :
    146097 * years ≤ 400 * daysOfYears years + 800 ∧
      400 * daysOfYears years ≤ 146097 * years + 400 := by
  simp only [daysOfYears]
  omega

/-- The whole years end by a day, and one year more does not. -/
theorem yearsWithin_bounds (n : Nat) :
    daysOfYears (yearsWithin n) ≤ n ∧ n < daysOfYears (yearsWithin n + 1) := by
  simp only [yearsWithin]
  have hg := Nat.div_add_mod (400 * n) 146097
  have hr := Nat.mod_lt (400 * n) (show 0 < 146097 by decide)
  generalize 400 * n / 146097 = g at *
  have h0 := daysOfYears_bounds (g - 1)
  have h1 := daysOfYears_bounds g
  have h2 := daysOfYears_bounds (g + 1)
  have h3 := daysOfYears_bounds (g + 1 + 1)
  split
  · have : g ≠ 0 := by
      rintro rfl
      simp_all [daysOfYears]
    rw [Nat.sub_add_cancel (by omega)]
    omega
  · split <;> omega

/-- The month is one of the twelve, and the day one of its days. -/
theorem monthOf_bounds (year left month n : Nat)
    (h : daysBeforeMonth year (month + 1) + n < daysBeforeMonth year (month + left + 2)) :
    month + 1 ≤ (monthOf year left (month + 1) n).1 ∧
      (monthOf year left (month + 1) n).1 ≤ month + left + 1 ∧
      1 ≤ (monthOf year left (month + 1) n).2 ∧
      (monthOf year left (month + 1) n).2 ≤
        monthLength year (monthOf year left (month + 1) n).1 := by
  induction left generalizing month n with
  | zero =>
    simp only [monthOf, daysBeforeMonth, Nat.add_zero] at *
    omega
  | succ left ih =>
    simp only [monthOf]
    split
    · simp only
      omega
    · rename_i hn
      have h' : daysBeforeMonth year (month + 1 + 1) + (n - monthLength year (month + 1)) <
          daysBeforeMonth year (month + 1 + left + 2) := by
        have : daysBeforeMonth year (month + 1 + 1) =
          daysBeforeMonth year (month + 1) + monthLength year (month + 1) := rfl
        rw [show month + 1 + left + 2 = month + (left + 1) + 2 by omega]
        omega
      have := ih (month + 1) (n - monthLength year (month + 1)) h'
      omega

/-- The day that `n` days of the calendar are before. -/
def ofOrdinal (n : Nat) (h : n < count) : Date :=
  let year := yearOf n
  let found := monthOf year 11 1 (n - daysBeforeYear year)
  ⟨year, found.1, found.2, by
    have hb := yearsWithin_bounds n
    have hy : yearsWithin n < 9999 := by
      apply Nat.lt_of_not_le
      intro hle
      have := daysOfYears_mono hle
      have : daysOfYears 9999 = count := by decide
      omega
    have hm := monthOf_bounds (yearOf n) 11 0 (n - daysBeforeYear (yearOf n)) (by
        have h13 := daysBeforeMonth_thirteen (yearOf n)
        have hs := daysOfYears_succ (yearsWithin n)
        simp only [yearOf, daysBeforeYear, Nat.add_sub_cancel, Nat.zero_add] at *
        have h1 : daysBeforeMonth (yearsWithin n + 1) 1 = 0 := rfl
        rw [h1, h13]
        omega)
    simp only [IsDate, Int.toNat_natCast, year, found] at *
    have hyear : yearOf n = yearsWithin n + 1 := rfl
    simp only [Nat.zero_add] at hm
    omega⟩

/-- The day that `n` days are before, from year 1 on. -/
def atOrdinal (n : Int) : Except DateError Date :=
  if h : 0 ≤ n ∧ n < count then .ok (ofOrdinal n.toNat (by omega))
  else .error (.year (if n < 0 then 0 else yearOf n.toNat))

/-- The day with a number. -/
def ofDayNumber? (n : Int) : Option Date :=
  (atOrdinal (n + epochOrdinal)).toOption

/-! ### Weeks -/

/-- The day of the week, Monday being zero. -/
def weekday (d : Date) : Nat :=
  d.ordinal % 7

end Date

end Reckon.Calendar
