import Reckon.Calendar.Date

/-!
# `Proofs.Calendar.Date` — days are counted without gap or repetition

Two computations go between days and their numbers, one adds up years and months and the other takes them off.
That they undo each other (`ofDayNumber?_dayNumber`) rests on two facts about where a count falls: between the
days before a year and the days before the next there is only that year (`yearsWithin_eq`), and the months of a
year are passed one after the other (`monthOf_eq`).

The calendar itself is said by what comes next: the next day of the month, after the last one the first of the
next month, and after December the first of the next year (`Date.Next`). These are exactly the days whose numbers
follow each other (`Date.next_iff`).

Main statements: `Date.of_eq_ok_iff`, `Date.ofDayNumber?_dayNumber`, `Date.next_iff`.
-/

namespace Reckon.Calendar

/-! ## Days and their parts -/

namespace Date

variable {year month day : Int}

/-- What the parts of a day keep to. -/
structure InBounds (d : Date) : Prop where
  year_pos : 1 ≤ d.year
  year_le : d.year ≤ 9999
  month_pos : 1 ≤ d.month
  month_le : d.month ≤ 12
  day_pos : 1 ≤ d.day
  day_le : d.day ≤ monthLength d.year d.month

theorem isDate_natCast {y m n : Nat} :
    IsDate y m n ↔ 1 ≤ y ∧ y ≤ 9999 ∧ 1 ≤ m ∧ m ≤ 12 ∧ 1 ≤ n ∧ n ≤ monthLength y m := by
  unfold IsDate
  rw [Int.toNat_natCast, Int.toNat_natCast]
  omega

theorem inBounds (d : Date) : d.InBounds := by
  obtain ⟨hy, hy', hm, hm', hd, hd'⟩ := isDate_natCast.mp d.isDate
  exact ⟨hy, hy', hm, hm', hd, hd'⟩

/-- A day is told by its parts. -/
theorem eq_of_parts {d d' : Date} (hyear : d.year = d'.year) (hmonth : d.month = d'.month)
    (hday : d.day = d'.day) : d = d' := by
  obtain ⟨y, m, n, h⟩ := d
  obtain ⟨y', m', n', h'⟩ := d'
  obtain rfl : y = y' := hyear
  obtain rfl : m = m' := hmonth
  obtain rfl : n = n' := hday
  rfl

/-- A day has the parts that it was asked for with. -/
theorem parts_of_eq_ok {d : Date} (h : Date.of year month day = .ok d) :
    (d.year : Int) = year ∧ (d.month : Int) = month ∧ (d.day : Int) = day := by
  unfold Date.of at h
  split at h
  · split at h
    · split at h
      · cases h
        exact ⟨Int.toNat_of_nonneg (by omega), Int.toNat_of_nonneg (by omega), Int.toNat_of_nonneg (by omega)⟩
      · cases h
    · cases h
  · cases h

theorem exists_of_isDate (h : IsDate year month day) : ∃ d, Date.of year month day = .ok d := by
  obtain ⟨hy, hy', hm, hm', hd, hd'⟩ := h
  unfold Date.of
  rw [dif_pos ⟨hy, hy'⟩, dif_pos ⟨hm, hm'⟩, dif_pos ⟨hd, hd'⟩]
  exact ⟨_, rfl⟩

/-- **There is a day with given parts exactly if the calendar has one, and it has these parts.** -/
theorem of_eq_ok_iff {d : Date} :
    Date.of year month day = .ok d ↔ (d.year : Int) = year ∧ (d.month : Int) = month ∧ (d.day : Int) = day := by
  refine ⟨parts_of_eq_ok, ?_⟩
  rintro ⟨rfl, rfl, rfl⟩
  obtain ⟨d', hof⟩ := exists_of_isDate d.isDate
  obtain ⟨hyear, hmonth, hday⟩ := parts_of_eq_ok hof
  rw [hof, eq_of_parts (Int.ofNat_inj.mp hyear) (Int.ofNat_inj.mp hmonth) (Int.ofNat_inj.mp hday)]

theorem exists_error_of_not_isDate (h : ¬ IsDate year month day) :
    ∃ cause, Date.of year month day = .error cause := by
  cases hof : Date.of year month day with
  | error cause => exact ⟨cause, rfl⟩
  | ok d =>
    obtain ⟨rfl, rfl, rfl⟩ := of_eq_ok_iff.mp hof
    exact absurd d.isDate h

end Date

/-! ## Months within a year -/

/-- Every month has 28 days. -/
theorem le_monthLength (year month : Nat) : 28 ≤ monthLength year month := by
  unfold monthLength
  split
  · split <;> decide
  · split <;> decide

section

variable {year month m n left day : Nat}

theorem daysBeforeMonth_succ (hpos : 1 ≤ month) :
    daysBeforeMonth year (month + 1) = daysBeforeMonth year month + monthLength year month := by
  obtain ⟨k, rfl⟩ : ∃ k, month = k + 1 := ⟨month - 1, by omega⟩
  rfl

theorem daysBeforeMonth_mono (hpos : 1 ≤ month) (hle : month ≤ m) :
    daysBeforeMonth year month ≤ daysBeforeMonth year m := by
  obtain ⟨k, rfl⟩ := Nat.exists_eq_add_of_le hle
  induction k with
  | zero => exact Nat.le_refl _
  | succ k ih =>
    have hstep : daysBeforeMonth year (month + (k + 1)) =
        daysBeforeMonth year (month + k) + monthLength year (month + k) :=
      daysBeforeMonth_succ (show 1 ≤ month + k by omega)
    have hk := ih (Nat.le_add_right month k)
    omega

/-- Passing one month after the other finds the month and the day of it. -/
theorem monthOf_eq (hpos : 1 ≤ month) (hle : month ≤ m) (hm : m ≤ month + left) (hday : 1 ≤ day)
    (hlength : day ≤ monthLength year m)
    (hn : daysBeforeMonth year month + n = daysBeforeMonth year m + (day - 1)) :
    Date.monthOf year left month n = (m, day) := by
  induction left generalizing month n with
  | zero =>
    obtain rfl : m = month := by omega
    have hsame : n + 1 = day := by omega
    rw [Date.monthOf, hsame]
  | succ left ih =>
    have hstep : daysBeforeMonth year (month + 1) = daysBeforeMonth year month + monthLength year month :=
      daysBeforeMonth_succ hpos
    rw [Date.monthOf]
    rcases Nat.eq_or_lt_of_le hle with rfl | hlt
    · have hsame : n + 1 = day := by omega
      rw [if_pos (by omega), hsame]
    · have hpast : daysBeforeMonth year (month + 1) ≤ daysBeforeMonth year m :=
        daysBeforeMonth_mono (by omega) hlt
      rw [if_neg (by omega)]
      exact ih (by omega) hlt (by omega) (by omega)

/-! ## Years -/

/-- Between the days before a year and the days before the next there is only that year. -/
theorem yearsWithin_eq (hlow : daysOfYears year ≤ n) (hhigh : n < daysOfYears (year + 1)) :
    Date.yearsWithin n = year := by
  obtain ⟨hlow', hhigh'⟩ := Date.yearsWithin_bounds n
  rcases Nat.lt_trichotomy (Date.yearsWithin n) year with hlt | heq | hgt
  · have hmono : daysOfYears (Date.yearsWithin n + 1) ≤ daysOfYears year := daysOfYears_mono hlt
    omega
  · exact heq
  · have hmono : daysOfYears (year + 1) ≤ daysOfYears (Date.yearsWithin n) := daysOfYears_mono hgt
    omega

theorem daysBeforeYear_succ (hpos : 1 ≤ year) :
    daysBeforeYear (year + 1) = daysBeforeYear year + yearLength year := by
  obtain ⟨k, rfl⟩ : ∃ k, year = k + 1 := ⟨year - 1, by omega⟩
  exact daysOfYears_succ k

end

/-! ## Numbers of days -/

namespace Date

/-- A day lies within its year. -/
theorem daysBefore_lt (d : Date) : d.daysBefore < yearLength d.year := by
  have hbounds := d.inBounds
  have hstep : daysBeforeMonth d.year (d.month + 1) =
      daysBeforeMonth d.year d.month + monthLength d.year d.month := daysBeforeMonth_succ hbounds.month_pos
  have hall : daysBeforeMonth d.year (d.month + 1) ≤ daysBeforeMonth d.year 13 :=
    daysBeforeMonth_mono (by omega) (by have hle := hbounds.month_le; omega)
  have hday := hbounds.day_pos
  have hlength := hbounds.day_le
  rw [daysBeforeMonth_thirteen] at hall
  unfold daysBefore
  omega

theorem ordinal_lt (d : Date) : d.ordinal < daysBeforeYear (d.year + 1) := by
  have hwithin := d.daysBefore_lt
  rw [daysBeforeYear_succ d.inBounds.year_pos, ordinal]
  omega

theorem ordinal_lt_count (d : Date) : d.ordinal < count := by
  have hlast : daysBeforeYear (d.year + 1) ≤ daysOfYears 9999 := daysOfYears_mono d.inBounds.year_le
  have hcount : daysOfYears 9999 = count := by decide
  have hlt := d.ordinal_lt
  omega

theorem yearOf_ordinal (d : Date) : yearOf d.ordinal = d.year := by
  have hpos := d.inBounds.year_pos
  have hyear : d.year - 1 + 1 = d.year := by omega
  have hlow : daysOfYears (d.year - 1) ≤ d.ordinal := Nat.le_add_right _ _
  have hhigh : d.ordinal < daysOfYears (d.year - 1 + 1) := by
    rw [hyear]
    exact d.ordinal_lt
  rw [yearOf, yearsWithin_eq hlow hhigh, hyear]

/-- **Taking years and months off undoes adding them up.** -/
theorem ofOrdinal_ordinal (d : Date) (h : d.ordinal < count) : ofOrdinal d.ordinal h = d := by
  have hbounds := d.inBounds
  have hrest : d.ordinal - daysBeforeYear d.year = d.daysBefore := by
    rw [ordinal]
    omega
  have hmonth : monthOf d.year 11 1 d.daysBefore = (d.month, d.day) :=
    monthOf_eq (Nat.le_refl 1) hbounds.month_pos hbounds.month_le hbounds.day_pos hbounds.day_le (Nat.zero_add _)
  have hparts : monthOf (yearOf d.ordinal) 11 1 (d.ordinal - daysBeforeYear (yearOf d.ordinal)) =
      (d.month, d.day) := by
    rw [yearOf_ordinal, hrest, hmonth]
  exact eq_of_parts (yearOf_ordinal d) (congrArg Prod.fst hparts) (congrArg Prod.snd hparts)

theorem ofDayNumber?_dayNumber (d : Date) : ofDayNumber? d.dayNumber = some d := by
  have hlt := d.ordinal_lt_count
  have hordinal : d.dayNumber + epochOrdinal = (d.ordinal : Int) := by
    rw [dayNumber]
    omega
  have hin : 0 ≤ (d.ordinal : Int) ∧ (d.ordinal : Int) < count := by omega
  unfold ofDayNumber? atOrdinal
  rw [hordinal, dif_pos hin]
  exact congrArg some (ofOrdinal_ordinal d hlt)

theorem dayNumber_injective {d d' : Date} (h : d.dayNumber = d'.dayNumber) : d = d' := by
  have hback := ofDayNumber?_dayNumber d
  rw [h, ofDayNumber?_dayNumber d'] at hback
  exact (Option.some.inj hback).symm

theorem weekday_eq (d : Date) : (d.weekday : Int) = (d.dayNumber + 3) % 7 := by
  rw [weekday, dayNumber, epochOrdinal]
  omega

/-! ## The next day -/

/-- A day comes after another in the calendar. -/
inductive Next (d d' : Date) : Prop where
  | withinMonth (year : d'.year = d.year) (month : d'.month = d.month) (day : d'.day = d.day + 1)
  | withinYear (last : d.day = monthLength d.year d.month) (year : d'.year = d.year)
      (month : d'.month = d.month + 1) (day : d'.day = 1)
  | newYear (last : d.day = monthLength d.year d.month) (lastMonth : d.month = 12)
      (year : d'.year = d.year + 1) (month : d'.month = 1) (day : d'.day = 1)

variable {d d' : Date}

theorem Next.ordinal_eq (h : Next d d') : d'.ordinal = d.ordinal + 1 := by
  have hday := d.inBounds.day_pos
  cases h with
  | withinMonth hyear hmonth hnext =>
    rw [ordinal, ordinal, daysBefore, daysBefore, hyear, hmonth, hnext]
    omega
  | withinYear hlast hyear hmonth hfirst =>
    have hstep : daysBeforeMonth d.year (d.month + 1) =
        daysBeforeMonth d.year d.month + monthLength d.year d.month :=
      daysBeforeMonth_succ d.inBounds.month_pos
    rw [ordinal, ordinal, daysBefore, daysBefore, hyear, hmonth, hfirst]
    omega
  | newYear hlast hlastMonth hyear hmonth hfirst =>
    have hstep : daysBeforeMonth d.year 13 = daysBeforeMonth d.year 12 + monthLength d.year 12 := rfl
    have hfirstDay : daysBeforeMonth (d.year + 1) 1 = 0 := rfl
    rw [daysBeforeMonth_thirteen] at hstep
    rw [hlastMonth] at hlast
    rw [ordinal, ordinal, daysBefore, daysBefore, hyear, hmonth, hfirst, hlastMonth, hfirstDay,
      daysBeforeYear_succ d.inBounds.year_pos]
    omega

/-- The last day of the calendar is that of December of its last year. -/
theorem ordinal_of_end (d : Date) (hday : d.day = monthLength d.year d.month) (hmonth : d.month = 12)
    (hyear : d.year = 9999) : d.ordinal + 1 = count := by
  rw [ordinal, daysBefore, hday, hmonth, hyear]
  decide

/-- Every day but the last has a next one. -/
theorem exists_next (d : Date) (h : d.ordinal + 1 < count) : ∃ d', Next d d' := by
  obtain ⟨hy, hy', hm, hm', hd, hd'⟩ := isDate_natCast.mp d.isDate
  by_cases hlast : d.day = monthLength d.year d.month
  · by_cases hlastMonth : d.month = 12
    · have hnot : d.year ≠ 9999 := by
        intro hend
        have hcount := d.ordinal_of_end hlast hlastMonth hend
        omega
      have hfirst := le_monthLength (d.year + 1) 1
      have hdate : IsDate (d.year + 1 : Nat) (1 : Nat) (1 : Nat) := isDate_natCast.mpr (by omega)
      exact ⟨⟨_, _, _, hdate⟩, .newYear hlast hlastMonth rfl rfl rfl⟩
    · have hfirst := le_monthLength d.year (d.month + 1)
      have hdate : IsDate d.year (d.month + 1 : Nat) (1 : Nat) := isDate_natCast.mpr (by omega)
      exact ⟨⟨_, _, _, hdate⟩, .withinYear hlast rfl rfl rfl⟩
  · have hdate : IsDate d.year d.month (d.day + 1 : Nat) := isDate_natCast.mpr (by omega)
    exact ⟨⟨_, _, _, hdate⟩, .withinMonth rfl rfl rfl⟩

/-- **One day is the next after another exactly if its number is.** -/
theorem next_iff : Next d d' ↔ d'.dayNumber = d.dayNumber + 1 := by
  constructor
  · intro h
    have hordinal := h.ordinal_eq
    rw [dayNumber, dayNumber]
    omega
  · intro h
    have hordinal : d'.ordinal = d.ordinal + 1 := by
      rw [dayNumber, dayNumber] at h
      omega
    have hlt := d'.ordinal_lt_count
    obtain ⟨d'', hnext⟩ := exists_next d (by omega)
    have hsame : d''.dayNumber = d'.dayNumber := by
      have hordinal' := hnext.ordinal_eq
      rw [dayNumber, dayNumber]
      omega
    rwa [← dayNumber_injective hsame]

end Date

end Reckon.Calendar
