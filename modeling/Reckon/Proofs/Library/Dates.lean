import Reckon.Library.Time
import Reckon.Proofs.Calendar.Months
import Reckon.Proofs.Except
import Reckon.Proofs.Number.Product

/-!
# `Proofs.Library.Dates` — days as numbers

A day is written as the number of days since the start of 1970. On the way there its milliseconds are divided by
those of a day, and on the way back the number is multiplied by them and rounded; for whole days both are exact
(`momentValue_startOf`, `momentOf_dayNumber`). So all that the functions say of the number of a day is what the
calendar says of the day.

Months are moved at the level of moments (`Proofs.Calendar.Months`); the function that moves them fails exactly
where the move leads out of the calendar.

Main statements: `dates_encoded`, `months_moved`.
-/

namespace Reckon.Library

open Reckon.Calendar Reckon.Number

/-! ## Whole days -/

theorem millisecondsPerDay_eq : millisecondsPerDay = Float.ofNat 86400000 := by
  apply eq_of_toBits
  decide +kernel

/-- The milliseconds of a day of the calendar are within what numbers hold exactly. -/
theorem natAbs_dayNumber_lt (d : Date) : d.dayNumber.natAbs * 86400000 < 2 ^ 53 := by
  have hlt := d.ordinal_lt_count
  rw [Date.count] at hlt
  rw [Date.dayNumber, Date.epochOrdinal]
  omega

theorem milliseconds_startOf (d : Date) : (Moment.startOf d).milliseconds = d.dayNumber * (86400000 : Nat) := by
  have hmidnight : (Moment.startOf d).clock.microseconds = 0 := by
    show Clock.midnight.microseconds = 0
    decide
  have hdate : (Moment.startOf d).date = d := rfl
  rw [Moment.milliseconds, Moment.microseconds, hmidnight, hdate, dayLength,
    Int.fdiv_eq_ediv_of_nonneg _ (by decide)]
  omega

/-- **The number of a day is whole.** -/
theorem momentValue_startOf (d : Date) : momentValue (.startOf d) = .number (Float.ofInt d.dayNumber) := by
  have hquotient : Float.ofInt (d.dayNumber * (86400000 : Nat)) / Float.ofNat 86400000 = Float.ofInt d.dayNumber :=
    ofInt_div_ofNat (by decide) (by decide) (natAbs_dayNumber_lt d)
  rw [momentValue, daysValue, milliseconds_startOf, millisecondsPerDay_eq, hquotient]

theorem ofMilliseconds?_dayNumber (d : Date) :
    Moment.ofMilliseconds? (d.dayNumber * (86400000 : Nat)) = some (.startOf d) := by
  have hday : (d.dayNumber * (86400000 : Nat) * 1000).fdiv dayLength = d.dayNumber := by
    rw [dayLength, Int.fdiv_eq_ediv_of_nonneg _ (by decide)]
    omega
  have hclock : (d.dayNumber * (86400000 : Nat) * 1000).fmod dayLength = 0 := by
    rw [dayLength, Int.fmod_eq_emod_of_nonneg _ (by decide)]
    omega
  rw [Moment.ofMilliseconds?, Moment.ofMicroseconds?, hday, hclock, Date.ofDayNumber?_dayNumber]
  rfl

/-- **The number of a day is read back as its first moment.** -/
theorem momentOf_dayNumber (d : Date) : momentOf (.number (Float.ofInt d.dayNumber)) = .ok (.startOf d) := by
  have habs : (d.dayNumber * (86400000 : Nat)).natAbs = d.dayNumber.natAbs * 86400000 := natAbs_mul_natCast _ _
  have hproduct : Float.ofInt d.dayNumber * Float.ofNat 86400000 = Float.ofInt (d.dayNumber * (86400000 : Nat)) :=
    ofInt_mul_ofNat (by decide) (by decide) (natAbs_dayNumber_lt d)
  have hrounded : roundHalfEven? (Float.ofInt d.dayNumber * millisecondsPerDay) =
      some (d.dayNumber * (86400000 : Nat)) := by
    rw [millisecondsPerDay_eq, hproduct]
    exact roundHalfEven?_ofInt (habs ▸ natAbs_dayNumber_lt d)
  unfold momentOf numberOf
  dsimp only [bind, Except.bind]
  rw [hrounded, Option.bind_some, ofMilliseconds?_dayNumber]
  rfl

/-! ## Encoding -/

variable {x y z : Float} {year month day : Int}

theorem wholeOr_of_wholePart? (message : String) (hx : wholePart? x = some year) :
    wholeOr message (.number x) = .ok year := by
  unfold wholeOr numberOf
  dsimp only [bind, Except.bind]
  rw [hx]
  rfl

/-- With whole parts in hand the calendar decides. -/
theorem encodeDate_eq (hx : wholePart? x = some year) (hy : wholePart? y = some month) (hz : wholePart? z = some day) :
    encodeDate (.number x) (.number y) (.number z) =
      match Date.of year month day with
      | .ok d => .ok (momentValue (.startOf d))
      | .error _ => .error (.custom "invalid date parameters") := by
  unfold encodeDate
  dsimp only
  rw [wholeOr_of_wholePart? _ hx, wholeOr_of_wholePart? _ hy, wholeOr_of_wholePart? _ hz]
  rfl

theorem encodeDate_of_date {d : Date} (hx : wholePart? x = some (d.year : Int))
    (hy : wholePart? y = some (d.month : Int)) (hz : wholePart? z = some (d.day : Int)) :
    encodeDate (.number x) (.number y) (.number z) = .ok (.number (Float.ofInt d.dayNumber)) := by
  have hof : Date.of d.year d.month d.day = .ok d := Date.of_eq_ok_iff.mpr ⟨rfl, rfl, rfl⟩
  rw [encodeDate_eq hx hy hz, hof]
  exact congrArg Except.ok (momentValue_startOf d)

theorem encodeDate_of_not_isDate (hx : wholePart? x = some year) (hy : wholePart? y = some month)
    (hz : wholePart? z = some day) (h : ¬ IsDate year month day) :
    encodeDate (.number x) (.number y) (.number z) = .error (.custom "invalid date parameters") := by
  obtain ⟨cause, hof⟩ := Date.exists_error_of_not_isDate h
  rw [encodeDate_eq hx hy hz, hof]

/-! ## Parts of days -/

theorem part_dayNumber (f : Moment → Nat) (d : Date) :
    part f [.number (Float.ofInt d.dayNumber)] = .ok (wholeValue (f (.startOf d))) := by
  show (momentOf (.number (Float.ofInt d.dayNumber)) >>= fun m => Except.ok (wholeValue (f m))) = _
  rw [momentOf_dayNumber]
  rfl

/-- A year is a leap year if it has a 29 February. -/
theorem isLeap_eq (d : Date) : isLeap d.year = decide (IsDate d.year 2 29) := by
  have hpos := d.inBounds.year_pos
  have hle := d.inBounds.year_le
  have hdate : IsDate d.year (2 : Nat) (29 : Nat) ↔ isLeap d.year = true := by
    have hmonth : monthLength d.year 2 = if isLeap d.year then 29 else 28 := rfl
    rw [Date.isDate_natCast, hmonth]
    cases isLeap d.year with
    | true => simp [hpos, hle]
    | false => simp
  rw [Bool.eq_iff_iff, decide_eq_true_iff]
  exact hdate.symm

/-- What the functions say of the number `n` if it is that of the day `d`. -/
structure SaysDay (d : Date) (n : Int) : Prop where
  whole : wholePart? (Float.ofInt n) = some n
  year_eq : part (·.date.year) [.number (Float.ofInt n)] = .ok (wholeValue d.year)
  month_eq : part (·.date.month) [.number (Float.ofInt n)] = .ok (wholeValue d.month)
  day_eq : part (·.date.day) [.number (Float.ofInt n)] = .ok (wholeValue d.day)
  hour_eq : part (·.clock.hour) [.number (Float.ofInt n)] = .ok (wholeValue 0)
  minute_eq : part (·.clock.minute) [.number (Float.ofInt n)] = .ok (wholeValue 0)
  second_eq : part (·.clock.second) [.number (Float.ofInt n)] = .ok (wholeValue 0)
  millisecond_eq : part (·.clock.microsecond / 1000) [.number (Float.ofInt n)] = .ok (wholeValue 0)
  weekday_eq : part (·.date.weekday) [.number (Float.ofInt n)] = .ok (.number (Float.ofInt ((n + 3) % 7)))
  isLeapYear_eq : isLeapYear (.number (Float.ofInt n)) = .ok (.boolean (decide (IsDate d.year 2 29)))
  /-- Days are counted from the first of 1970. -/
  epoch_eq : d = .epoch → n = 0
  /-- The next day has the next number. -/
  next_eq : ∀ {d' : Date} {x y z : Float}, d.Next d' →
    wholePart? x = some (d'.year : Int) → wholePart? y = some (d'.month : Int) → wholePart? z = some (d'.day : Int) →
      encodeDate (.number x) (.number y) (.number z) = .ok (.number (Float.ofInt (n + 1)))

theorem saysDay_dayNumber (d : Date) : SaysDay d d.dayNumber := by
  have hlt := natAbs_dayNumber_lt d
  have hweekday : wholeValue (Moment.startOf d).date.weekday = .number (Float.ofInt ((d.dayNumber + 3) % 7)) := by
    rw [← d.weekday_eq]
    rfl
  have hleap : isLeapYear (.number (Float.ofInt d.dayNumber)) = .ok (.boolean (isLeap d.year)) := by
    unfold isLeapYear
    rw [momentOf_dayNumber]
    rfl
  have hmillisecond : (Moment.startOf d).clock.microsecond / 1000 = 0 := Nat.zero_div 1000
  exact {
    whole := wholePart?_ofInt (by omega)
    year_eq := part_dayNumber _ d
    month_eq := part_dayNumber _ d
    day_eq := part_dayNumber _ d
    hour_eq := part_dayNumber _ d
    minute_eq := part_dayNumber _ d
    second_eq := part_dayNumber _ d
    millisecond_eq := by rw [part_dayNumber, hmillisecond]
    weekday_eq := (part_dayNumber _ d).trans (congrArg Except.ok hweekday)
    isLeapYear_eq := by rw [hleap, isLeap_eq]
    epoch_eq := by
      rintro rfl
      rfl
    next_eq := by
      intro d' x y z hnext hx hy hz
      rw [← Date.next_iff.mp hnext]
      exact encodeDate_of_date hx hy hz }

/-- **Main theorem.** Whole numbers are encoded exactly if they are a day of the calendar, and the number that comes
of it says the day; otherwise the function reports them as invalid. -/
theorem dates_encoded (hx : wholePart? x = some year) (hy : wholePart? y = some month)
    (hz : wholePart? z = some day) :
    (IsDate year month day → ∃ (d : Date) (n : Int), d.year = year ∧ d.month = month ∧ d.day = day ∧
      encodeDate (.number x) (.number y) (.number z) = .ok (.number (Float.ofInt n)) ∧ SaysDay d n) ∧
    (¬ IsDate year month day →
      encodeDate (.number x) (.number y) (.number z) = .error (.custom "invalid date parameters")) := by
  constructor
  · intro hdate
    obtain ⟨d, hof⟩ := Date.exists_of_isDate hdate
    obtain ⟨rfl, rfl, rfl⟩ := Date.of_eq_ok_iff.mp hof
    exact ⟨d, d.dayNumber, rfl, rfl, rfl, encodeDate_of_date hx hy hz, saysDay_dayNumber d⟩
  · exact encodeDate_of_not_isDate hx hy hz

/-- The year 2000 has a 29 February, the year 1900 has none. -/
theorem dates_encoded_february :
    (∃ (d : Date) (n : Int), d.year = (2000 : Int) ∧ d.month = (2 : Int) ∧ d.day = (29 : Int) ∧
      encodeDate (.number 2000.0) (.number 2.0) (.number 29.0) = .ok (.number (Float.ofInt n)) ∧ SaysDay d n) ∧
    encodeDate (.number 1900.0) (.number 2.0) (.number 29.0) = .error (.custom "invalid date parameters") := by
  have hyear : wholePart? 2000.0 = some 2000 := by decide +kernel
  have hcentury : wholePart? 1900.0 = some 1900 := by decide +kernel
  have hmonth : wholePart? 2.0 = some 2 := by decide +kernel
  have hday : wholePart? 29.0 = some 29 := by decide +kernel
  exact ⟨(dates_encoded hyear hmonth hday).1 (by decide), (dates_encoded hcentury hmonth hday).2 (by decide)⟩

/-! ## Moving by months -/

/-- With the moment and the increment in hand the calendar decides. -/
theorem incMonth_eq {m : Moment} {v : Value} {i : Int} (hv : momentOf v = .ok m) (hx : wholePart? x = some i) :
    incMonth v (some (.number x)) =
      match m.addMonths? i with
      | some later => .ok (momentValue later)
      | none => .error (.custom "inc_month out of range") := by
  have hwhole : wholeOrDefault 1.0 (some (.number x)) = .ok i := by
    show wholeOf x = .ok i
    rw [wholeOf, hx]
  unfold incMonth
  rw [hv, hwhole]
  rfl

/-- What moving the moment `m` by `i` months comes to, with the months counted through the years. -/
structure MonthsMoved (m : Moment) (i : Int) : Prop where
  /-- The function fails exactly if the month is out of the calendar. -/
  fails_iff : ∀ {v : Value} {x : Float}, momentOf v = .ok m → wholePart? x = some i →
    (incMonth v (some (.number x)) = .error (.custom "inc_month out of range") ↔
      ¬ (12 ≤ m.date.monthNumber + i ∧ m.date.monthNumber + i ≤ 119999))
  /-- Otherwise it gives the moment that the move leads to. -/
  moves : 12 ≤ m.date.monthNumber + i → m.date.monthNumber + i ≤ 119999 → ∃ later : Moment,
    m.addMonths? i = some later ∧
    (later.date.year : Int) = (m.date.monthNumber + i).fdiv 12 ∧
    (later.date.month : Int) = (m.date.monthNumber + i).fmod 12 + 1 ∧
    later.clock = m.clock ∧
    later.date.day = min m.date.day (monthLength later.date.year later.date.month) ∧
    ∀ {v : Value} {x : Float}, momentOf v = .ok m → wholePart? x = some i →
      incMonth v (some (.number x)) = .ok (momentValue later)
  /-- The first of two moves may be left out if it stays within the calendar. -/
  add : m.date.day ≤ 28 → ∀ {middle : Moment}, m.addMonths? i = some middle →
    ∀ j, middle.addMonths? j = m.addMonths? (i + j)
  /-- A move is taken back by the opposite one. -/
  neg : m.date.day ≤ 28 → ∀ {later : Moment}, m.addMonths? i = some later → later.addMonths? (-i) = some m

/-- **Main theorem.** Moves by months, for every moment of the calendar and every increment. -/
theorem months_moved (m : Moment) (i : Int) : MonthsMoved m i where
  fails_iff := by
    intro v x hv hx
    rw [incMonth_eq hv hx, ← Moment.addMonths?_eq_none_iff]
    cases m.addMonths? i with
    | none => simp
    | some later => simp
  moves := by
    intro hlow hhigh
    obtain ⟨later, hmoved⟩ := Moment.exists_addMonths? hlow hhigh
    obtain ⟨hnumber, hclock, hday⟩ := Moment.addMonths?_eq_some_iff.mp hmoved
    refine ⟨later, hmoved, ?_, ?_, hclock, hday, ?_⟩
    · rw [← hnumber, later.date.year_eq_fdiv]
    · rw [← hnumber, later.date.month_eq_fmod]
    · intro v x hv hx
      rw [incMonth_eq hv hx, hmoved]
  add := fun hday _ hmiddle _ => Moment.addMonths?_add hday hmiddle
  neg := fun hday _ hlater => Moment.addMonths?_neg hday hlater

/-- A month after the 31st of January 2024 there is the 29th of February. -/
theorem months_moved_january :
    ∃ later : Moment, (later.date.year : Int) = 2024 ∧ (later.date.month : Int) = 2 ∧ later.date.day = 29 ∧
      incMonth (.number 19753.0) (some (.number 1.0)) = .ok (momentValue later) := by
  have hv : momentOf (.number 19753.0) = .ok (.startOf ⟨2024, 1, 31, by decide⟩) := by decide +kernel
  have hx : wholePart? 1.0 = some 1 := by decide +kernel
  obtain ⟨later, -, hyear, hmonth, -, hday, hcall⟩ :=
    (months_moved (.startOf ⟨2024, 1, 31, by decide⟩) 1).moves (by decide) (by decide)
  have hyear' : later.date.year = 2024 := Int.ofNat_inj.mp hyear
  have hmonth' : later.date.month = 2 := Int.ofNat_inj.mp hmonth
  refine ⟨later, hyear, hmonth, ?_, hcall hv hx⟩
  rw [hday, hyear', hmonth']
  rfl

end Reckon.Library
