import Reckon.Calendar.Moment
import Reckon.Proofs.Calendar.Date

/-!
# `Proofs.Calendar.Months` — moving a moment by months

Months are counted through the years, twelve to a year (`Date.monthNumber`). To move a moment by some months is
to add to this number. It works as long as the number stays within the calendar (`addMonths?_eq_none_iff`), and
what comes of it is the moment of that month with the same time of day and the same day, or the last one if the
month is too short (`addMonths?_eq_some_iff`). Every month has 28 days, so a day up to the 28th is never cut, and
moves of such days add up and can be taken back.

Main statements: `addMonths?_eq_some_iff`, `addMonths?_eq_none_iff`, `addMonths?_add`, `addMonths?_neg`.
-/

namespace Reckon.Calendar

/-- The number of months before that of a day, from the start of a year zero on. -/
def Date.monthNumber (d : Date) : Int :=
  12 * d.year + (d.month - 1)

namespace Date

/-- The months of a year come after those of the year before. -/
theorem year_eq_fdiv (d : Date) : (d.year : Int) = d.monthNumber.fdiv 12 := by
  have hpos := d.inBounds.month_pos
  have hle := d.inBounds.month_le
  rw [Int.fdiv_eq_ediv_of_nonneg _ (by decide), monthNumber]
  omega

theorem month_eq_fmod (d : Date) : (d.month : Int) = d.monthNumber.fmod 12 + 1 := by
  have hpos := d.inBounds.month_pos
  have hle := d.inBounds.month_le
  rw [Int.fmod_eq_emod_of_nonneg _ (by decide), monthNumber]
  omega

end Date

namespace Moment

variable {m later middle : Moment} {i j : Int}

/-- The year and the month that the number of months leads to. -/
theorem addMonths?_eq (m : Moment) (i : Int) :
    m.addMonths? i =
      (Date.of ((m.date.monthNumber + i).fdiv 12) ((m.date.monthNumber + i).fmod 12 + 1)
        (min m.date.day (monthLength ((m.date.monthNumber + i).fdiv 12).toNat
          ((m.date.monthNumber + i).fmod 12 + 1).toNat) : Nat)).toOption.map fun date => { m with date } := by
  have hyear : (m.date.year : Int) + ((m.date.month : Int) - 1 + i).fdiv 12 = (m.date.monthNumber + i).fdiv 12 := by
    rw [Int.fdiv_eq_ediv_of_nonneg _ (by decide), Int.fdiv_eq_ediv_of_nonneg _ (by decide), Date.monthNumber]
    omega
  have hmonth : ((m.date.month : Int) - 1 + i).fmod 12 = (m.date.monthNumber + i).fmod 12 := by
    rw [Int.fmod_eq_emod_of_nonneg _ (by decide), Int.fmod_eq_emod_of_nonneg _ (by decide), Date.monthNumber]
    omega
  unfold addMonths?
  dsimp only
  rw [hyear, hmonth]

/-- **A move adds to the number of months, keeps the time of day, and of the day what the month has.** -/
theorem addMonths?_eq_some_iff : m.addMonths? i = some later ↔
    later.date.monthNumber = m.date.monthNumber + i ∧ later.clock = m.clock ∧
      later.date.day = min m.date.day (monthLength later.date.year later.date.month) := by
  have htoOption : ∀ {result : Except DateError Date} {date : Date},
      result.toOption = some date ↔ result = .ok date := by
    intro result date
    cases result <;> simp [Except.toOption]
  rw [addMonths?_eq, Option.map_eq_some_iff]
  simp only [htoOption, Date.of_eq_ok_iff]
  constructor
  · rintro ⟨date, ⟨hyear, hmonth, hday⟩, rfl⟩
    rw [← hyear, ← hmonth, Int.toNat_natCast, Int.toNat_natCast] at hday
    refine ⟨?_, rfl, Int.ofNat_inj.mp hday⟩
    show date.monthNumber = _
    rw [Int.fdiv_eq_ediv_of_nonneg _ (by decide)] at hyear
    rw [Int.fmod_eq_emod_of_nonneg _ (by decide)] at hmonth
    rw [Date.monthNumber]
    omega
  · rintro ⟨hnumber, hclock, hday⟩
    refine ⟨later.date, ⟨?_, ?_, ?_⟩, ?_⟩
    · rw [← hnumber, later.date.year_eq_fdiv]
    · rw [← hnumber, later.date.month_eq_fmod]
    · rw [← hnumber, ← later.date.year_eq_fdiv, ← later.date.month_eq_fmod, Int.toNat_natCast, Int.toNat_natCast,
        ← hday]
    · rw [← hclock]

/-- The calendar has the months from that of its first day to that of its last. -/
theorem exists_addMonths? (hlow : 12 ≤ m.date.monthNumber + i) (hhigh : m.date.monthNumber + i ≤ 119999) :
    ∃ later, m.addMonths? i = some later := by
  have hday := m.date.inBounds.day_pos
  have hwidth := le_monthLength ((m.date.monthNumber + i).fdiv 12).toNat
    ((m.date.monthNumber + i).fmod 12 + 1).toNat
  have hdate : IsDate ((m.date.monthNumber + i).fdiv 12) ((m.date.monthNumber + i).fmod 12 + 1)
      (min m.date.day (monthLength ((m.date.monthNumber + i).fdiv 12).toNat
        ((m.date.monthNumber + i).fmod 12 + 1).toNat) : Nat) := by
    have hyear : (m.date.monthNumber + i).fdiv 12 = (m.date.monthNumber + i) / 12 :=
      Int.fdiv_eq_ediv_of_nonneg _ (by decide)
    have hmonth : (m.date.monthNumber + i).fmod 12 = (m.date.monthNumber + i) % 12 :=
      Int.fmod_eq_emod_of_nonneg _ (by decide)
    refine ⟨?_, ?_, ?_, ?_, ?_, ?_⟩ <;> omega
  obtain ⟨date, hof⟩ := Date.exists_of_isDate hdate
  rw [addMonths?_eq, hof]
  exact ⟨_, rfl⟩

/-- **A move fails exactly if it leads out of the calendar.** -/
theorem addMonths?_eq_none_iff :
    m.addMonths? i = none ↔ ¬ (12 ≤ m.date.monthNumber + i ∧ m.date.monthNumber + i ≤ 119999) := by
  constructor
  · rintro hnone ⟨hlow, hhigh⟩
    obtain ⟨later, hsome⟩ := exists_addMonths? hlow hhigh
    rw [hnone] at hsome
    cases hsome
  · intro hout
    cases hmoved : m.addMonths? i with
    | none => rfl
    | some later =>
      obtain ⟨hnumber, -, -⟩ := addMonths?_eq_some_iff.mp hmoved
      obtain ⟨hy, hy', hm, hm', -, -⟩ := Date.isDate_natCast.mp later.date.isDate
      rw [← hnumber, Date.monthNumber] at hout
      omega

/-! ## Days that every month has -/

theorem day_addMonths? (hday : m.date.day ≤ 28) (h : m.addMonths? i = some later) :
    later.date.day = m.date.day := by
  obtain ⟨-, -, hmin⟩ := addMonths?_eq_some_iff.mp h
  have hwidth := le_monthLength later.date.year later.date.month
  rw [hmin]
  omega

/-- **Two moves, the first of which stays within the calendar, are one.** -/
theorem addMonths?_add (hday : m.date.day ≤ 28) (h : m.addMonths? i = some middle) :
    middle.addMonths? j = m.addMonths? (i + j) := by
  have hsame := day_addMonths? hday h
  obtain ⟨hnumber, hclock, -⟩ := addMonths?_eq_some_iff.mp h
  apply Option.ext
  intro later
  rw [addMonths?_eq_some_iff, addMonths?_eq_some_iff, hnumber, hclock, hsame, Int.add_assoc]

theorem addMonths?_zero (m : Moment) : m.addMonths? 0 = some m := by
  have hday := m.date.inBounds.day_le
  refine addMonths?_eq_some_iff.mpr ⟨(Int.add_zero _).symm, rfl, ?_⟩
  omega

/-- **A move is taken back by the opposite one.** -/
theorem addMonths?_neg (hday : m.date.day ≤ 28) (h : m.addMonths? i = some later) :
    later.addMonths? (-i) = some m := by
  rw [addMonths?_add hday h, Int.add_right_neg, addMonths?_zero]

end Moment

end Reckon.Calendar
