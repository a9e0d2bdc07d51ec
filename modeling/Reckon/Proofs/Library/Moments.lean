import Reckon.Proofs.Calendar.Moment
import Reckon.Proofs.Library.Dates
import Reckon.Proofs.Number.Fraction

/-!
# `Proofs.Library.Moments` — moments as numbers

A moment of whole milliseconds is written as a fraction of days, and most of these are no numbers: the quotient is
rounded, and on the way back so is the product. But the milliseconds of the calendar have forty-eight bits, and both
errors together stay below half a millisecond (`roundHalfEven?_days`). So every moment is read back from its number
(`momentOf_momentValue`).

The number of a moment that is no midnight lies strictly between two whole numbers, and so does what it is rounded
to (`days_between`). Its whole part cuts towards zero. From 1970 on that is back to midnight of the day; before
1970 it is on to the next midnight, and the fraction that is left is negative (`moment_split`).
-/

namespace Reckon.Library

open Reckon.Calendar Reckon.Number Float.Model UnpackedFloat

/-! ## Days with a fraction -/

section

variable {n mantissa t : Nat} {z : Int}

/-- A whole number of milliseconds in days is the nearest number to the quotient. -/
theorem exists_days (hz : z.natAbs = n) (hpos : 0 < n) (hlt : n < 2 ^ 48) :
    ∃ mantissa t : Nat, ∃ h : Nearest mantissa (-(t : Int)) ((n : ℚ) / 86400000), t ≤ 1000 ∧
      parts (Float.ofInt z / millisecondsPerDay) = .finite (signOf z) mantissa (-t) h.normal.pos := by
  have hfits : n < 2 ^ 53 := by omega
  have hlift : lift n ≤ 52 := Nat.sub_le _ _
  have hvalue : ((n * 2 ^ lift n : Nat) : ℚ) * 2 ^ (-(lift n : Int)) / (86400000 : Nat) = n / 86400000 := by
    rw [mul_zpow_neg_natCast]
    push_cast
    field_simp
  obtain ⟨m, e, hm, hparts⟩ := exists_nearest_quotient (j := 86400000) (normal_lift hpos hfits)
    (parts_ofInt hz hpos hfits) (by omega) (by omega) (by decide) (by decide)
  have hnearest : Nearest m e ((n : ℚ) / 86400000) := hvalue ▸ hm
  have hlow : (2 : ℚ) ^ (-27 : Int) ≤ n / 86400000 := by
    have hone : (1 : ℚ) ≤ n := by exact_mod_cast hpos
    norm_num
    linarith
  have hhigh : (n : ℚ) / 86400000 ≤ 2 ^ (48 : Int) := by
    have hbits : (n : ℚ) ≤ 2 ^ 48 := by exact_mod_cast hlt.le
    have hpower : (2 : ℚ) ^ (48 : Int) = 2 ^ 48 := rfl
    rw [hpower]
    linarith
  obtain ⟨hleast, hgreatest⟩ := hnearest.exponent_bounds hlow hhigh
  obtain ⟨t, ht⟩ := Int.eq_ofNat_of_zero_le (show 0 ≤ -e by omega)
  obtain rfl : e = -(t : Int) := by omega
  exact ⟨m, t, hnearest, by omega, by rw [millisecondsPerDay_eq, hparts]⟩

/-- Taken back to milliseconds, the nearest number is off by little. -/
theorem abs_days_sub_lt (h : Nearest mantissa (-(t : Int)) ((n : ℚ) / 86400000)) (hlt : n < 2 ^ 48) :
    |(mantissa : ℚ) * 2 ^ (-(t : Int)) * 86400000 - n| < 1 / 16 := by
  have herror := h.error_le
  have hbits : (n : ℚ) < 2 ^ 48 := by exact_mod_cast hlt
  generalize (mantissa : ℚ) * 2 ^ (-(t : Int)) = days at *
  obtain ⟨hdown, hup⟩ := abs_le.mp ((le_div_iff₀ (by positivity)).mpr herror)
  rw [abs_lt]
  constructor <;> linarith

/-- **Milliseconds are read back from days, whichever way the days were rounded.** -/
theorem roundHalfEven?_days (hlt : z.natAbs < 2 ^ 48) :
    roundHalfEven? (Float.ofInt z / millisecondsPerDay * millisecondsPerDay) = some z := by
  rcases Nat.eq_zero_or_pos z.natAbs with hzero | hpos
  · obtain rfl : z = 0 := Int.natAbs_eq_zero.mp hzero
    decide +kernel
  · obtain ⟨mantissa, t, hm, ht, hparts⟩ := exists_days rfl hpos hlt
    have hclose := abs_days_sub_lt hm hlt
    have hbits : ((z.natAbs : Nat) : ℚ) < 2 ^ 48 := by exact_mod_cast hlt
    have hexponents : -1000 ≤ -(t : Int) ∧ -(t : Int) ≤ 900 := by omega
    obtain ⟨m, e, hproduct, hparts'⟩ := exists_nearest_product (j := 86400000) hm.normal hparts hexponents.1
      hexponents.2 (by decide) (by decide)
    have herror := (le_div_iff₀ (by positivity)).mpr hproduct.error_le
    have hnearest : |(m : ℚ) * 2 ^ e - z.natAbs| < 1 / 2 := by
      push_cast at herror hclose ⊢
      generalize (m : ℚ) * 2 ^ e = product at *
      generalize (mantissa : ℚ) * 2 ^ (-(t : Int)) = days at *
      rw [abs_lt] at hclose ⊢
      rw [abs_le] at herror
      constructor <;> linarith
    have hsign : (signOf z == .negative) = decide (z < 0) := by
      unfold signOf
      by_cases hneg : z < 0 <;> simp [hneg]
    unfold roundHalfEven?
    rw [← millisecondsPerDay_eq] at hparts'
    rw [ofFloat_eq_decoded, hparts', decoded]
    dsimp only
    rw [nearestEven_eq hnearest, hsign, signed_natAbs]

/-- **The moment is read back from its number.** -/
theorem momentOf_momentValue {m : Moment} (h : m.clock.IsWhole) : momentOf (momentValue m) = .ok m := by
  unfold momentValue daysValue momentOf numberOf
  dsimp only [bind, Except.bind]
  rw [roundHalfEven?_days m.natAbs_milliseconds_lt, Option.bind_some, Moment.ofMilliseconds?_milliseconds h]
  rfl

/-! ## Whole days and what is left -/

/-- A number of days that is not whole is rounded to one between the same two whole numbers. -/
theorem days_between (h : Nearest mantissa (-(t : Int)) ((n : ℚ) / 86400000)) (hlt : n < 2 ^ 48)
    (hrest : n % 86400000 ≠ 0) : mantissa / 2 ^ t = n / 86400000 ∧ 0 < mantissa % 2 ^ t := by
  have hclose := abs_lt.mp (abs_days_sub_lt h hlt)
  rw [mul_zpow_neg_natCast] at hclose
  have hunit : (0 : ℚ) < (2 ^ t : Nat) := by exact_mod_cast Nat.two_pow_pos t
  have hwhole : (n : ℚ) = 86400000 * (n / 86400000 : Nat) + (n % 86400000 : Nat) := by
    exact_mod_cast (Nat.div_add_mod n 86400000).symm
  have hpast : (1 : ℚ) ≤ (n % 86400000 : Nat) := by exact_mod_cast Nat.pos_of_ne_zero hrest
  have hshort : ((n % 86400000 : Nat) : ℚ) + 1 ≤ 86400000 := by exact_mod_cast Nat.mod_lt n (by decide)
  generalize n / 86400000 = days at *
  have hlow : (days : ℚ) < mantissa / (2 ^ t : Nat) := by linarith
  have hhigh : (mantissa : ℚ) / (2 ^ t : Nat) < days + 1 := by linarith
  have hlow' : days * 2 ^ t < mantissa := by exact_mod_cast (lt_div_iff₀ hunit).mp hlow
  have hhigh' : mantissa < (days + 1) * 2 ^ t := by exact_mod_cast (div_lt_iff₀ hunit).mp hhigh
  have hquotient : mantissa / 2 ^ t = days := Nat.div_eq_of_lt_le hlow'.le hhigh'
  have hsum := Nat.div_add_mod mantissa (2 ^ t)
  rw [hquotient, Nat.mul_comm] at hsum
  exact ⟨hquotient, by omega⟩

/-- From 1970 on the whole days are those before the moment. -/
theorem split_of_pos (hpos : 0 < z) (hlt : z.natAbs < 2 ^ 48) (hrest : z.natAbs % 86400000 ≠ 0) :
    truncate (Float.ofInt z / millisecondsPerDay) = Float.ofInt (z / 86400000) ∧
      0.0 ≤ Float.ofInt z / millisecondsPerDay - truncate (Float.ofInt z / millisecondsPerDay) ∧
      Float.ofInt z / millisecondsPerDay - truncate (Float.ofInt z / millisecondsPerDay) < 1.0 := by
  obtain ⟨mantissa, t, hm, ht, hparts⟩ := exists_days rfl (by omega) hlt
  obtain ⟨hquotient, -⟩ := days_between hm hlt hrest
  have hsign : signOf z = .positive := if_neg (by omega)
  have hwhole : ((z.natAbs / 86400000 : Nat) : Int) = z / 86400000 := by omega
  rw [hsign] at hparts
  refine ⟨?_, fraction_of_positive hm.normal hparts ht⟩
  rw [truncate_of_parts hm.normal hparts, hquotient, Sign.apply, hwhole]

/-- Before 1970 the whole days are those up to the next midnight. -/
theorem split_of_neg (hneg : z < 0) (hlt : z.natAbs < 2 ^ 48) (hrest : z.natAbs % 86400000 ≠ 0) :
    truncate (Float.ofInt z / millisecondsPerDay) = Float.ofInt (z / 86400000 + 1) ∧
      -1.0 < Float.ofInt z / millisecondsPerDay - truncate (Float.ofInt z / millisecondsPerDay) ∧
      Float.ofInt z / millisecondsPerDay - truncate (Float.ofInt z / millisecondsPerDay) < 0.0 := by
  obtain ⟨mantissa, t, hm, ht, hparts⟩ := exists_days rfl (by omega) hlt
  obtain ⟨hquotient, hleft⟩ := days_between hm hlt hrest
  have hsign : signOf z = .negative := if_pos hneg
  have hwhole : -((z.natAbs / 86400000 : Nat) : Int) = z / 86400000 + 1 := by omega
  rw [hsign] at hparts
  refine ⟨?_, fraction_of_negative hm.normal hparts ht hleft⟩
  rw [truncate_of_parts hm.normal hparts, hquotient, Sign.apply, hwhole]

/-- Nothing is left of a whole number. -/
theorem split_of_whole (hlt : z.natAbs < 2 ^ 53) :
    truncate (Float.ofInt z) = Float.ofInt z ∧
      0.0 ≤ Float.ofInt z - truncate (Float.ofInt z) ∧ Float.ofInt z - truncate (Float.ofInt z) < 1.0 := by
  have htruncate : truncate (Float.ofInt z) = Float.ofInt z := by
    rw [truncate, wholePart?_ofInt hlt]
  have hnothing : parts (Float.ofInt z - truncate (Float.ofInt z)) = .zero .positive := by
    rcases Nat.eq_zero_or_pos z.natAbs with hzero | hpos
    · obtain rfl : z = 0 := Int.natAbs_eq_zero.mp hzero
      rw [htruncate]
      rfl
    · have hlift : lift z.natAbs ≤ 1000 := Nat.le_trans (Nat.sub_le _ _) (by decide)
      exact parts_sub_truncate_of_whole (normal_lift hpos hlt) (parts_ofInt rfl hpos hlt) hlift
        (Nat.mul_mod_left _ _)
  rw [le_iff, lt_iff, hnothing, parts_point_zero, parts_point_one]
  exact ⟨htruncate, rfl, rfl⟩

end

/-! ## Splitting moments -/

section

variable {m : Moment} {v d : Value}

theorem part_of_momentOf (f : Moment → Nat) (h : momentOf v = .ok m) : part f [v] = .ok (wholeValue (f m)) := by
  show (momentOf v >>= fun m => Except.ok (wholeValue (f m))) = _
  rw [h]
  rfl

theorem datePart_number (x : Float) : datePart (.number x) = .ok (.number (truncate x)) := rfl

theorem timePart_number (x : Float) : timePart (.number x) = .ok (.number (x - truncate x)) := rfl

/-- The number `v` of the moment `m` is split into midnight `d` of the same day and a part `t` of the day. -/
structure Splits (m : Moment) (v d : Value) (t : Float) : Prop where
  read : momentOf v = .ok m
  date_eq : datePart v = .ok d
  midnight : momentOf d = .ok (.startOf m.date)
  year_eq : part (·.date.year) [d] = part (·.date.year) [v]
  month_eq : part (·.date.month) [d] = part (·.date.month) [v]
  day_eq : part (·.date.day) [d] = part (·.date.day) [v]
  hour_eq : part (·.clock.hour) [d] = .ok (wholeValue 0)
  minute_eq : part (·.clock.minute) [d] = .ok (wholeValue 0)
  second_eq : part (·.clock.second) [d] = .ok (wholeValue 0)
  millisecond_eq : part (·.clock.microsecond / 1000) [d] = .ok (wholeValue 0)
  time_eq : timePart v = .ok (.number t)
  time_nonneg : 0.0 ≤ t
  time_lt_one : t < 1.0

/-- It is split so if the whole part is the number of the day. -/
theorem splits_of_truncate {x : Float} (hread : momentOf (.number x) = .ok m)
    (hwhole : truncate x = Float.ofInt m.date.dayNumber) (hnonneg : 0.0 ≤ x - truncate x)
    (hlt : x - truncate x < 1.0) :
    Splits m (.number x) (.number (Float.ofInt m.date.dayNumber)) (x - truncate x) := by
  have hmidnight := momentOf_dayNumber m.date
  have hmillisecond : (Moment.startOf m.date).clock.microsecond / 1000 = 0 := Nat.zero_div 1000
  exact {
    read := hread
    date_eq := by rw [datePart_number, hwhole]
    midnight := hmidnight
    year_eq := by rw [part_of_momentOf _ hmidnight, part_of_momentOf _ hread]; rfl
    month_eq := by rw [part_of_momentOf _ hmidnight, part_of_momentOf _ hread]; rfl
    day_eq := by rw [part_of_momentOf _ hmidnight, part_of_momentOf _ hread]; rfl
    hour_eq := part_of_momentOf _ hmidnight
    minute_eq := part_of_momentOf _ hmidnight
    second_eq := part_of_momentOf _ hmidnight
    millisecond_eq := by rw [part_of_momentOf _ hmidnight, hmillisecond]
    time_eq := timePart_number x
    time_nonneg := hnonneg
    time_lt_one := hlt }

/-- **Main theorem.** From 1970 on, and at every midnight, the number of a moment of whole milliseconds is split
into its day and a time of day that is at least zero and less than one. Before 1970, at any other time, the day
after is given for the day, and the time is negative. -/
theorem moment_split (m : Moment) (hwhole : m.clock.IsWhole) :
    (0 ≤ m.date.dayNumber ∨ m.clock = .midnight → ∃ d t, Splits m (momentValue m) d t) ∧
    (m.date.dayNumber < 0 → m.clock ≠ .midnight → ∃ next t, m.date.Next next ∧
      datePart (momentValue m) = .ok (momentValue (.startOf next)) ∧
      timePart (momentValue m) = .ok (.number t) ∧ -1.0 < t ∧ t < 0.0) := by
  have hread := momentOf_momentValue hwhole
  have hbits := m.natAbs_milliseconds_lt
  have hmilliseconds := m.milliseconds_eq
  have hclock := m.clock.milliseconds_lt
  have hmidnight := hwhole.eq_midnight_iff
  constructor
  · intro hcase
    by_cases hstart : m.clock = .midnight
    · have hstartOf : m = .startOf m.date := by
        obtain ⟨date, clock⟩ := m
        obtain rfl : clock = .midnight := hstart
        rfl
      have hvalue : momentValue m = .number (Float.ofInt m.date.dayNumber) := by
        conv_lhs => rw [hstartOf]
        exact momentValue_startOf m.date
      have hfits := natAbs_dayNumber_lt m.date
      obtain ⟨htruncate, hnonneg, hlt⟩ := split_of_whole (z := m.date.dayNumber) (by omega)
      rw [hvalue] at hread ⊢
      exact ⟨_, _, splits_of_truncate hread htruncate hnonneg hlt⟩
    · have hday := hcase.resolve_right hstart
      have hpast : m.clock.milliseconds ≠ 0 := mt hmidnight.mpr hstart
      obtain ⟨htruncate, hnonneg, hlt⟩ := split_of_pos (z := m.milliseconds) (by omega) hbits (by omega)
      have hquotient : m.milliseconds / 86400000 = m.date.dayNumber := by omega
      rw [hquotient] at htruncate
      exact ⟨_, _, splits_of_truncate hread htruncate hnonneg hlt⟩
  · intro hday hstart
    have hpast : m.clock.milliseconds ≠ 0 := mt hmidnight.mpr hstart
    have hordinal : m.date.dayNumber = m.date.ordinal - (719162 : Nat) := rfl
    obtain ⟨next, hnext⟩ := m.date.exists_next (by rw [Date.count]; omega)
    obtain ⟨htruncate, hneg, hlt⟩ := split_of_neg (z := m.milliseconds) (by omega) hbits (by omega)
    have hquotient : m.milliseconds / 86400000 + 1 = next.dayNumber := by
      rw [Date.next_iff.mp hnext]
      omega
    refine ⟨next, _, hnext, ?_, timePart_number _, hneg, hlt⟩
    rw [momentValue_startOf, ← hquotient, ← htruncate]
    rfl

/-- Noon of the first day of 1970 is split so. Noon of the day before is half a day before the next midnight. -/
theorem moment_split_noon :
    (∃ d t, Splits ⟨.epoch, ⟨12, 0, 0, 0, by decide⟩⟩ (momentValue ⟨.epoch, ⟨12, 0, 0, 0, by decide⟩⟩) d t) ∧
    ∃ next t, Date.Next ⟨1969, 12, 31, by decide⟩ next ∧
      datePart (momentValue ⟨⟨1969, 12, 31, by decide⟩, ⟨12, 0, 0, 0, by decide⟩⟩) = .ok (momentValue (.startOf next)) ∧
      timePart (momentValue ⟨⟨1969, 12, 31, by decide⟩, ⟨12, 0, 0, 0, by decide⟩⟩) = .ok (.number t) ∧
      -1.0 < t ∧ t < 0.0 :=
  ⟨(moment_split ⟨.epoch, ⟨12, 0, 0, 0, by decide⟩⟩ (by decide)).1 (.inl (by decide)),
    (moment_split ⟨⟨1969, 12, 31, by decide⟩, ⟨12, 0, 0, 0, by decide⟩⟩ (by decide)).2 (by decide) (by decide)⟩

/-- Noon of the last day before 1970 is not split into its day and a time of day: the time is negative. -/
theorem noon_unsplit :
    ¬ ∃ d t, Splits ⟨⟨1969, 12, 31, by decide⟩, ⟨12, 0, 0, 0, by decide⟩⟩
      (momentValue ⟨⟨1969, 12, 31, by decide⟩, ⟨12, 0, 0, 0, by decide⟩⟩) d t := by
  rintro ⟨d, t, h⟩
  have htime := h.time_eq
  have hnonneg := h.time_nonneg
  cases htime
  revert hnonneg
  decide +kernel

end

end Reckon.Library
