import Reckon.Calendar.Layout
import Reckon.Proofs.Calendar.Moment
import Reckon.Proofs.Number.Padded

/-!
# `Proofs.Calendar.Spelling` — days and times of day in digits

The year of a day has four digits at most, and every other part of a day or a time of day has two, but for the
microseconds with six. So each is written in just as many, and its digits spell it. This is all that readers of
dates need to know of how the numbers were written.
-/

namespace Reckon.Calendar

open Number

/-! ## Days -/

theorem monthLength_le (year month : Nat) : monthLength year month ≤ 31 := by
  unfold monthLength
  split
  · split <;> decide
  · split <;> decide

namespace Date

/-- A day is made again from its parts. -/
theorem of_parts (d : Date) : Date.of d.year d.month d.day = .ok d :=
  of_eq_ok_iff.mpr ⟨rfl, rfl, rfl⟩

theorem spells_year (d : Date) : Spells (padded 4 d.year).toList 4 d.year :=
  spells_padded (by decide) (Nat.lt_succ_of_le d.inBounds.year_le)

theorem spells_month (d : Date) : Spells (padded 2 d.month).toList 2 d.month := by
  have hle := d.inBounds.month_le
  exact spells_padded (by decide) (by omega)

theorem spells_day (d : Date) : Spells (padded 2 d.day).toList 2 d.day := by
  have hle := d.inBounds.day_le
  have hlength := monthLength_le d.year d.month
  exact spells_padded (by decide) (by omega)

end Date

/-! ## Times of day -/

/-- A time of day in whole seconds. -/
def Clock.IsSeconds (c : Clock) : Prop :=
  c.microsecond = 0

instance (c : Clock) : Decidable c.IsSeconds :=
  inferInstanceAs (Decidable (_ = _))

namespace Clock

theorem IsSeconds.isWhole {c : Clock} (h : c.IsSeconds) : c.IsWhole := by
  unfold IsSeconds at h
  unfold IsWhole
  omega

/-- What the parts of a time of day keep to. -/
structure InBounds (c : Clock) : Prop where
  hour_lt : c.hour < 24
  minute_lt : c.minute < 60
  second_lt : c.second < 60
  microsecond_lt : c.microsecond < 1000000

theorem inBounds (c : Clock) : c.InBounds := by
  have h := c.isClock
  unfold IsClock at h
  constructor <;> omega

/-- A time of day is made again from its parts. -/
theorem of_parts (c : Clock) : Clock.of c.hour c.minute c.second c.microsecond = .ok c := by
  obtain ⟨hh, hh', hm, hm', hs, hs', hu, hu'⟩ := c.isClock
  unfold Clock.of
  rw [dif_pos ⟨hh, hh'⟩, dif_pos ⟨hm, hm'⟩, dif_pos ⟨hs, hs'⟩, dif_pos ⟨hu, hu'⟩]
  rfl

theorem spells_hour (c : Clock) : Spells (padded 2 c.hour).toList 2 c.hour := by
  have hlt := c.inBounds.hour_lt
  exact spells_padded (by decide) (by omega)

theorem spells_minute (c : Clock) : Spells (padded 2 c.minute).toList 2 c.minute := by
  have hlt := c.inBounds.minute_lt
  exact spells_padded (by decide) (by omega)

theorem spells_second (c : Clock) : Spells (padded 2 c.second).toList 2 c.second := by
  have hlt := c.inBounds.second_lt
  exact spells_padded (by decide) (by omega)

theorem spells_microsecond (c : Clock) : Spells (padded 6 c.microsecond).toList 6 c.microsecond :=
  spells_padded (by decide) c.inBounds.microsecond_lt

theorem toList_text (c : Clock) :
    c.text.toList = (padded 2 c.hour).toList ++
      ':' :: ((padded 2 c.minute).toList ++ ':' :: (padded 2 c.second).toList) := by
  have hcolon : ":".toList = [':'] := rfl
  show (padded 2 c.hour ++ ":" ++ padded 2 c.minute ++ ":" ++ padded 2 c.second).toList = _
  simp only [String.toList_append, List.append_assoc, hcolon, List.cons_append, List.nil_append]

/-- A time in hours, minutes and seconds has digits and colons only. -/
theorem forall_mem_text {P : Char → Prop} (c : Clock) (hcolon : P ':') (hdigit : ∀ d, d.isDigit = true → P d) :
    ∀ d ∈ c.text.toList, P d := by
  intro d hd
  rw [toList_text] at hd
  simp only [List.mem_append, List.mem_cons] at hd
  rcases hd with hd | rfl | hd | rfl | hd
  · exact hdigit d (c.spells_hour.all d hd)
  · exact hcolon
  · exact hdigit d (c.spells_minute.all d hd)
  · exact hcolon
  · exact hdigit d (c.spells_second.all d hd)

end Clock

end Reckon.Calendar
