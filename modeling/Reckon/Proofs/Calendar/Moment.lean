import Mathlib
import Reckon.Calendar.Moment
import Reckon.Proofs.Calendar.Date

/-!
# `Proofs.Calendar.Moment` — moments are counted without gap or repetition

A moment is a number of microseconds, and of milliseconds if it is whole in them. Days and times of day are told
apart again by division with a remainder that is not negative, so this holds before 1970 as well.

Main statements: `Moment.ofMicroseconds?_microseconds`, `Moment.ofMilliseconds?_milliseconds`.
-/

namespace Reckon.Calendar

/-- A time of day in whole milliseconds. -/
def Clock.IsWhole (c : Clock) : Prop :=
  c.microsecond % 1000 = 0

instance (c : Clock) : Decidable c.IsWhole :=
  inferInstanceAs (Decidable (_ = _))

namespace Clock

/-- The number of whole milliseconds of the day before a time. -/
def milliseconds (c : Clock) : Nat :=
  c.microseconds / 1000

theorem milliseconds_lt (c : Clock) : c.milliseconds < 86400000 := by
  have hlt := c.microseconds_lt
  rw [dayLength] at hlt
  rw [milliseconds]
  omega

theorem IsWhole.microseconds_eq {c : Clock} (h : c.IsWhole) : c.microseconds = c.milliseconds * 1000 := by
  unfold IsWhole at h
  rw [milliseconds, microseconds]
  omega

/-- Only midnight has no milliseconds before it. -/
theorem IsWhole.eq_midnight_iff {c : Clock} (h : c.IsWhole) : c = .midnight ↔ c.milliseconds = 0 := by
  constructor
  · rintro rfl
    decide
  · intro hzero
    have hnone : c.microseconds = 0 := by rw [h.microseconds_eq, hzero]
    rw [← ofMicroseconds_microseconds c, hnone]
    rfl

end Clock

namespace Moment

/-- **The moment that has the microseconds of a moment is this moment.** -/
theorem ofMicroseconds?_microseconds (m : Moment) : ofMicroseconds? m.microseconds = some m := by
  have hclock := m.clock.microseconds_lt
  rw [dayLength] at hclock
  have hday : m.microseconds.fdiv dayLength = m.date.dayNumber := by
    rw [microseconds, dayLength, Int.fdiv_eq_ediv_of_nonneg _ (by decide)]
    omega
  have htime : (m.microseconds.fmod dayLength).toNat = m.clock.microseconds := by
    rw [microseconds, dayLength, Int.fmod_eq_emod_of_nonneg _ (by decide)]
    omega
  rw [ofMicroseconds?, hday, htime, Date.ofDayNumber?_dayNumber, Clock.ofMicroseconds_microseconds]
  rfl

theorem milliseconds_eq (m : Moment) : m.milliseconds = m.date.dayNumber * 86400000 + m.clock.milliseconds := by
  rw [milliseconds, microseconds, dayLength, Clock.milliseconds, Int.fdiv_eq_ediv_of_nonneg _ (by decide)]
  omega

/-- **The moment that has the milliseconds of a moment is this moment, if it is whole in them.** -/
theorem ofMilliseconds?_milliseconds {m : Moment} (h : m.clock.IsWhole) :
    ofMilliseconds? m.milliseconds = some m := by
  have hsame : m.milliseconds * 1000 = m.microseconds := by
    rw [milliseconds_eq, microseconds, h.microseconds_eq, dayLength]
    omega
  rw [ofMilliseconds?, hsame, ofMicroseconds?_microseconds]

/-- The calendar spans less than `2 ^ 48` milliseconds either way. -/
theorem natAbs_milliseconds_lt (m : Moment) : m.milliseconds.natAbs < 2 ^ 48 := by
  have hdate := m.date.ordinal_lt_count
  have hclock := m.clock.milliseconds_lt
  rw [Date.count] at hdate
  rw [milliseconds_eq, Date.dayNumber, Date.epochOrdinal]
  omega

/-- A moment in universal time is universal already. -/
theorem universal?_of_offset_zero (m : Moment) : (Stamp.mk m (some 0)).universal? = some m := by
  show ofMicroseconds? (m.microseconds - 0) = some m
  rw [Int.sub_zero, ofMicroseconds?_microseconds]

end Moment

end Reckon.Calendar
