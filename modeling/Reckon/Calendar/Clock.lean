/-!
# `Calendar.Clock` — times of day

A time of day has hours, minutes, seconds and microseconds. No minute has a sixty-first second.
-/

namespace Reckon.Calendar

/-- The number of microseconds of a day. -/
def dayLength : Nat := 86400000000

/-- The clock shows the time. -/
def IsClock (hour minute second microsecond : Int) : Prop :=
  0 ≤ hour ∧ hour < 24 ∧ 0 ≤ minute ∧ minute < 60 ∧ 0 ≤ second ∧ second < 60 ∧
    0 ≤ microsecond ∧ microsecond < 1000000

instance (hour minute second microsecond : Int) :
    Decidable (IsClock hour minute second microsecond) :=
  inferInstanceAs (Decidable (_ ∧ _))

/-- A time of day. -/
structure Clock where
  hour : Nat
  minute : Nat
  second : Nat
  microsecond : Nat
  isClock : IsClock hour minute second microsecond
deriving DecidableEq

/-- Why there is no time of day with given parts. -/
inductive ClockError where
  | hour
  | minute
  | second
  | microsecond
deriving Repr, DecidableEq

/-- Why there is no time of day, in words. -/
def ClockError.message : ClockError → String
  | .hour => "hour must be in 0..23"
  | .minute => "minute must be in 0..59"
  | .second => "second must be in 0..59"
  | .microsecond => "microsecond must be in 0..999999"

namespace Clock

/-- The time of day with given parts. -/
def of (hour minute second microsecond : Int) : Except ClockError Clock :=
  if hh : 0 ≤ hour ∧ hour < 24 then
    if hm : 0 ≤ minute ∧ minute < 60 then
      if hs : 0 ≤ second ∧ second < 60 then
        if hu : 0 ≤ microsecond ∧ microsecond < 1000000 then
          .ok ⟨hour.toNat, minute.toNat, second.toNat, microsecond.toNat, by
            simp only [IsClock]
            omega⟩
        else .error .microsecond
      else .error .second
    else .error .minute
  else .error .hour

/-- The first time of a day. -/
def midnight : Clock :=
  ⟨0, 0, 0, 0, by decide⟩

/-- The number of microseconds of the day before a time. -/
def microseconds (c : Clock) : Nat :=
  ((c.hour * 60 + c.minute) * 60 + c.second) * 1000000 + c.microsecond

/-- The time of day `n` microseconds after a midnight. -/
def ofMicroseconds (n : Nat) : Clock :=
  ⟨n / 3600000000 % 24, n / 60000000 % 60, n / 1000000 % 60, n % 1000000, by
    simp only [IsClock]
    omega⟩

/-- A time is before the end of the day. -/
theorem microseconds_lt (c : Clock) : c.microseconds < dayLength := by
  have h := c.isClock
  simp only [microseconds, dayLength, IsClock] at *
  omega

/-- The parts of a time are those that its microseconds make up. -/
theorem ofMicroseconds_microseconds (c : Clock) : ofMicroseconds c.microseconds = c := by
  obtain ⟨hour, minute, second, microsecond, h⟩ := c
  simp only [IsClock] at h
  simp only [ofMicroseconds, microseconds]
  congr 1 <;> omega

/-- The hour on a face of twelve. -/
def faceHour (c : Clock) : Nat :=
  (c.hour + 11) % 12 + 1

/-- The time is before noon. -/
def isMorning (c : Clock) : Bool :=
  c.hour < 12

end Clock

end Reckon.Calendar
