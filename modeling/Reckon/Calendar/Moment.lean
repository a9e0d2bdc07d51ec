import Reckon.Calendar.Clock
import Reckon.Calendar.Date

/-!
# `Calendar.Moment` — a day with a time of day

A moment is also a number of microseconds from the start of 1970 on, negative before it. Moments are
moved by months, which keeps the time of day and as much of the day as the month has, and by offsets
from universal time.
-/

namespace Reckon.Calendar

/-- A day with a time of day. -/
structure Moment where
  date : Date
  clock : Clock
deriving DecidableEq

namespace Moment

/-- The number of microseconds from the start of 1970 on. -/
def microseconds (m : Moment) : Int :=
  m.date.dayNumber * dayLength + m.clock.microseconds

/-- The number of whole milliseconds from the start of 1970 on. -/
def milliseconds (m : Moment) : Int :=
  m.microseconds.fdiv 1000

/-- The moment some microseconds from the start of 1970 on, if the calendar has it. -/
def ofMicroseconds? (n : Int) : Option Moment :=
  (Date.ofDayNumber? (n.fdiv dayLength)).map fun date =>
    ⟨date, Clock.ofMicroseconds (n.fmod dayLength).toNat⟩

/-- The moment some milliseconds from the start of 1970 on. -/
def ofMilliseconds? (n : Int) : Option Moment :=
  ofMicroseconds? (n * 1000)

/-- The first moment of a day. -/
def startOf (date : Date) : Moment :=
  ⟨date, .midnight⟩

/-- Some whole months later. The day is the last of its month if the month has no such day. -/
def addMonths? (m : Moment) (months : Int) : Option Moment :=
  let all := (m.date.month : Int) - 1 + months
  let year := m.date.year + all.fdiv 12
  let month := all.fmod 12 + 1
  let day := min m.date.day (monthLength year.toNat month.toNat)
  (Date.of year month day).toOption.map fun date => { m with date }

end Moment

/-- A moment as a text names it, perhaps with an offset from universal time in microseconds. -/
structure Stamp where
  moment : Moment
  offset : Option Int
deriving DecidableEq

namespace Stamp

/-- An offset is less than a day either way. -/
def IsOffset (offset : Int) : Prop :=
  -(dayLength : Int) < offset ∧ offset < dayLength

instance (offset : Int) : Decidable (IsOffset offset) :=
  inferInstanceAs (Decidable (_ ∧ _))

/-- The moment in universal time, if the calendar has it. Without an offset the time is taken to be
universal. -/
def universal? (s : Stamp) : Option Moment :=
  match s.offset with
  | none => some s.moment
  | some offset => Moment.ofMicroseconds? (s.moment.microseconds - offset)

end Stamp

end Reckon.Calendar
