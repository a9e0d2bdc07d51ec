import Reckon.Calendar.Date

/-!
# `Calendar.Week` — weeks of a year, and the names of days and months

Weeks are counted in three ways: from the first Sunday of a year on, from the first Monday on, or by
the weeks from Monday to Sunday that belong to the year of their Thursday.
-/

namespace Reckon.Calendar

/-- The names of the days, from Monday on. -/
def weekdayNames : List String :=
  ["Monday", "Tuesday", "Wednesday", "Thursday", "Friday", "Saturday", "Sunday"]

/-- The names of the months. -/
def monthNames : List String :=
  ["January", "February", "March", "April", "May", "June", "July", "August", "September",
    "October", "November", "December"]

/-- A name in three letters. -/
def shortName (name : String) : String :=
  String.ofList (name.toList.take 3)

namespace Date

/-- The name of the day of the week. -/
def weekdayName (d : Date) : String :=
  weekdayNames.getD d.weekday ""

/-- The name of the month. -/
def monthName (d : Date) : String :=
  monthNames.getD (d.month - 1) ""

/-- The number of days since the last Sunday. -/
def daysSinceSunday (d : Date) : Nat :=
  (d.weekday + 1) % 7

/-- The week of the year; the first Sunday begins the first week. -/
def sundayWeek (d : Date) : Nat :=
  (d.daysBefore + 7 - d.daysSinceSunday) / 7

/-- The week of the year; the first Monday begins the first week. -/
def mondayWeek (d : Date) : Nat :=
  (d.daysBefore + 7 - d.weekday) / 7

/-- The ordinal of the Thursday of the same week. -/
def thursday (d : Date) : Nat :=
  d.ordinal - d.weekday + 3

/-- The year that the week of a day belongs to. -/
def weekYear (d : Date) : Nat :=
  yearOf d.thursday

/-- The number of the week of a day, in the year that it belongs to. -/
def weekNumber (d : Date) : Nat :=
  (d.thursday - daysBeforeYear d.weekYear) / 7 + 1

end Date

/-- The ordinal of the Monday that begins the first week of a year: it is the week of 4 January. -/
def firstMonday (year : Nat) : Int :=
  let fourth : Int := daysBeforeYear year + 3
  fourth - fourth % 7

end Reckon.Calendar
