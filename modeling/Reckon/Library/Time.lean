import Reckon.Calendar.Layout
import Reckon.Calendar.MailDate
import Reckon.Calendar.Reading
import Reckon.Calendar.Timestamp
import Reckon.Library.Parameters

/-!
# `Library.Time` — functions on dates and times

A date with a time is a number: the days since the start of 1970, where the fraction is the time of
day. So a day later is one more. Numbers are rounded to whole milliseconds when they are taken for
moments, and the local time is universal time.
-/

namespace Reckon.Library

open Reckon.Calendar

/-! ## Moments as numbers -/

/-- The number of milliseconds of a day. -/
def millisecondsPerDay : Float := 86400000.0

/-- A parameter that must be a moment. -/
def momentOf (v : Value) : Except Failure Moment := do
  let days ← numberOf v
  match (Number.roundHalfEven? (days * millisecondsPerDay)).bind Moment.ofMilliseconds? with
  | some m => return m
  | none => .error (.custom "datetime out of range")

/-- A number of milliseconds since the start of 1970, in days. -/
def daysValue (milliseconds : Int) : Value :=
  .number (Float.ofInt milliseconds / millisecondsPerDay)

/-- A moment as a number of days. -/
def momentValue (m : Moment) : Value :=
  daysValue m.milliseconds

/-- A whole number as a value. -/
def wholeValue (n : Nat) : Value :=
  .number (Float.ofNat n)

/-- A time of day as a fraction of a day. -/
def clockValue (c : Clock) : Value :=
  momentValue ⟨.epoch, c⟩

/-- The whole part of a parameter; without one the parameters are as `message` says. -/
def wholeOr (message : String) (v : Value) : Except Failure Int := do
  match Number.wholePart? (← numberOf v) with
  | some n => return n
  | none => .error (.custom message)

/-- The whole part of a parameter that may be left out. -/
def wholeOrDefault (otherwise : Float) (v : Option Value) : Except Failure Int := do
  wholeOf (← numberOr otherwise v)

/-! ## Parts -/

/-- The whole days. -/
def datePart (v : Value) : Except Failure Value := do
  return .number (Number.truncate (← numberOf v))

/-- The time of day. -/
def timePart (v : Value) : Except Failure Value := do
  let days ← numberOf v
  return .number (days - Number.truncate days)

/-- A day by year, month and day. -/
def encodeDate (year month day : Value) : Except Failure Value := do
  let invalid := "invalid date parameters"
  let year ← wholeOr invalid year
  let month ← wholeOr invalid month
  let day ← wholeOr invalid day
  match Date.of year month day with
  | .ok date => return momentValue (.startOf date)
  | .error _ => .error (.custom invalid)

/-- A time of day by hour, minute and second, and perhaps milliseconds. -/
def encodeTime (hour minute second : Value) (millisecond : Option Value) :
    Except Failure Value := do
  let invalid := "invalid time parameters"
  let millisecond ← wholeOrDefault 0.0 millisecond
  let hour ← wholeOr invalid hour
  let minute ← wholeOr invalid minute
  let second ← wholeOr invalid second
  match Clock.of hour minute second (millisecond * 1000) with
  | .ok clock => return clockValue clock
  | .error _ => .error (.custom invalid)

/-- A part of a moment. -/
def part (f : Moment → Nat) : List Value → Except Failure Value :=
  unary fun v => do return wholeValue (f (← momentOf v))

/-- The year has a 29 February. -/
def isLeapYear (v : Value) : Except Failure Value := do
  return .boolean (isLeap (← momentOf v).date.year)

/-- Some months later, or one. -/
def incMonth (v : Value) (increment : Option Value) : Except Failure Value := do
  let moment ← momentOf v
  let months ← wholeOrDefault 1.0 increment
  match moment.addMonths? months with
  | some later => return momentValue later
  | none => .error (.custom "inc_month out of range")

/-! ## Texts -/

/-- A moment by a layout. -/
def writtenBy (layout v : Value) : Except Failure Value := do
  let moment ← momentOf v
  return .string (layOut (← stringOf layout) moment)

/-- The moment that a text names by a layout. -/
def stampOf (otherwise : String) (text : Value) (layout : Option Value) :
    Except Failure Stamp := do
  let text ← stringOf text
  let layout ← stringOr otherwise layout
  match readBy layout text with
  | .ok stamp => return stamp
  | .error (.repeatedField fault) => .error (.broken (.pattern fault))
  | .error cause => .error (.custom cause.message)

/-- The day that a text names. -/
def textToDate (text : Value) (layout : Option Value) : Except Failure Value := do
  let stamp ← stampOf "%Y-%m-%d" text layout
  return momentValue (.startOf stamp.moment.date)

/-- The time of day that a text names. -/
def textToTime (text : Value) (layout : Option Value) : Except Failure Value := do
  let stamp ← stampOf "%H:%M:%S" text layout
  return clockValue stamp.moment.clock

/-- The moment that a text names, which must not give an offset. -/
def textToMoment (text : Value) (layout : Option Value) : Except Failure Value := do
  let stamp ← stampOf "%Y-%m-%d %H:%M:%S" text layout
  if stamp.offset.isSome then .error (.broken .offsetWithoutZone)
  else return momentValue stamp.moment

/-- A moment as a number, in universal time. -/
def universalValue (stamp : Stamp) : Except Failure Value :=
  match stamp.universal? with
  | some moment => .ok (momentValue moment)
  | none => .error (.broken .dateOutOfRange)

/-- A moment that has an offset from universal time. On the first day of the calendar there is none,
for the day before it is asked for. -/
def zonedMomentOf (v : Value) : Except Failure Moment := do
  let moment ← momentOf v
  if moment.date.ordinal = 0 then .error (.broken (.yearOutOfRange 0)) else return moment

/-- A moment as in the headers of mail. -/
def toMailDate (v : Value) : Except Failure Value := do
  return .string (writeMailDate (← zonedMomentOf v))

/-- The moment that a text names as in the headers of mail. -/
def ofMailDate (v : Value) : Except Failure Value := do
  let text ← stringOf v
  match readMailDate text with
  | .ok stamp => universalValue stamp
  | .error .unreadable => .error (.custom s!"invalid RFC 2822 date: {text}")
  | .error (.overflow cause) => .error (.broken (.overflow cause))

/-- A moment as a timestamp. -/
def toTimestamp (v : Value) : Except Failure Value := do
  return .string (writeTimestamp (← zonedMomentOf v))

/-- The moment of a timestamp, which must give an offset. -/
def ofTimestamp (v : Value) : Except Failure Value := do
  let text ← stringOf v
  match readTimestamp? text with
  | none => .error (.custom s!"invalid RFC 3339 date: {text}")
  | some stamp =>
    if stamp.offset.isNone then .error (.custom s!"missing offset in RFC 3339 date: {text}")
    else universalValue stamp

/-! ## The functions -/

/-- The functions of this module. -/
def dates (now : Int) : List Callable :=
  let declare (declaration : String) (arity : Arity) (description : String)
      (body : List Value → Except Failure Value) :=
    Callable.declare declaration arity .time description true body
  let declareImpure (declaration : String) (arity : Arity) (description : String)
      (body : List Value → Except Failure Value) :=
    Callable.declare declaration arity .time description false body
  [
    declareImpure "now(): Number" .none "Current local date-time" (constant (daysValue now)),
    declare "date(datetime: Number): Number" (.exact 1) "Date part of a date-time"
      (unary datePart),
    declare "time(datetime: Number): Number" (.exact 1) "Time part of a date-time"
      (unary timePart),
    declare "encode_date(year: Number, month: Number, day: Number): Number" (.exact 3)
      "Date-time at midnight of a day" (ternary encodeDate),
    declare
      ("encode_time(hour: Number, minute: Number, second: Number, " ++
        "millisecond: Number = 0): Number")
      (.withOptional 3 1) "Time of day as a fraction" (ternaryOptional encodeTime),
    declare "year(datetime: Number): Number" (.exact 1) "Year of a date-time"
      (part (·.date.year)),
    declare "month(datetime: Number): Number" (.exact 1) "Month of a date-time"
      (part (·.date.month)),
    declare "day(datetime: Number): Number" (.exact 1) "Day of month" (part (·.date.day)),
    declare "hour(datetime: Number): Number" (.exact 1) "Hour of a date-time"
      (part (·.clock.hour)),
    declare "minute(datetime: Number): Number" (.exact 1) "Minute of a date-time"
      (part (·.clock.minute)),
    declare "second(datetime: Number): Number" (.exact 1) "Second of a date-time"
      (part (·.clock.second)),
    declare "millisecond(datetime: Number): Number" (.exact 1) "Millisecond of a date-time"
      (part (·.clock.microsecond / 1000)),
    declare "day_of_week(datetime: Number): Number" (.exact 1) "Weekday, Monday = 0"
      (part (·.date.weekday)),
    declare "is_leap_year(datetime: Number): Boolean" (.exact 1) "True if the year has 366 days"
      (unary isLeapYear),
    declare "inc_month(datetime: Number, increment: Number = 1): Number" (.withOptional 1 1)
      "Adds whole months" (unaryOptional incMonth),
    declare "date_to_string(fmt: String, datetime: Number): String" (.exact 2)
      "Formats with strftime directives" (binary writtenBy),
    declare "time_to_string(fmt: String, datetime: Number): String" (.exact 2)
      "Formats with strftime directives" (binary writtenBy),
    declare "string_to_date(date: String, format: String = '%Y-%m-%d'): Number"
      (.withOptional 1 1) "Parses a date" (unaryOptional textToDate),
    declare "string_to_time(time: String, format: String = '%H:%M:%S'): Number"
      (.withOptional 1 1) "Parses a time of day" (unaryOptional textToTime),
    declare "string_to_datetime(datetime: String, format: String = '%Y-%m-%d %H:%M:%S'): Number"
      (.withOptional 1 1) "Parses a date-time" (unaryOptional textToMoment),
    declare "date_to_rfc2822(datetime: Number): String" (.exact 1)
      "RFC 2822 text with the local offset" (unary toMailDate),
    declare "date_from_rfc2822(datetime: String): Number" (.exact 1)
      "Parses RFC 2822 text into local time" (unary ofMailDate),
    declare "date_to_rfc3339(datetime: Number): String" (.exact 1)
      "RFC 3339 text with the local offset" (unary toTimestamp),
    declare "date_from_rfc3339(datetime: String): Number" (.exact 1)
      "Parses RFC 3339 text into local time" (unary ofTimestamp)]

end Reckon.Library
