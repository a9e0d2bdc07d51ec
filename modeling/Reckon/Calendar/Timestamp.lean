import Reckon.Calendar.Moment
import Reckon.Calendar.Week
import Reckon.Number.Format

/-!
# `Calendar.Timestamp` — dates and times as in ISO 8601 and RFC 3339

Such as `1970-01-01T00:00:00+00:00`. A date can be written with hyphens or without, by month and day or
by week and weekday; one character of any kind stands between date and time. A time has hours, perhaps
minutes, perhaps seconds, perhaps a fraction, and perhaps an offset or `Z`.

  * `writeTimestamp` — a moment in universal time
  * `readTimestamp?` — a moment, and its offset if one is given
-/

namespace Reckon.Calendar

open Reckon.Number

/-- A moment in universal time. -/
def writeTimestamp (m : Moment) : String :=
  let d := m.date
  let c := m.clock
  s!"{padded 4 d.year}-{padded 2 d.month}-{padded 2 d.day}T" ++
    s!"{padded 2 c.hour}:{padded 2 c.minute}:{padded 2 c.second}" ++
    (if c.microsecond = 0 then "" else s!".{padded 6 c.microsecond}") ++ "+00:00"

/-! ## Dates -/

/-- The number that some digits spell, at the start of a text. -/
def readDigits? (count : Nat) (s : List Char) : Option (Nat × List Char) :=
  let digits := s.take count
  if digits.length = count ∧ digits.all Char.isDigit then
    some (digits.foldl (fun n c => 10 * n + (c.toNat - '0'.toNat)) 0, s.drop count)
  else none

/-- How many characters at the start of a text are its date. Where a date by weeks without a weekday
can be continued, what follows decides. -/
def dateLength? (s : List Char) : Option Nat :=
  if s.length = 7 then some 7
  else if s[4]? = some '-' then
    if s[5]? = some 'W' then
      if s[8]? = some '-' then
        if s.length = 9 then none
        else if s[10]?.any Char.isDigit then some 8
        else some 10
      else some 8
    else some 10
  else if s[4]? = some 'W' then
    let stop := 7 + ((s.drop 7).takeWhile Char.isDigit).length
    if stop < 9 then some stop else if stop % 2 = 0 then some 7 else some 8
  else some 8

/-- A year has a week with a number. -/
def HasWeek (year week : Nat) : Prop :=
  1 ≤ week ∧ 7 * ((week : Int) - 1) < firstMonday (year + 1) - firstMonday year

instance (year week : Nat) : Decidable (HasWeek year week) :=
  inferInstanceAs (Decidable (_ ∧ _))

/-- The day of a week, Monday being one. -/
def dateOfWeek? (year week day : Nat) : Option Date :=
  if HasWeek year week ∧ 1 ≤ day ∧ day ≤ 7 then
    (Date.atOrdinal (firstMonday year + 7 * ((week : Int) - 1) + (day - 1 : Nat))).toOption
  else none

/-- A date by year, week and weekday, from the week on; without a weekday it is the Monday. -/
def readWeekDate? (year : Nat) (hyphens : Bool) (s : List Char) : Option Date := do
  let (week, rest) ← readDigits? 2 s
  if rest.isEmpty then dateOfWeek? year week 1
  else
    let rest ← if hyphens then (if rest.head? = some '-' then some rest.tail else none) else some rest
    let (day, _) ← readDigits? 1 rest
    dateOfWeek? year week day

/-- A date: a year, and month and day or week and weekday, with hyphens between all or none. -/
def readDate? (s : List Char) : Option Date := do
  let (year, rest) ← readDigits? 4 s
  let hyphens := rest.head? = some '-'
  let rest := if hyphens then rest.tail else rest
  if rest.head? = some 'W' then
    if 1 ≤ year then readWeekDate? year hyphens rest.tail else none
  else
    let (month, rest) ← readDigits? 2 rest
    let rest ← if hyphens then (if rest.head? = some '-' then some rest.tail else none) else some rest
    let (day, _) ← readDigits? 2 rest
    (Date.of year month day).toOption

/-! ## Times -/

/-- Hours, minutes, seconds and microseconds. -/
structure TimeParts where
  hour : Nat
  minute : Nat
  second : Nat
  microsecond : Nat
deriving Repr, DecidableEq

namespace TimeParts

/-- The hours, minutes and seconds in a list, as far as there are any. -/
def ofList (parts : List Nat) (microsecond : Nat) : TimeParts :=
  ⟨parts.getD 0 0, parts.getD 1 0, parts.getD 2 0, microsecond⟩

/-- All of it in microseconds. -/
def microseconds (t : TimeParts) : Nat :=
  ((t.hour * 60 + t.minute) * 60 + t.second) * 1000000 + t.microsecond

end TimeParts

/-- Nothing is left of a text, or a null character comes next. -/
def isSpent (s : List Char) : Bool :=
  s.head?.all (· == '\x00')

/-- The fraction of a second, after what was read of a time, and whether the text is spent by it. Of
more than six digits the first six count. -/
def readFraction? (parts : List Nat) (s : List Char) : Option (TimeParts × Bool) := do
  let count := min 6 s.length
  let (n, rest) ← readDigits? count s
  return (.ofList parts (n * Nat.pow 10 (6 - count)), isSpent (rest.dropWhile Char.isDigit))

/-- A time from its next part on, after the parts before it, and whether the text is spent by it; at
most `left` parts follow the next. `colons` says whether colons stand between the parts; it is known
from the second part on. One ASCII character that does not belong to the time can follow it. -/
def readTimeFrom? (parts : List Nat) (colons : Option Bool) :
    (left : Nat) → List Char → Option (TimeParts × Bool)
  | left, s => do
    let (n, rest) ← readDigits? 2 s
    let parts := parts ++ [n]
    match rest with
    | [] => return (.ofList parts 0, true)
    | [c] => if c.val < 128 then some (.ofList parts 0, c == '\x00') else none
    | c :: more =>
      let colons := colons.getD (c == ':')
      if colons && c == ':' then
        match left with
        | 0 => readFraction? parts more
        | left + 1 => readTimeFrom? parts (some colons) left more
      else if c == '.' || c == ',' then readFraction? parts more
      else if colons then none
      else
        match left with
        | 0 => readFraction? parts rest
        | left + 1 => readTimeFrom? parts (some colons) left rest

/-- A time, and whether the text is spent by it. -/
def readTime? (s : List Char) : Option (TimeParts × Bool) :=
  readTimeFrom? [] none 2 s

/-- The offset that a mark and what follows it give, in microseconds. A fraction of a second alone
counts as nothing. -/
def readOffset? (mark : Char) (s : List Char) : Option Int :=
  if mark == 'Z' then if isSpent s then some 0 else none
  else do
    let (t, spent) ← readTime? s
    if !spent then none
    let whole := t.microseconds - t.microsecond
    let offset : Int := if whole = 0 then 0 else t.microseconds
    let offset := if mark == '-' then -offset else offset
    if Stamp.IsOffset offset then some offset else none

/-- The mark that an offset begins with. -/
def isOffsetMark (c : Char) : Bool :=
  c == '+' || c == '-' || c == 'Z'

/-- A time, and the offset if one is given. The time must be all there is before the end of the text;
before an offset it need not be. -/
def readTimeAndOffset? (s : List Char) : Option (TimeParts × Option Int) := do
  let (time, spent) ← readTime? (s.takeWhile (!isOffsetMark ·))
  match s.dropWhile (!isOffsetMark ·) with
  | [] => if spent then some (time, none) else none
  | mark :: rest => return (time, some (← readOffset? mark rest))

/-- The moment that a text names, and its offset. -/
def readTimestamp? (text : String) : Option Stamp := do
  let s := text.toList
  if s.length < 7 then none
  let length ← dateLength? s
  let date ← readDate? (s.take length)
  let (time, offset) ←
    match s.drop length with
    | [] => some (⟨0, 0, 0, 0⟩, none)
    | _ :: rest => readTimeAndOffset? rest
  let clock ← (Clock.of time.hour time.minute time.second time.microsecond).toOption
  return ⟨⟨date, clock⟩, offset⟩

end Reckon.Calendar
