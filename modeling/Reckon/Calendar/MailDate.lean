import Reckon.Calendar.Moment
import Reckon.Calendar.Week
import Reckon.Number.Format
import Reckon.Number.Numeral
import Reckon.Number.Overflow
import Reckon.Text.Case
import Reckon.Text.Search

/-!
# `Calendar.MailDate` — dates as in the headers of mail

The form of RFC 2822, such as `Thu, 01 Jan 1970 00:00:00 +0000`. Writing follows it to the letter.
Reading is lenient, for there are older forms: the weekday may be missing, or wrong; day and month may
change places, and so may year and time; a year may have two digits; dots may stand for the colons of
the time, and a zone may have a name.

  * `writeMailDate` — a moment in universal time
  * `readMailDate` — a moment, with its offset unless the text declines to give one
-/

namespace Reckon.Calendar

open Reckon.Number

/-- A moment in universal time. -/
def writeMailDate (m : Moment) : String :=
  let d := m.date
  let c := m.clock
  s!"{shortName d.weekdayName}, {padded 2 d.day} {shortName d.monthName} {padded 4 d.year} " ++
    s!"{padded 2 c.hour}:{padded 2 c.minute}:{padded 2 c.second} +0000"

/-! ## Words -/

/-- The words of a text. `word` is the current one, last character first. -/
def wordsFrom (word : List Char) : List Char → List (List Char)
  | [] => if word.isEmpty then [] else [word.reverse]
  | c :: rest =>
    if Text.isBlank c then
      if word.isEmpty then wordsFrom [] rest else word.reverse :: wordsFrom [] rest
    else wordsFrom (c :: word) rest

/-- The words of a text, which stand between blanks. -/
def wordsOf (text : String) : List (List Char) :=
  wordsFrom [] text.toList

/-- The word is one of some names, without regard to case. -/
def isNamed (names : List String) (word : List Char) : Bool :=
  names.contains (Text.lower (String.ofList word))

/-- A weekday stands before a comma, or is given by its first three letters. -/
def isWeekday (word : List Char) : Bool :=
  word.getLast? == some ',' || isNamed (weekdayNames.map fun name => (shortName name).toLower) word

/-- The number of a month, from one on, given by its name or the first three letters. -/
def monthOfWord? (word : List Char) : Option Nat :=
  let name := Text.lower (String.ofList word)
  (monthNames.findIdx? fun month =>
    month.toLower == name || (shortName month).toLower == name).map (· + 1)

/-- The word without a comma at its end. -/
def withoutComma (word : List Char) : List Char :=
  if word.getLast? = some ',' then word.dropLast else word

/-- The words from the date on: without the weekday, or what stands before a comma in the first word. -/
def withoutWeekday : List (List Char) → List (List Char)
  | [] => []
  | word :: rest =>
    if isWeekday word then rest
    else (word.reverse.takeWhile (· != ',')).reverse :: rest

/-- The date of an older form is one word, with hyphens. -/
def splitDate : List (List Char) → List (List Char)
  | [date, time, zone] =>
    match Text.splitOn ['-'] date with
    | [day, month, year] => [day, month, year, time, zone]
    | _ => [date, time, zone]
  | words => words

/-- A word cut before its first plus sign, or else before its first minus sign. -/
def cutSign (word : List Char) : List Char × List Char :=
  let sign := if word.contains '+' then '+' else '-'
  (word.takeWhile (· != sign), word.dropWhile (· != sign))

/-- The offset may follow the time without a blank, and may be missing. -/
def splitZone : List (List Char) → List (List Char)
  | [day, month, year, time] =>
    match cutSign time with
    | (before@(_ :: _), offset@(_ :: _)) => [day, month, year, before, offset]
    | _ => [day, month, year, time, []]
  | words => words

/-- The words of a date, by what they should be. -/
structure MailWords where
  day : List Char
  month : List Char
  year : List Char
  time : List Char
  zone : List Char
deriving Repr, DecidableEq

/-- The words of a date. -/
def MailWords.read? (text : String) : Option MailWords :=
  match splitZone (splitDate (withoutWeekday (wordsOf text))) with
  | day :: month :: year :: time :: zone :: _ =>
    if day.isEmpty || month.isEmpty || year.isEmpty then none
    else some ⟨day, month, year, time, zone⟩
  | _ => none

/-- Characters that stand for a digit but are none, such as small raised digits. -/
def digitSigns : Text.CodePoints := ⟨#[
  (0xB2, 0xB3), (0xB9, 0xB9), (0x1369, 0x1371), (0x19DA, 0x19DA), (0x2070, 0x2070),
  (0x2074, 0x2079), (0x2080, 0x2089), (0x2460, 0x2468), (0x2474, 0x247C), (0x2488, 0x2490),
  (0x24EA, 0x24EA), (0x24F5, 0x24FD), (0x24FF, 0x24FF), (0x2776, 0x277E), (0x2780, 0x2788),
  (0x278A, 0x2792), (0x10A40, 0x10A43), (0x10E60, 0x10E68), (0x11052, 0x1105A),
  (0x1F100, 0x1F10A)]⟩

/-- The word starts with a digit, or with a sign for one. -/
def startsWithDigit (word : List Char) : Bool :=
  word.head?.any fun c => Text.isDecimalDigit c || digitSigns.contains c

/-- Day and month in their places. -/
def MailWords.settleMonth? (w : MailWords) : Option (MailWords × Nat) :=
  match monthOfWord? w.month with
  | some month => some (w, month)
  | none =>
    (monthOfWord? w.day).map fun month => ({ w with day := w.month, month := w.day }, month)

/-- Year, time and zone in their places: a year has no colon after its first character, and starts
with a digit. -/
def MailWords.settleYear? (w : MailWords) : Option MailWords :=
  let w :=
    if w.year.head? != some ':' && w.year.contains ':' then
      { w with year := w.time, time := w.year }
    else w
  let w := { w with year := withoutComma w.year }
  if w.year.isEmpty then none
  else if startsWithDigit w.year then some w
  else some { w with year := w.zone, zone := w.year }

/-! ## Numbers -/

/-- Hours, minutes and seconds as words. Dots stand for colons where there are none. -/
def timeWords? (time : List Char) : Option (List Char × List Char × List Char) :=
  match Text.splitOn [':'] time with
  | [hour, minute] => some (hour, minute, ['0'])
  | [hour, minute, second] => some (hour, minute, second)
  | [one] =>
    match Text.splitOn ['.'] one with
    | [hour, minute] => some (hour, minute, ['0'])
    | [hour, minute, second] => some (hour, minute, second)
    | _ => none
  | _ => none

/-- The whole number that a word spells, unless it has too many digits. -/
def wholeOf? (word : List Char) : Option Int :=
  if mostDigits < (word.filter Text.isDecimalDigit).length then none
  else integer? (String.ofList word)

/-- A year of less than three digits is one from 1969 to 2068. -/
def fullMailYear (year : Int) : Int :=
  if 100 ≤ year then year else if 68 < year then year + 1900 else year + 2000

/-- The zones that have names, in hours and minutes written as one number. -/
def zoneNames : List (String × Int) :=
  [("UT", 0), ("UTC", 0), ("GMT", 0), ("Z", 0), ("AST", -400), ("ADT", -300), ("EST", -500),
    ("EDT", -400), ("CST", -600), ("CDT", -500), ("MST", -700), ("MDT", -600), ("PST", -800),
    ("PDT", -700)]

/-- A number that is hours and minutes, in seconds. -/
def secondsOfZone (zone : Int) : Int :=
  let n : Int := zone.natAbs
  zone.sign * (n / 100 * 3600 + n % 100 * 60)

/-- The offset of a zone in seconds. There is none for a word that is no zone, nor for a zero with a
minus sign, which says that the offset is not known. -/
def offsetOfZone? (zone : List Char) : Option Int :=
  let name := Text.upper (String.ofList zone)
  let found :=
    match zoneNames.lookup name with
    | some offset => some offset
    | none => (wholeOf? name.toList).filter fun n => n != 0 || name.toList.head? != some '-'
  found.map secondsOfZone

/-! ## Moments -/

/-- Why a text is no date. -/
inductive MailDateError where
  | unreadable
  | overflow (cause : Overflow)
deriving Repr, DecidableEq

/-- An offset, given in seconds, in microseconds. -/
def checkMailOffset (seconds : Int) : Except MailDateError Int := do
  let _ ← (checkDays (seconds.fdiv 86400)).mapError .overflow
  let offset := seconds * 1000000
  if Stamp.IsOffset offset then return offset else .error .unreadable

/-- What a word spells, or the date is unreadable. -/
def orUnreadable {α : Type} : Option α → Except MailDateError α
  | some a => .ok a
  | none => .error .unreadable

/-- The moment that a text names, and its offset. -/
def readMailDate (text : String) : Except MailDateError Stamp := do
  let words ← orUnreadable (MailWords.read? text)
  let (words, month) ← orUnreadable words.settleMonth?
  let dayWord := withoutComma words.day
  let words ← orUnreadable words.settleYear?
  let (hour, minute, second) ← orUnreadable (timeWords? (withoutComma words.time))
  let year ← orUnreadable ((wholeOf? words.year).map fullMailYear)
  let day ← orUnreadable (wholeOf? dayWord)
  let hour ← orUnreadable (wholeOf? hour)
  let minute ← orUnreadable (wholeOf? minute)
  let second ← orUnreadable (wholeOf? second)
  let offset ← (offsetOfZone? words.zone).mapM checkMailOffset
  let part (n : Int) : Except MailDateError Int := (checkPart n).mapError .overflow
  let year ← part year
  let day ← part day
  let hour ← part hour
  let minute ← part minute
  let second ← part second
  let date ← (Date.of year month day).mapError fun _ => .unreadable
  let clock ← (Clock.of hour minute second 0).mapError fun _ => .unreadable
  return ⟨⟨date, clock⟩, offset⟩

end Reckon.Calendar
