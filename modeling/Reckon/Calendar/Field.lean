import Reckon.Calendar.Shape
import Reckon.Calendar.Week

/-!
# `Calendar.Field` — the parts that a written date can have

Every field has a letter, by which layouts ask for it, and a shape.
-/

namespace Reckon.Calendar

/-- A part of a written date. -/
inductive Field where
  | day | dayOfYear | month | monthName | shortMonthName | year | shortYear
  | weekday | weekdayNumber | weekdayName | shortWeekdayName
  | sundayWeek | mondayWeek | week | weekYear
  | hour | faceHour | half | minute | second | fraction
  | offset | zone
deriving Repr, DecidableEq

namespace Field

/-- The letter of a field. -/
def letter : Field → Char
  | day => 'd'
  | dayOfYear => 'j'
  | month => 'm'
  | monthName => 'B'
  | shortMonthName => 'b'
  | year => 'Y'
  | shortYear => 'y'
  | weekday => 'w'
  | weekdayNumber => 'u'
  | weekdayName => 'A'
  | shortWeekdayName => 'a'
  | sundayWeek => 'U'
  | mondayWeek => 'W'
  | week => 'V'
  | weekYear => 'G'
  | hour => 'H'
  | faceHour => 'I'
  | half => 'p'
  | minute => 'M'
  | second => 'S'
  | fraction => 'f'
  | offset => 'z'
  | zone => 'Z'

/-- All fields. -/
def all : List Field :=
  [day, dayOfYear, month, monthName, shortMonthName, year, shortYear, weekday, weekdayNumber,
    weekdayName, shortWeekdayName, sundayWeek, mondayWeek, week, weekYear, hour, faceHour, half,
    minute, second, fraction, offset, zone]

/-- The field with a letter. -/
def ofLetter? (c : Char) : Option Field :=
  all.find? (·.letter == c)

open Shape in
/-- What a field looks like. -/
def shape : Field → Shape
  | day =>
    oneOf [markRange '3' '0' '1', rangeDigit '1' '2', markRange '0' '1' '9', range '1' '9',
      markRange ' ' '1' '9']
  | dayOfYear =>
    oneOf [Shape.all [mark '3', mark '6', range '0' '6'],
      Shape.all [mark '3', range '0' '5', digit], Shape.all [range '1' '2', digit, digit],
      Shape.all [mark '0', range '1' '9', digit],
      Shape.all [mark '0', mark '0', range '1' '9'], rangeDigit '1' '9', markRange '0' '1' '9',
      range '1' '9']
  | month | faceHour => oneOf [markRange '1' '0' '2', markRange '0' '1' '9', range '1' '9']
  | monthName => words (monthNames.map String.toLower)
  | shortMonthName => words (monthNames.map fun name => (shortName name).toLower)
  | year | weekYear => digits 4
  | shortYear => digits 2
  | weekday => range '0' '6'
  | weekdayNumber => range '1' '7'
  | weekdayName => words (weekdayNames.map String.toLower)
  | shortWeekdayName => words (weekdayNames.map fun name => (shortName name).toLower)
  | sundayWeek | mondayWeek => oneOf [markRange '5' '0' '3', rangeDigit '0' '4', digit]
  | week => oneOf [markRange '5' '0' '3', markRange '0' '1' '9', rangeDigit '1' '4', digit]
  | hour => oneOf [markRange '2' '0' '3', rangeDigit '0' '1', digit]
  | half => words ["am", "pm"]
  | minute => oneOf [rangeDigit '0' '5', digit]
  | second => oneOf [markRange '6' '0' '1', rangeDigit '0' '5', digit]
  | fraction => Shape.fraction false
  | offset =>
    either
      (Shape.all [sign, digit, digit, maybeMark ':', rangeDigit '0' '5',
        maybe (Shape.all [maybeMark ':', rangeDigit '0' '5',
          maybe (seq (mark '.') (Shape.fraction true))])])
      (exactly 'Z')
  | zone => words ["gmt", "utc"]

/-- A field written as a group of a pattern. -/
def source (f : Field) : List Char :=
  "(?P<".toList ++ f.letter :: '>' :: f.shape.source ++ [')']

end Field

end Reckon.Calendar
