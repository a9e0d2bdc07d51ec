import Reckon.Calendar.Field
import Reckon.Calendar.Moment
import Reckon.Number.Numeral
import Reckon.Pattern.Defect

/-!
# `Calendar.Reading` — moments read by a layout

A layout asks for fields and for the characters between them; blanks ask for one blank or more. A text
is read if it can be cut up so, and what its fields say is put together: a day by month and day, by
the place in its year, or by a week and a weekday. What no field says is taken from the start of 1900.

  * `readLayout` — the items that a layout asks for
  * `fit` — the first way to cut a text up
  * `Parts.date` — the day that the fields name
  * `readBy` — all in one
-/

namespace Reckon.Calendar

/-- Why a text is not read. -/
inductive ReadingError where
  | badDirective (letter : Char) (layout : String)
  | strayPercent (layout : String)
  /-- a field that stands twice -/
  | repeatedField (fault : Pattern.Fault)
  | mismatch (text layout : String)
  | leftOver (rest : String)
  | unknownName (name : String)
  /-- colons in one place of an offset and not in another -/
  | colons (offset : String)
  | seconds (digits : String)
  | offsetTooLarge (offset : Int)
  | dayOfYearInWeekYear
  | weekYearAlone
  | weekAlone
  | weekInYear
  | date (cause : DateError)
  | clock (cause : ClockError)
deriving Repr, DecidableEq

/-- A span of time, by its days, seconds and microseconds as far as they are not zero. -/
def spanText (microseconds : Int) : String :=
  let days := microseconds.fdiv dayLength
  let rest := (microseconds.fmod dayLength).toNat
  let named : List (String × Int) :=
    [("days", days), ("seconds", (rest / 1000000 : Nat)), ("microseconds", (rest % 1000000 : Nat))]
  let parts := (named.filter (·.2 != 0)).map fun part => s!"{part.1}={part.2}"
  "datetime.timedelta(" ++ (if parts.isEmpty then "0" else ", ".intercalate parts) ++ ")"

namespace ReadingError

/-- Why a text is not read, in words. -/
def message : ReadingError → String
  | badDirective letter layout => s!"'{letter}' is a bad directive in format '{layout}'"
  | strayPercent layout => s!"stray % in format '{layout}'"
  | repeatedField fault => fault.message
  | mismatch text layout =>
    s!"time data {Text.quote text} does not match format {Text.quote layout}"
  | leftOver rest => s!"unconverted data remains: {rest}"
  | unknownName name => s!"{Text.quote name} is not in list"
  | colons offset => s!"Inconsistent use of : in {offset}"
  | seconds digits => s!"invalid literal for int() with base 10: {Text.quote digits}"
  | offsetTooLarge offset =>
    "offset must be a timedelta strictly between -timedelta(hours=24) and " ++
      s!"timedelta(hours=24), not {spanText offset}."
  | dayOfYearInWeekYear =>
    "Day of the year directive '%j' is not compatible with ISO year directive '%G'. " ++
      "Use '%Y' instead."
  | weekYearAlone =>
    "ISO year directive '%G' must be used with the ISO week directive '%V' and a weekday " ++
      "directive ('%A', '%a', '%w', or '%u')."
  | weekAlone =>
    "ISO week directive '%V' must be used with the ISO year directive '%G' and a weekday " ++
      "directive ('%A', '%a', '%w', or '%u')."
  | weekInYear =>
    "ISO week directive '%V' is incompatible with the year directive '%Y'. " ++
      "Use the ISO year '%G' instead."
  | date cause => cause.message
  | clock cause => cause.message

end ReadingError

/-! ## Layouts -/

/-- What a layout asks for. -/
inductive Item where
  | mark (c : Char)
  | blanks
  | field (f : Field)
deriving Repr, DecidableEq

/-- An item written as a part of a pattern. -/
def Item.source : Item → List Char
  | mark c => Shape.markSource c
  | blanks => "\\s+".toList
  | field f => f.source

/-- The items that a letter asks for, if it asks for any. -/
def itemsOfLetter? (c : Char) : Option (List Item) :=
  let clock : List Item :=
    [.field .hour, .mark ':', .field .minute, .mark ':', .field .second]
  match c with
  | '%' => some [.mark '%']
  | 'c' =>
    some ([.field .shortWeekdayName, .blanks, .field .shortMonthName, .blanks, .field .day,
      .blanks] ++ clock ++ [.blanks, .field .year])
  | 'x' => some [.field .month, .mark '/', .field .day, .mark '/', .field .shortYear]
  | 'X' => some clock
  | c => (Field.ofLetter? c).map fun f => [.field f]

/-- The items of a layout; `inBlanks` says that a run of blanks has been read up to here. -/
def readItems (layout : String) (inBlanks : Bool) : List Char → Except ReadingError (List Item)
  | [] => .ok []
  | ['%'] => .error (.strayPercent layout)
  | '%' :: c :: rest =>
    if Shape.isSpecial c || Text.isBlank c then .error (.badDirective '%' layout)
    else
      match itemsOfLetter? c with
      | none => .error (.badDirective c layout)
      | some items => (readItems layout false rest).map (items ++ ·)
  | c :: rest =>
    if Text.isBlank c then
      (readItems layout true rest).map fun items => if inBlanks then items else .blanks :: items
    else (readItems layout false rest).map (.mark c :: ·)

/-- No field stands twice. `before` characters of the pattern and `groups` of its groups are passed;
`known` are the fields among them and their groups. -/
def checkFields (before groups : Nat) (known : List (Field × Nat)) :
    List Item → Except ReadingError Unit
  | [] => .ok ()
  | .field f :: items =>
    match known.lookup f with
    | some earlier =>
      .error (.repeatedField
        ⟨.repeatedGroupName (String.singleton f.letter) (groups + 1) earlier,
          some ⟨before + 4, none⟩⟩)
    | none =>
      checkFields (before + f.source.length) (groups + 1 + f.shape.groups)
        ((f, groups + 1) :: known) items
  | item :: items => checkFields (before + item.source.length) groups known items

/-- The items that a layout asks for. -/
def readLayout (layout : String) : Except ReadingError (List Item) := do
  let items ← readItems layout false layout.toList
  checkFields 0 0 [] items
  return items

/-! ## Cutting up a text -/

/-- What is left after some of the blanks that a text starts with, at least one, as many as possible
first. -/
def blankEnds (s : List Char) : List (List Char) :=
  let run := s.takeWhile Text.isBlank
  (List.range run.length).reverse.map fun i => s.drop (i + 1)

/-- A field with its text. -/
abbrev Filled := Field × List Char

/-- The first way to cut up the start of a text by items: the fields, and what is left. -/
def fit : List Item → List Char → Option (List Filled × List Char)
  | [], s => some ([], s)
  | .mark c :: items, s =>
    match s with
    | d :: rest => if agree c d then fit items rest else none
    | [] => none
  | .blanks :: items, s => (blankEnds s).findSome? (fit items)
  | .field f :: items, s =>
    (f.shape.ends s).findSome? fun e =>
      (fit items e.2).map fun r => ((f, e.1) :: r.1, r.2)

/-! ## What the fields say -/

/-- A week counted from the first Sunday or Monday of a year. -/
structure CountedWeek where
  number : Nat
  fromSunday : Bool
deriving Repr, DecidableEq

/-- What the fields of a text say. -/
structure Parts where
  year : Option Nat := none
  weekYear : Option Nat := none
  month : Nat := 1
  day : Nat := 1
  dayOfYear : Option Nat := none
  week : Option Nat := none
  countedWeek : Option CountedWeek := none
  /-- Monday is zero -/
  weekday : Option Nat := none
  hour : Nat := 0
  minute : Nat := 0
  second : Nat := 0
  microsecond : Nat := 0
  /-- in microseconds -/
  offset : Option Int := none
deriving Repr, DecidableEq

/-- The number that digits spell; blanks before them do not count. -/
def numberOf (text : List Char) : Nat :=
  Number.natOfDigits (Text.trimStart text)

/-- The digits of a fraction in millionths. -/
def millionths (digits : List Char) : Nat :=
  numberOf (digits ++ List.replicate (6 - digits.length) '0')

/-- Years of two digits are the ones from 1969 to 2068. -/
def fullYear (short : Nat) : Nat :=
  if short ≤ 68 then 2000 + short else 1900 + short

/-- The place of a name in a list of names, without regard to case. -/
def placeOf (names : List String) (text : List Char) : Except ReadingError Nat :=
  let name := Text.lower (String.ofList text)
  match names.findIdx? (·.toLower == name) with
  | some i => .ok i
  | none => .error (.unknownName name)

/-- The hour of the day for an hour on a face of twelve. -/
def hourOfFace (hour : Nat) (afternoon : Bool) : Nat :=
  hour % 12 + if afternoon then 12 else 0

/-- The digits of an offset without its colons, which must stand in both places or in none. -/
def withoutColons (text : List Char) : Except ReadingError (List Char) :=
  if text[3]? = some ':' then
    let digits := text.eraseIdx 3
    if digits.length ≤ 5 then .ok digits
    else if digits[5]? = some ':' then .ok (digits.eraseIdx 5)
    else .error (.colons (String.ofList text))
  else .ok text

/-- An offset in microseconds: a sign, hours, minutes, perhaps seconds and a fraction of them. -/
def offsetOf (text : List Char) : Except ReadingError Int := do
  if text = ['Z'] then return 0
  let digits ← withoutColons text
  let part (first : Nat) : List Char := (digits.drop first).take 2
  let seconds := part 5
  if seconds.contains ':' then .error (.seconds (String.ofList seconds))
  let minutes := 60 * numberOf (part 1) + numberOf (part 3)
  let all : Nat :=
    (60 * minutes + numberOf seconds) * 1000000 + millionths (digits.drop 8)
  return if text.head? = some '-' then -(all : Int) else all

/-- What one more field says. The half of the day is `afternoon` if any field says so. -/
def Parts.add (afternoon : Bool) (p : Parts) (filled : Filled) : Except ReadingError Parts :=
  let text := filled.2
  match filled.1 with
  | .day => .ok { p with day := numberOf text }
  | .dayOfYear => .ok { p with dayOfYear := some (numberOf text) }
  | .month => .ok { p with month := numberOf text }
  | .monthName => return { p with month := (← placeOf monthNames text) + 1 }
  | .shortMonthName => return { p with month := (← placeOf (monthNames.map shortName) text) + 1 }
  | .year => .ok { p with year := some (numberOf text) }
  | .shortYear => .ok { p with year := some (fullYear (numberOf text)) }
  | .weekday => .ok { p with weekday := some ((numberOf text + 6) % 7) }
  | .weekdayNumber => .ok { p with weekday := some (numberOf text - 1) }
  | .weekdayName => return { p with weekday := some (← placeOf weekdayNames text) }
  | .shortWeekdayName =>
    return { p with weekday := some (← placeOf (weekdayNames.map shortName) text) }
  | .sundayWeek => .ok { p with countedWeek := some ⟨numberOf text, true⟩ }
  | .mondayWeek => .ok { p with countedWeek := some ⟨numberOf text, false⟩ }
  | .week => .ok { p with week := some (numberOf text) }
  | .weekYear => .ok { p with weekYear := some (numberOf text) }
  | .hour => .ok { p with hour := numberOf text }
  | .faceHour => .ok { p with hour := hourOfFace (numberOf text) afternoon }
  | .minute => .ok { p with minute := numberOf text }
  | .second => .ok { p with second := numberOf text }
  | .fraction => .ok { p with microsecond := millionths text }
  | .offset => return { p with offset := some (← offsetOf text) }
  | .half | .zone => .ok p

/-- A field says that it is after noon. -/
def saysAfternoon (filled : Filled) : Bool :=
  filled.1 == .half && filled.2.head?.any (agree 'p')

/-- What all fields say, each overriding what was said before it. -/
def Parts.ofFilled (fields : List Filled) : Except ReadingError Parts :=
  fields.foldlM (Parts.add (fields.any saysAfternoon)) {}

/-! ## Putting it together -/

/-- The first day of a year. -/
def firstOfYear (year : Nat) : Except ReadingError Date :=
  (Date.of year 1 1).mapError .date

/-- The weeks and years that the fields name go together. -/
def Parts.checkWeeks (p : Parts) : Except ReadingError Unit :=
  if p.weekYear.isSome then
    if p.dayOfYear.isSome then .error .dayOfYearInWeekYear
    else if p.week.isNone || p.weekday.isNone then .error .weekYearAlone
    else .ok ()
  else if p.week.isSome then
    if p.year.isNone || p.weekday.isNone then .error .weekAlone else .error .weekInYear
  else .ok ()

/-- A day of a counted week, from the start of the year that begins with `first`. It may lie before
the year. -/
def dayOfCountedWeek (first : Date) (week : CountedWeek) (weekday : Nat) : Int :=
  let shift := if week.fromSunday then 1 else 0
  let firstWeekday : Int := (first.weekday + shift) % 7
  let weekday : Int := (weekday + shift) % 7
  if week.number = 0 then weekday - firstWeekday
  else (7 - firstWeekday) % 7 + 7 * (week.number - 1) + weekday

/-- The year that the parts name or imply. A 29 February without a year is looked for in 1904. -/
def Parts.impliedYear (p : Parts) : Nat :=
  p.year.getD (if p.month = 2 ∧ p.day = 29 then 1904 else 1900)

/-- The ordinal of the day that is named by its place in the year, or by week and weekday. -/
def Parts.ordinal? (p : Parts) : Except ReadingError (Option Int) := do
  match p.dayOfYear, p.weekday with
  | some day, _ => return some ((← firstOfYear p.impliedYear).ordinal + day - 1)
  | none, none => return none
  | none, some weekday =>
    match p.countedWeek, p.weekYear, p.week with
    | some counted, _, _ =>
      let first ← firstOfYear p.impliedYear
      return some (first.ordinal + dayOfCountedWeek first counted weekday)
    | none, some year, some week =>
      let _ ← firstOfYear year
      return some (firstMonday year + 7 * ((week : Int) - 1) + weekday)
    | none, _, _ => return none

/-- The day that the parts name. Without a year a 29 February is moved to 1900, which has none. -/
def Parts.date (p : Parts) : Except ReadingError Date := do
  p.checkWeeks
  match ← p.ordinal? with
  | some n => (Date.atOrdinal n).mapError .date
  | none => (Date.of p.impliedYear p.month p.day).mapError .date

/-- The moment that the parts name, and the offset. -/
def Parts.stamp (p : Parts) : Except ReadingError Stamp := do
  let date ← p.date
  if let some offset := p.offset then
    if ¬ Stamp.IsOffset offset then .error (.offsetTooLarge offset)
  let date ←
    if p.year.isNone ∧ p.month = 2 ∧ p.day = 29 then
      (Date.of 1900 date.month date.day).mapError .date
    else .ok date
  let clock ← (Clock.of p.hour p.minute p.second p.microsecond).mapError .clock
  return ⟨⟨date, clock⟩, p.offset⟩

/-- The moment that a text names by a layout. -/
def readBy (layout text : String) : Except ReadingError Stamp := do
  let items ← readLayout layout
  match fit items text.toList with
  | none => .error (.mismatch text layout)
  | some (fields, rest) =>
    if !rest.isEmpty then .error (.leftOver (String.ofList rest))
    else (← Parts.ofFilled fields).stamp

end Reckon.Calendar
