import Reckon.Calendar.Moment
import Reckon.Calendar.Week
import Reckon.Number.Format
import Reckon.Text.Case

/-!
# `Calendar.Layout` — moments written by a layout

A layout is a text with directives. A directive is a percent sign, perhaps some flags, a width and a
modifier, and a letter that says what is written. A directive that is not known is written as it
stands. The microseconds are filled in before all other directives are carried out.

  * `content?` — what a letter stands for
  * `Directive.write` — with flags and width
  * `layOut` — a moment by a layout
-/

namespace Reckon.Calendar

open Reckon.Number

/-! ## What is written -/

/-- What fills a directive up to its width. -/
inductive Padding where
  | zeros | spaces | nothing
deriving Repr, DecidableEq

/-- What a directive writes. -/
inductive Content where
  /-- a number, filled up to some digits -/
  | number (padding : Padding) (digits value : Nat)
  /-- a name, which can be written in capitals -/
  | name (text : String)
  /-- a word in capitals, which can be written in small letters -/
  | capitals (text : String)
  /-- a word in small letters whatever the flags say -/
  | small (text : String)
  | text (text : String)
  | nothing
deriving Repr, DecidableEq

/-- Two digits at least, with a space in front when there is one. -/
def spaced (n : Nat) : String :=
  if n < 10 then " " ++ toString n else toString n

/-- Hours, minutes and seconds. -/
def Clock.text (c : Clock) : String :=
  s!"{padded 2 c.hour}:{padded 2 c.minute}:{padded 2 c.second}"

/-- Month, day and the last two digits of the year. -/
def Date.slashed (d : Date) : String :=
  s!"{padded 2 d.month}/{padded 2 d.day}/{padded 2 (d.year % 100)}"

/-- Before or after noon. -/
def Clock.half (c : Clock) : String :=
  if c.isMorning then "AM" else "PM"

/-- What a letter stands for. -/
def content? (m : Moment) (letter : Char) : Option Content :=
  let d := m.date
  let c := m.clock
  match letter with
  | '%' => some (.text "%")
  | 'n' => some (.text "\n")
  | 't' => some (.text "\t")
  | 'a' => some (.name (shortName d.weekdayName))
  | 'A' => some (.name d.weekdayName)
  | 'b' | 'h' => some (.name (shortName d.monthName))
  | 'B' => some (.name d.monthName)
  | 'p' => some (.capitals c.half)
  | 'P' => some (.small c.half)
  | 'Z' => some (.text "")
  | 'z' => some .nothing
  | 'c' =>
    some (.text
      s!"{shortName d.weekdayName} {shortName d.monthName} {spaced d.day} {c.text} {d.year}")
  | 'D' | 'x' => some (.text d.slashed)
  | 'F' => some (.text s!"{d.year}-{padded 2 d.month}-{padded 2 d.day}")
  | 'r' =>
    some (.text s!"{padded 2 c.faceHour}:{padded 2 c.minute}:{padded 2 c.second} {c.half}")
  | 'R' => some (.text s!"{padded 2 c.hour}:{padded 2 c.minute}")
  | 'T' | 'X' => some (.text c.text)
  | 'C' => some (.number .zeros 1 (d.year / 100))
  | 'd' => some (.number .zeros 2 d.day)
  | 'e' => some (.number .spaces 2 d.day)
  | 'g' => some (.number .zeros 2 (d.weekYear % 100))
  | 'G' => some (.number .zeros 1 d.weekYear)
  | 'H' => some (.number .zeros 2 c.hour)
  | 'I' => some (.number .zeros 2 c.faceHour)
  | 'j' => some (.number .zeros 3 d.dayOfYear)
  | 'k' => some (.number .spaces 2 c.hour)
  | 'l' => some (.number .spaces 2 c.faceHour)
  | 'm' => some (.number .zeros 2 d.month)
  | 'M' => some (.number .zeros 2 c.minute)
  | 's' => some (.text (toString (m.milliseconds.fdiv 1000)))
  | 'S' => some (.number .zeros 2 c.second)
  | 'u' => some (.number .zeros 1 (d.weekday + 1))
  | 'U' => some (.number .zeros 2 d.sundayWeek)
  | 'V' => some (.number .zeros 2 d.weekNumber)
  | 'w' => some (.number .zeros 1 d.daysSinceSunday)
  | 'W' => some (.number .zeros 2 d.mondayWeek)
  | 'y' => some (.number .zeros 2 (d.year % 100))
  | 'Y' => some (.number .zeros 1 d.year)
  | _ => none

/-- The letters that a modifier may stand before: `E` asks for another era, `O` for other digits. There
are neither, so a modifier has no effect. -/
def allowsModifier (modifier letter : Char) : Bool :=
  if modifier == 'E' then "%cCxXyYntpPrRsTuzZ".toList.contains letter
  else "%bhBCdeHIkljMmntpPrRSsTuUVgGWwyzZ".toList.contains letter

/-! ## Directives -/

/-- A directive. -/
structure Directive where
  padding : Option Padding
  /-- in capitals -/
  capital : Bool
  /-- capitals for names, small letters for words in capitals -/
  exchanged : Bool
  width : Nat
  modifier : Option Char
  letter : Option Char
  /-- as it stands in the layout -/
  source : List Char
deriving Repr, DecidableEq

namespace Directive

/-- A percent sign. -/
def start : Directive :=
  { padding := none, capital := false, exchanged := false, width := 0, modifier := none
    letter := none, source := ['%'] }

/-- One more character of the source. -/
def take (d : Directive) (c : Char) : Directive :=
  { d with source := d.source ++ [c] }

/-- With the effect of a flag. -/
def flag? (d : Directive) : Char → Option Directive
  | '_' => some { d with padding := some .spaces }
  | '-' => some { d with padding := some .nothing }
  | '0' => some { d with padding := some .zeros }
  | '^' => some { d with capital := true }
  | '#' => some { d with exchanged := true }
  | _ => none

/-- The letter that ends a directive. -/
def readLetter (d : Directive) : List Char → Directive × List Char
  | [] => (d, [])
  | c :: rest => ({ d.take c with letter := some c }, rest)

/-- A modifier and the letter. -/
def readModifier (d : Directive) : List Char → Directive × List Char
  | c :: rest =>
    if c == 'E' || c == 'O' then ({ d.take c with modifier := some c }).readLetter rest
    else d.readLetter (c :: rest)
  | [] => d.readLetter []

/-- A width, and what follows it. -/
def readWidth (d : Directive) : List Char → Directive × List Char
  | c :: rest =>
    if c.isDigit then
      ({ d.take c with width := 10 * d.width + (c.toNat - '0'.toNat) }).readWidth rest
    else d.readModifier (c :: rest)
  | [] => d.readModifier []

/-- The flags, and what follows them: the directive, and the rest of the layout. -/
def readFlags (d : Directive) : List Char → Directive × List Char
  | c :: rest =>
    match d.flag? c with
    | some d => (d.take c).readFlags rest
    | none => d.readWidth (c :: rest)
  | [] => d.readWidth []

/-- Reading on leaves no more than there was. -/
theorem length_readLetter (d : Directive) (s : List Char) :
    (d.readLetter s).2.length ≤ s.length := by
  cases s <;> simp [readLetter]

theorem length_readModifier (d : Directive) (s : List Char) :
    (d.readModifier s).2.length ≤ s.length := by
  cases s with
  | nil => exact length_readLetter ..
  | cons c rest =>
    simp only [readModifier]
    split
    · exact Nat.le_succ_of_le (length_readLetter ..)
    · exact length_readLetter ..

theorem length_readWidth (d : Directive) (s : List Char) :
    (d.readWidth s).2.length ≤ s.length := by
  induction s generalizing d with
  | nil => exact length_readModifier ..
  | cons c rest ih =>
    simp only [readWidth]
    split
    · exact Nat.le_succ_of_le (ih _)
    · exact length_readModifier ..

theorem length_readFlags (d : Directive) (s : List Char) :
    (d.readFlags s).2.length ≤ s.length := by
  induction s generalizing d with
  | nil => exact length_readWidth ..
  | cons c rest ih =>
    simp only [readFlags]
    split
    · exact Nat.le_succ_of_le (ih _)
    · exact length_readWidth ..

/-- What a directive stands for, if it is known. -/
def content? (d : Directive) (m : Moment) : Option Content := do
  let letter ← d.letter
  match d.modifier with
  | none => Calendar.content? m letter
  | some modifier => if allowsModifier modifier letter then Calendar.content? m letter else none

/-- Filled up to the width on the left. The flag for no padding keeps nothing but an empty text as it
is. -/
def fill (d : Directive) (text : List Char) : List Char :=
  let c := if d.padding = some .zeros then '0' else ' '
  if text.isEmpty && d.padding = some .nothing then []
  else List.replicate (d.width - text.length) c ++ text

/-- A number: filled up to its digits or the width. -/
def writeNumber (d : Directive) (padding : Padding) (digits value : Nat) : List Char :=
  let ciphers := (Nat.repr value).toList
  let missing := max digits d.width - ciphers.length
  match d.padding.getD padding with
  | .zeros => List.replicate missing '0' ++ ciphers
  | .spaces => List.replicate missing ' ' ++ ciphers
  | .nothing => d.fill ciphers

/-- A letter as a capital, if that is one letter too. -/
def capitalOf (c : Char) : Char :=
  match Text.upperChar c with
  | [u] => u
  | _ => c

/-- A text in capitals if the flags say so. -/
def inCase (d : Directive) (text : List Char) : List Char :=
  if d.capital then text.map capitalOf else text

/-- A directive that is not known, as it stands. The flag that asks for a month in capitals asks for
them here too. -/
def writeSource (d : Directive) : List Char :=
  let isMonth := d.letter == some 'b' || d.letter == some 'h'
  d.fill (({ d with capital := d.capital || d.exchanged && isMonth }).inCase d.source)

/-- What a directive writes. -/
def write (d : Directive) (m : Moment) : List Char :=
  match d.content? m with
  | none => d.writeSource
  | some .nothing => []
  | some (.number padding digits value) => d.writeNumber padding digits value
  | some (.name text) =>
    d.fill (({ d with capital := d.capital || d.exchanged }).inCase text.toList)
  | some (.capitals text) =>
    d.fill (if d.exchanged then text.toList.map Char.toLower else text.toList)
  | some (.small text) => d.fill (text.toList.map Char.toLower)
  | some (.text text) => d.fill (d.inCase text.toList)

end Directive

/-! ## Layouts -/

/-- The microseconds in place of their directive, and nothing in place of the offset and the name of a
zone. Two percent signs stay. -/
def fillFraction (m : Moment) : List Char → List Char
  | '%' :: 'f' :: rest => (padded 6 m.clock.microsecond).toList ++ fillFraction m rest
  | '%' :: 'z' :: rest | '%' :: 'Z' :: rest => fillFraction m rest
  | '%' :: c :: rest => '%' :: c :: fillFraction m rest
  | c :: rest => c :: fillFraction m rest
  | [] => []

/-- All directives carried out. No width beyond `most` is heeded. -/
def carryOut (m : Moment) (most : Nat) : List Char → List Char
  | [] => []
  | c :: rest =>
    if c = '%' then
      have := Directive.length_readFlags .start rest
      let directive := (Directive.start.readFlags rest).1
      ({ directive with width := min directive.width most }).write m ++
        carryOut m most (Directive.start.readFlags rest).2
    else c :: carryOut m most rest
termination_by s => s.length
decreasing_by
  · exact Nat.lt_succ_of_le this
  · simp

/-- The room for what a layout of some length writes: 1024 characters, doubled until there are 256 for
each character of the layout. -/
def room (length : Nat) : Nat :=
  if length ≤ 4 then 1024 else 1024 * Nat.pow 2 (((length - 1) / 4).log2 + 1)

/-- A moment by a layout, which ends at a null character. What does not fit into the room for it is not
written at all. -/
def layOut (layout : String) (m : Moment) : String :=
  let filled := fillFraction m (layout.toList.takeWhile (· != '\x00'))
  let most := room filled.length
  let written := carryOut m most filled
  if written.length < most then String.ofList written else ""

end Reckon.Calendar
