import Reckon.Calendar.Reading
import Reckon.Number.Overflow

/-!
# `Yaml.Token` — the pieces of a YAML text

Version 1.1 of the format. Where a block begins and ends, and what is a key, is told by tokens of
their own, which have no characters.
-/

namespace Reckon.Yaml

/-- A datum that has the form of its kind but does not exist. -/
inductive Flaw where
  /-- no whole number in a base -/
  | noWhole (base : Nat) (digits : String)
  | noReal (digits : String)
  /-- a number without characters -/
  | noCharacters
  | noTruth (word : String)
  | noTimestamp
  | tooManyDigits (count : Nat)
  /-- a whole number of too many digits that is to be a name -/
  | notWritable
  | noCharacter
  | moment (cause : Calendar.ReadingError)
deriving Repr, DecidableEq

namespace Flaw

/-- What is wrong, in words. -/
def message : Flaw → String
  | noWhole base digits =>
    s!"invalid literal for int() with base {base}: {Text.quote digits}"
  | noReal digits => s!"could not convert string to float: {Text.quote digits}"
  | noCharacters => "string index out of range"
  | noTruth word => Text.quote word
  | noTimestamp => "'NoneType' object has no attribute 'groupdict'"
  | tooManyDigits count => Number.tooManyDigitsMessage count
  | notWritable => Number.notWritableMessage
  | noCharacter => "chr() arg not in range(0x110000)"
  | moment cause => cause.message

end Flaw

/-- Why a text has no datum. -/
inductive ReadError where
  /-- the text is not in the format, or asks for a kind of data that is not known -/
  | malformed
  /-- the text nests too deeply -/
  | tooDeep
  /-- a whole number that no number is near to -/
  | integerTooLarge
  | flawed (flaw : Flaw)
deriving Repr, DecidableEq

/-- A directive before a document. -/
inductive Directive where
  | version (major minor : Nat)
  | handle (handle start : String)
  | other
deriving Repr, DecidableEq

/-- A piece of a text. -/
inductive Token where
  | directive (d : Directive)
  | documentStart
  | documentEnd
  | blockSequenceStart
  | blockMappingStart
  | blockEnd
  | flowSequenceStart
  | flowMappingStart
  | flowSequenceEnd
  | flowMappingEnd
  | blockEntry
  | flowEntry
  | key
  | value
  | alias (name : String)
  | anchor (name : String)
  /-- without a handle the suffix is the whole tag -/
  | tag (handle : Option String) (suffix : String)
  /-- `plain` without quotes -/
  | scalar (text : String) (plain : Bool)
deriving Repr, DecidableEq

/-! ## Characters -/

/-- A character that a text may hold. -/
def isPermitted (c : Char) : Bool :=
  let n := c.toNat
  n == 9 || n == 10 || n == 13 || 0x20 ≤ n && n ≤ 0x7E || n == 0x85 || 0xA0 ≤ n && n ≤ 0xD7FF ||
    0xE000 ≤ n && n ≤ 0xFFFD || 0x10000 ≤ n

/-- A character that ends a line. -/
def isBreak (c : Char) : Bool :=
  c == '\n' || c == '\r' || c == '\u0085' || c == '\u2028' || c == '\u2029'

/-- A space or a tabulator. -/
def isBlank (c : Char) : Bool :=
  c == ' ' || c == '\t'

/-- The line ends here, or a blank comes. -/
def atGap (s : List Char) : Bool :=
  s.head?.all fun c => isBreak c || isBlank c

/-- The line ends here, or a space comes. -/
def atSpace (s : List Char) : Bool :=
  s.head?.all fun c => isBreak c || c == ' '

/-- The line break that a text starts with, as it counts in scalars, and what follows it. -/
def takeBreak? : List Char → Option (Char × List Char)
  | '\r' :: '\n' :: rest => some ('\n', rest)
  | c :: rest =>
    if c == '\u2028' || c == '\u2029' then some (c, rest)
    else if isBreak c then some ('\n', rest)
    else none
  | [] => none

/-- A mark of three characters that separates documents stands here, if this is the start of a
line. -/
def atSeparator (s : List Char) : Bool :=
  (s.take 3 == ['-', '-', '-'] || s.take 3 == ['.', '.', '.']) && atGap (s.drop 3)

/-- A character of a name or a handle. -/
def isNameChar (c : Char) : Bool :=
  c.isAlphanum || c == '-' || c == '_'

/-- A character of base sixteen. -/
def isHex (c : Char) : Bool :=
  c.isDigit || 'a' ≤ c && c ≤ 'f' || 'A' ≤ c && c ≤ 'F'

/-- The number that characters of base sixteen spell. -/
def numberOfHex (cs : List Char) : Nat :=
  cs.foldl
    (fun n c =>
      16 * n +
        (if c.isDigit then c.toNat - '0'.toNat else c.toLower.toNat - 'a'.toNat + 10))
    0

/-- Comments end with the line. -/
def dropComment (s : List Char) : List Char :=
  if s.head? = some '#' then s.dropWhile (!isBreak ·) else s

/-- Without the spaces at the start. -/
def dropSpaces (s : List Char) : List Char :=
  s.dropWhile (· == ' ')

/-- The end of a line that may hold spaces and a comment. -/
def endLine (s : List Char) : Except ReadError (List Char) :=
  let s := dropComment (dropSpaces s)
  match takeBreak? s with
  | some (_, rest) => .ok rest
  | none => if s.isEmpty then .ok [] else .error .malformed

end Reckon.Yaml
