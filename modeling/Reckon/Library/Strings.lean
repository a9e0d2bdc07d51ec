import Reckon.Library.Parameters
import Reckon.Text.Case
import Reckon.Text.Search

/-!
# `Library.Strings` — functions on texts
-/

namespace Reckon.Library

/-- A function of one text. -/
def textual (f : String → String) : List Value → Except Failure Value :=
  unary fun v => do return .string (f (← stringOf v))

/-- The character of an ASCII code. -/
def characterOf (code : Value) : Except Failure Value := do
  let x ← numberOf code
  if 0.0 ≤ x && x < 127.0 then
    return .string (String.singleton (Char.ofNat ((Number.wholePart? x).getD 0).toNat))
  else .error (.custom "number is out of ASCII range")

/-- The ASCII code of a character. -/
def codeOf (char : Value) : Except Failure Value := do
  match (← stringOf char).toList with
  | [c] =>
    if c.val < 128 then return natural c.toNat
    else .error (.custom "character is out of ASCII range")
  | _ => .error (.custom "string is too long")

/-- Two texts are equal but for letter case. -/
def sameText (left right : Value) : Except Failure Value := do
  let left ← stringOf left
  let right ← stringOf right
  return .boolean (Text.lower left == Text.lower right)

/-- Texts as a list of values. -/
def stringList (texts : List (List Char)) : Value :=
  .array (texts.map fun text => .string (String.ofList text))

/-- The parts of a text between separators. -/
def split (line separator : Value) : Except Failure Value := do
  let separator ← stringOf separator
  if separator.isEmpty then .error (.custom "separator must not be empty")
  else return stringList (Text.splitOn separator.toList (← stringOf line).toList)

/-- Read a line of separated fields: `current` holds the field so far, the last character first.
Double quotes switch quoting on and off and are dropped; within them a separator has no meaning. -/
def fieldsFrom (isSeparator : Char → Bool) (quoted : Bool) (current : List Char) :
    List Char → List (List Char)
  | [] => [current.reverse]
  | c :: rest =>
    if isSeparator c && !quoted then current.reverse :: fieldsFrom isSeparator quoted [] rest
    else if c == '"' then fieldsFrom isSeparator (!quoted) current rest
    else fieldsFrom isSeparator quoted (c :: current) rest

/-- The fields of a line. Only a separator of one character separates. -/
def parseFields (line separator : List Char) : List (List Char) :=
  fieldsFrom (fun c => [c] == separator) false [] line

/-- The fields of a line; anything but a single character leaves the semicolon as separator. -/
def splitFields (line : Value) (separator : Option Value) : Except Failure Value := do
  let separator :=
    match separator with
    | some (.string s) => if s.length = 1 then s else ";"
    | _ => ";"
  return stringList (parseFields (← stringOf line).toList separator.toList)

/-- The functions of this module. -/
def strings : List Callable :=
  let declare (declaration : String) (arity : Arity) (description : String)
      (body : List Value → Except Failure Value) :=
    Callable.declare declaration arity .string description true body
  [
    declare "chr(ord: Number): String" (.exact 1) "ASCII character of a code" (unary characterOf),
    declare "ord(char: String): Number" (.exact 1) "ASCII code of a character" (unary codeOf),
    declare "lowercase(text: String): String" (.exact 1) "Converts to lowercase"
      (textual Text.lower),
    declare "uppercase(text: String): String" (.exact 1) "Converts to uppercase"
      (textual Text.upper),
    declare "same_text(left: String, right: String): Boolean" (.exact 2)
      "Case-insensitive equality" (binary sameText),
    declare "split(line: String, separator: String): Array<String>" (.exact 2)
      "Splits a string at every separator" (binary split),
    declare "split_csv(line: String, separator: String = ';'): Array<String>" (.withOptional 1 1)
      "Splits a CSV line honoring double quotes" (unaryOptional splitFields),
    declare "trim(text: String): String" (.exact 1) "Removes surrounding whitespace"
      (textual fun s => String.ofList (Text.trim s.toList)),
    declare "trim_left(text: String): String" (.exact 1) "Removes leading whitespace"
      (textual fun s => String.ofList (Text.trimStart s.toList)),
    declare "trim_right(text: String): String" (.exact 1) "Removes trailing whitespace"
      (textual fun s => String.ofList (Text.trimEnd s.toList))]

end Reckon.Library
