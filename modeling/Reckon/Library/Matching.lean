import Reckon.Library.Parameters
import Reckon.Pattern.Template

/-!
# `Library.Matching` — functions on patterns

The pattern is read first, so what is wrong with it is reported before anything else. Patterns may
write characters by name; which names there are is given to the functions.
-/

namespace Reckon.Library

variable (named : Pattern.CharacterNames)

/-- Why a text is no pattern or template, as a failure; `what` names what was read. -/
def readFailure (what : String) : Pattern.ReadError → Failure
  | .fault f => .custom s!"invalid {what}: {f.message}"
  | .tooManyRepetitions => .broken .repetitionTooLarge
  | .conflictingAlphabets => .broken .conflictingAlphabets
  | .unknownGroup name => .broken (.unknownGroup name)

/-- A parameter that must be a pattern. -/
def patternOf (v : Value) : Except Failure Pattern := do
  match Pattern.read named (← stringOf v) with
  | .ok p => return p
  | .error e => .error (readFailure "pattern" e)

/-- A parameter that must be a text, as characters. -/
def charactersOf (v : Value) : Except Failure (Array Char) := do
  return (← stringOf v).toList.toArray

/-- The characters of a span as a value. -/
def spanValue (text : Array Char) (span : Pattern.Span) : Value :=
  .string (String.ofList (span.of text))

/-- The pattern matches somewhere. -/
def matchesSomewhere (haystack pattern : Value) : Except Failure Value := do
  let p ← patternOf named pattern
  let text ← charactersOf haystack
  return .boolean (Pattern.search p text 0 false).isSome

/-- All matches. -/
def allMatches (haystack pattern : Value) : Except Failure Value := do
  let p ← patternOf named pattern
  let text ← charactersOf haystack
  return .array ((Pattern.matchesOf p text).map fun m => spanValue text m.whole)

/-- The first match and what its groups captured. A group that captured nothing gives an empty text,
and without a match all are empty. -/
def captures (haystack pattern : Value) : Except Failure Value := do
  let p ← patternOf named pattern
  let text ← charactersOf haystack
  let found := Pattern.search p text 0 false
  return .array ((List.range (p.groupCount + 1)).map fun index =>
    match found.bind (·.group? index) with
    | some span => spanValue text span
    | none => .string "")

/-- Matches replaced as a template says; a limit of zero replaces all of them. -/
def replaceMatches (haystack pattern : Value) (replacement limit : Option Value) :
    Except Failure Value := do
  let p ← patternOf named pattern
  let count ← indexOf (← numberOr 0.0 limit)
  let replacement ← stringOr "" replacement
  let text ← charactersOf haystack
  if 0x8000000000000000 ≤ count then .error (.broken (.overflow .size))
  else
    match Pattern.readTemplate p replacement with
    | .error e => .error (readFailure "replacement" e)
    | .ok parts => return .string (String.ofList (Pattern.substitute p parts count text))

/-- The functions of this module. -/
def matching : List Callable :=
  let declare (declaration : String) (arity : Arity) (description : String)
      (body : List Value → Except Failure Value) :=
    Callable.declare declaration arity .regex description true body
  [
    declare "re_is_match(haystack: String, pattern: String): Boolean" (.exact 2)
      "True if the pattern matches anywhere" (binary (matchesSomewhere named)),
    declare "re_find(haystack: String, pattern: String): Array<String>" (.exact 2)
      "All matches of the pattern" (binary (allMatches named)),
    declare "re_capture(haystack: String, pattern: String): Array<String>" (.exact 2)
      "First match and its capture groups" (binary (captures named)),
    declare
      ("re_replace(haystack: String, pattern: String, replacement: String = '', " ++
        "limit = 0): String")
      (.withOptional 2 2) "Replaces matches of the pattern"
      (binaryOptionals (replaceMatches named))]

end Reckon.Library
