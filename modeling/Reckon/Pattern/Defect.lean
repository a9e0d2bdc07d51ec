import Reckon.Pattern.Basic
import Reckon.Text.Quoted

/-!
# `Pattern.Defect` — what can be wrong with a pattern or a template

A defect is reported with its position, and with line and column when there is more than one line. The
few defects of the whole have no position.
-/

namespace Reckon.Pattern

/-- What is wrong with a pattern or a template. -/
inductive Defect where
  | danglingBackslash
  | badEscape (text : String)
  | incompleteEscape (text : String)
  | octalTooLarge (text : String)
  | missing (what : String)
  | unterminatedName (mark : Char)
  | unknownCharacterName (name : String)
  | openGroup
  | groupInLookbehind
  | noSuchGroup (index : Nat)
  | unterminatedClass
  | badRange (first last : String)
  | reversedBounds
  | nothingToRepeat
  | multipleRepeat
  | unexpectedEnd
  | badGroupName (name : String)
  | unknownGroupName (name : String)
  | repeatedGroupName (name : String) (index earlier : Nat)
  | unknownExtension (text : String)
  | unterminatedComment
  | unterminatedGroup
  | badGroupNumber
  | thirdBranch
  | modesNotAtStart
  | byteMode
  | twoAlphabets
  | unknownMode
  | wholeModeOn
  | wholeModeOff
  | alphabetOff
  | modeOnAndOff
  | unbalancedParenthesis
  | widthOfLookbehind
  | repetitionInTemplate (greed : Greed)
deriving Repr, DecidableEq

/-- The name of a kind of repetition. -/
def Greed.name : Greed → String
  | greedy => "MAX_REPEAT"
  | lazy => "MIN_REPEAT"
  | possessive => "POSSESSIVE_REPEAT"

namespace Defect

/-- A defect in words. -/
def message : Defect → String
  | danglingBackslash => "bad escape (end of pattern)"
  | badEscape text => s!"bad escape {text}"
  | incompleteEscape text => s!"incomplete escape {text}"
  | octalTooLarge text => s!"octal escape value {text} outside of range 0-0o377"
  | missing what => s!"missing {what}"
  | unterminatedName mark => s!"missing {mark}, unterminated name"
  | unknownCharacterName name => s!"undefined character name {Text.quote name}"
  | openGroup => "cannot refer to an open group"
  | groupInLookbehind =>
    "cannot refer to group defined in the same lookbehind subpattern"
  | noSuchGroup index => s!"invalid group reference {index}"
  | unterminatedClass => "unterminated character set"
  | badRange first last => s!"bad character range {first}-{last}"
  | reversedBounds => "min repeat greater than max repeat"
  | nothingToRepeat => "nothing to repeat"
  | multipleRepeat => "multiple repeat"
  | unexpectedEnd => "unexpected end of pattern"
  | badGroupName name => s!"bad character in group name {Text.quote name}"
  | unknownGroupName name => s!"unknown group name {Text.quote name}"
  | repeatedGroupName name index earlier =>
    s!"redefinition of group name {Text.quote name} as group {index}; was group {earlier}"
  | unknownExtension text => s!"unknown extension ?{text}"
  | unterminatedComment => "missing ), unterminated comment"
  | unterminatedGroup => "missing ), unterminated subpattern"
  | badGroupNumber => "bad group number"
  | thirdBranch => "conditional backref with more than two branches"
  | modesNotAtStart => "global flags not at the start of the expression"
  | byteMode => "bad inline flags: cannot use 'L' flag with a str pattern"
  | twoAlphabets => "bad inline flags: flags 'a', 'u' and 'L' are incompatible"
  | unknownMode => "unknown flag"
  | wholeModeOn => "bad inline flags: cannot turn on global flag"
  | wholeModeOff => "bad inline flags: cannot turn off global flag"
  | alphabetOff => "bad inline flags: cannot turn off flags 'a', 'u' and 'L'"
  | modeOnAndOff => "bad inline flags: flag turned on and off"
  | unbalancedParenthesis => "unbalanced parenthesis"
  | widthOfLookbehind => "look-behind requires fixed-width pattern"
  | repetitionInTemplate greed => s!"internal: unsupported template operator {greed.name}"

end Defect

/-- Where in a text something is. -/
structure Place where
  position : Nat
  /-- line and column, when the text has more than one line -/
  line : Option (Nat × Nat)
deriving Repr, DecidableEq

namespace Place

/-- The place where `left` characters of a text are left. -/
def locate (text : List Char) (left : Nat) : Place :=
  let position := text.length - left
  let before := text.take position
  { position
    line :=
      if text.contains '\n' then
        some (before.count '\n' + 1, (before.reverse.takeWhile (· != '\n')).length + 1)
      else none }

/-- A place in words. -/
def describe (p : Place) : String :=
  match p.line with
  | some (line, column) => s!" at position {p.position} (line {line}, column {column})"
  | none => s!" at position {p.position}"

end Place

/-- A defect, and its place if it has one. -/
structure Fault where
  what : Defect
  place : Option Place
deriving Repr, DecidableEq

/-- A defect and its place in words. -/
def Fault.message (f : Fault) : String :=
  f.what.message ++ (match f.place with | some p => p.describe | none => "")

end Reckon.Pattern
