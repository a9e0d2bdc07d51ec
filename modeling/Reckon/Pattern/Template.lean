import Reckon.Number.Numeral
import Reckon.Pattern.Escape
import Reckon.Pattern.Match
import Reckon.Pattern.Parser
import Reckon.Text.Identifier

/-!
# `Pattern.Template` — what matches are replaced by

A template is text with references to groups: a backslash and a number, or `\g` and a name or number
between angle brackets. A group that captured nothing leaves nothing. `substitute` replaces the
matches in a text.
-/

namespace Reckon.Pattern

/-- A part of a template. -/
inductive TemplatePart where
  | text (cs : List Char)
  | group (index : Nat)
deriving Repr, DecidableEq

/-- A reference to a group that must exist; `gs` is left, `before` characters after the reference. -/
def templateGroup (p : Pattern) (index : Nat) (gs : List Glyph) (before : Nat) :
    Except Stop TemplatePart :=
  if p.groupCount < index then fail (.noSuchGroup index) gs before
  else .ok (.group index)

/-- After `\g`. -/
def readGroupName (p : Pattern) (gs : List Glyph) : Except Stop (TemplatePart × Rest gs) := do
  match ← skip? '<' gs with
  | none => fail (.missing "<") gs 0
  | some opened =>
    let (name, after) ← takeName '>' "group name" opened.val
    let rest := opened.within after
    if Text.isIdentifier name.toList then
      match p.groupNames.find? (·.1 == name) with
      | some (_, index) => return (.group index, rest)
      | none => .error (.unknownName name)
    else
      match Number.integer? name with
      | some (.ofNat index) =>
        if mostGroups ≤ index then fail (.noSuchGroup index) rest.val (name.length + 1)
        else return (← templateGroup p index rest.val (name.length + 1), rest)
      | _ => fail (.badGroupName name) rest.val (name.length + 1)

/-- The part of an escape; `gs` follows the escaped character. -/
def readTemplateEscape (p : Pattern) (c : Char) (gs : List Glyph) :
    Except Stop (TemplatePart × Rest gs) :=
  if c == 'g' then readGroupName p gs
  else if c == '0' then do
    let (digits, rest) ← takeChars isOctal 2 gs
    return (.text [Char.ofNat (digitsValue 8 (c :: digits) % 256)], rest)
  else if c.isDigit then do
    let (escape, rest) ← readDigits c gs
    match escape with
    | .code n => return (.text [Char.ofNat n], rest)
    | .reference digits =>
      return (← templateGroup p (digitsValue 10 digits) rest.val digits.length, rest)
    | _ => fail (.badEscape (escapeText c [])) gs 2
  else
    match controlCode? c with
    | some n => .ok (.text [Char.ofNat n], .all gs)
    | none =>
      if c.isAlpha then fail (.badEscape (escapeText c [])) gs 2
      else .ok (.text ['\\', c], .all gs)

/-- The parts of a template. -/
def readParts (p : Pattern) (gs : List Glyph) : Except Stop (List TemplatePart) :=
  match gs with
  | [] => .ok []
  | g :: rest => do
    settled rest
    match g with
    | .plain c => return .text [c] :: (← readParts p rest)
    | .escaped c =>
      let (part, after) ← readTemplateEscape p c rest
      return part :: (← readParts p after.val)
    | .dangling => .error (.defect .danglingBackslash 1)
termination_by gs.length
decreasing_by
  · simp
  · have := after.property
    simp
    omega

/-- The parts of a template, from its first glyph on. -/
def readAllParts (p : Pattern) (gs : List Glyph) : Except Stop (List TemplatePart) := do
  settled gs
  readParts p gs

/-- The template that a text spells. -/
def readTemplate (p : Pattern) (text : String) : Except ReadError (List TemplatePart) :=
  let cs := text.toList
  match readAllParts p (Glyph.scan cs) with
  | .ok parts => .ok parts
  | .error stop => .error (stop.toError cs)

/-- What a match is replaced by. -/
def expand (text : Array Char) (parts : List TemplatePart) (m : PatternMatch) : List Char :=
  parts.flatMap fun part =>
    match part with
    | .text cs => cs
    | .group index =>
      match m.group? index with
      | some span => span.of text
      | none => []

/-- The text from a position on with matches replaced. -/
def substituteFrom (text : Array Char) (parts : List TemplatePart) (position : Nat) :
    List PatternMatch → List Char
  | [] => (text.extract position text.size).toList
  | m :: rest =>
    (text.extract position m.whole.start).toList ++ expand text parts m ++
      substituteFrom text parts m.whole.stop rest

/-- A text with the first matches replaced, up to `count` of them, or all of them for zero. -/
def substitute (p : Pattern) (parts : List TemplatePart) (count : Nat) (text : Array Char) :
    List Char :=
  let found := matchesOf p text
  substituteFrom text parts 0 (if count = 0 then found else found.take count)

end Reckon.Pattern
