import Reckon.Pattern.Glyph

/-!
# `Pattern.Escape` — what a backslash and the character after it stand for

Escapes stand for a character, given by a letter, by its code or by its name, for a kind of
characters, for a condition on the position, or for what a group has captured. Which names
characters have is given to the reader.
-/

namespace Reckon.Pattern

/-- The code points that names stand for. -/
abbrev CharacterNames := String → Option Nat

/-- What an escape stands for. -/
inductive Escape where
  | code (n : Nat)
  | ofKind (kind : CharKind) (negated : Bool)
  | anchor (anchor : Anchor)
  | reference (digits : List Char)
deriving Repr, DecidableEq

/-- The control character of a letter. -/
def controlCode? (c : Char) : Option Nat :=
  match c with
  | 'a' => some 7
  | 'b' => some 8
  | 't' => some 9
  | 'n' => some 10
  | 'v' => some 11
  | 'f' => some 12
  | 'r' => some 13
  | '\\' => some 92
  | _ => none

/-- The kind of characters of a letter; capital letters stand for all others. -/
def kindEscape? (c : Char) : Option Escape :=
  match c with
  | 'd' => some (.ofKind .digit false)
  | 'D' => some (.ofKind .digit true)
  | 's' => some (.ofKind .space false)
  | 'S' => some (.ofKind .space true)
  | 'w' => some (.ofKind .word false)
  | 'W' => some (.ofKind .word true)
  | _ => none

/-- The condition of a letter. -/
def anchorEscape? (ascii : Bool) (c : Char) : Option Escape :=
  match c with
  | 'A' => some (.anchor .textStart)
  | 'Z' => some (.anchor .textEnd)
  | 'b' => some (.anchor (.wordEdge ascii))
  | 'B' => some (.anchor (.noWordEdge ascii))
  | _ => none

/-- An escape with the characters after it, as it is written. -/
def escapeText (c : Char) (more : List Char) : String :=
  String.ofList ('\\' :: c :: more)

/-- A character by its code in base sixteen, with exactly `count` digits. -/
def readHex (c : Char) (count : Nat) (gs : List Glyph) : Except Stop (Escape × Rest gs) := do
  let (digits, rest) ← takeChars isHex count gs
  if digits.length ≠ count then fail (.incompleteEscape (escapeText c digits)) gs 2
  else
    let n := digitsValue 16 digits
    if 0x10FFFF < n then fail (.badEscape (escapeText c digits)) gs 2
    else return (.code n, rest)

/-- A character by its name. -/
def readNamed (named : CharacterNames) (gs : List Glyph) : Except Stop (Escape × Rest gs) := do
  match ← skip? '\x7b' gs with
  | none => fail (.missing "\x7b") gs 0
  | some opened =>
    let (name, rest) ← takeName '\x7d' "character name" opened.val
    match named name with
    | some n => return (.code n, opened.within rest)
    | none => fail (.unknownCharacterName name) gs 2

/-- A character by its code in base eight, which has up to two digits after the first. -/
def readOctal (c : Char) (gs : List Glyph) : Except Stop (Escape × Rest gs) := do
  let (digits, rest) ← takeChars isOctal 2 gs
  let n := digitsValue 8 (c :: digits)
  if 0xFF < n then fail (.octalTooLarge (escapeText c digits)) gs 2
  else return (.code n, rest)

/-- Digits after a backslash: three in base eight are a code, else one or two refer to a group. -/
def readDigits (c : Char) (gs : List Glyph) : Except Stop (Escape × Rest gs) := do
  let (second, rest) ← takeChars Char.isDigit 1 gs
  if isOctal c && second.any isOctal then
    let (third, last) ← takeChars isOctal 1 rest.val
    if third.isEmpty then return (.reference (c :: second), rest)
    else
      let digits := second ++ third
      let n := digitsValue 8 (c :: digits)
      if 0xFF < n then fail (.octalTooLarge (escapeText c digits)) gs 2
      else return (.code n, rest.within last)
  else return (.reference (c :: second), rest)

/-- A character that stands for itself; letters do not. -/
def readItself (c : Char) (gs : List Glyph) : Except Stop (Escape × Rest gs) :=
  if c.isAlpha then fail (.badEscape (escapeText c [])) gs 2
  else .ok (.code c.toNat, .all gs)

/-- The codes that a letter introduces. -/
def readCode? (named : CharacterNames) (c : Char) (gs : List Glyph) :
    Option (Except Stop (Escape × Rest gs)) :=
  match c with
  | 'x' => some (readHex c 2 gs)
  | 'u' => some (readHex c 4 gs)
  | 'U' => some (readHex c 8 gs)
  | 'N' => some (readNamed named gs)
  | _ => none

/-- The escape of a character within a class; `gs` is what follows. -/
def readClassEscape (named : CharacterNames) (c : Char) (gs : List Glyph) :
    Except Stop (Escape × Rest gs) :=
  match controlCode? c, kindEscape? c, readCode? named c gs with
  | some n, _, _ => .ok (.code n, .all gs)
  | none, some e, _ => .ok (e, .all gs)
  | none, none, some r => r
  | none, none, none =>
    if isOctal c then readOctal c gs
    else if c.isDigit then fail (.badEscape (escapeText c [])) gs 2
    else readItself c gs

/-- The escape of a character outside of classes; `gs` is what follows. -/
def readEscape (named : CharacterNames) (ascii : Bool) (c : Char) (gs : List Glyph) :
    Except Stop (Escape × Rest gs) :=
  match (anchorEscape? ascii c).or (kindEscape? c), controlCode? c, readCode? named c gs with
  | some e, _, _ => .ok (e, .all gs)
  | none, some n, _ => .ok (.code n, .all gs)
  | none, none, some r => r
  | none, none, none =>
    if c == '0' then readOctal c gs
    else if c.isDigit then readDigits c gs
    else readItself c gs

end Reckon.Pattern
