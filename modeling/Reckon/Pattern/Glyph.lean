import Reckon.Pattern.Defect

/-!
# `Pattern.Glyph` — the units that patterns and templates are read in

A glyph is a character, or a backslash with the character after it. A backslash at the very end
escapes nothing; it is a fault as soon as the glyph before it has been taken.

A reader takes glyphs off the front and returns what is left over, with the proof that it is no more
than there was; a fault is reported with the number of characters that were left when it was met.
-/

namespace Reckon.Pattern

/-- A character, alone or after a backslash. -/
inductive Glyph where
  | plain (c : Char)
  | escaped (c : Char)
  /-- a backslash at the end -/
  | dangling
deriving Repr, DecidableEq

namespace Glyph

/-- A glyph as it is written. -/
def text : Glyph → List Char
  | plain c => [c]
  | escaped c => ['\\', c]
  | dangling => ['\\']

/-- The glyphs of a text. -/
def scan : List Char → List Glyph
  | [] => []
  | ['\\'] => [dangling]
  | '\\' :: c :: rest => escaped c :: scan rest
  | c :: rest => plain c :: scan rest

/-- Number of characters in glyphs. -/
def size : List Glyph → Nat
  | [] => 0
  | g :: rest => g.text.length + size rest

/-- Glyphs as they are written. -/
def spell (gs : List Glyph) : String :=
  String.ofList (gs.flatMap text)

end Glyph

/-- Why a reader stops. -/
inductive Stop where
  /-- a defect, with so many characters left -/
  | defect (what : Defect) (left : Nat)
  /-- a repetition with a count that is not to be had -/
  | tooManyRepetitions
  /-- a replacement refers to a name that no group has -/
  | unknownName (name : String)
deriving Repr, DecidableEq

/-- No more glyphs than `gs`. -/
abbrev Rest (gs : List Glyph) := { rest : List Glyph // rest.length ≤ gs.length }

/-- All glyphs are left. -/
def Rest.all (gs : List Glyph) : Rest gs := ⟨gs, Nat.le_refl _⟩

/-- What is left of what is left. -/
def Rest.within {gs : List Glyph} (outer : Rest gs) (inner : Rest outer.val) : Rest gs :=
  ⟨inner.val, Nat.le_trans inner.property outer.property⟩

/-- What is left when a glyph is in front of it. -/
def Rest.behind {g : Glyph} {gs : List Glyph} (rest : Rest gs) : Rest (g :: gs) :=
  ⟨rest.val, Nat.le_succ_of_le rest.property⟩

/-- No backslash alone is in front. -/
def settled (gs : List Glyph) : Except Stop Unit :=
  match gs with
  | .dangling :: _ => .error (.defect .danglingBackslash 1)
  | _ => .ok ()

/-- Report a defect where `gs` is left, or `before` characters earlier. -/
def fail {α : Type} (what : Defect) (gs : List Glyph) (before : Nat) : Except Stop α :=
  .error (.defect what (Glyph.size gs + before))

/-- Up to `most` characters of a kind. -/
def span (p : Char → Bool) : Nat → (gs : List Glyph) → List Char × Rest gs
  | most + 1, .plain c :: rest =>
    if p c then
      let (cs, after) := span p most rest
      (c :: cs, after.behind)
    else ([], .all _)
  | _, gs => ([], .all gs)

/-- Up to `most` characters of a kind, and no backslash alone after them. -/
def takeChars (p : Char → Bool) (most : Nat) (gs : List Glyph) :
    Except Stop (List Char × Rest gs) := do
  let (cs, rest) := span p most gs
  settled rest.val
  return (cs, rest)

/-- Pass over a mark, if it is there. -/
def skip? (mark : Char) (gs : List Glyph) : Except Stop (Option (Rest gs)) :=
  match gs with
  | .plain c :: rest =>
    if c == mark then do
      settled rest
      return some (Rest.all rest).behind
    else .ok none
  | _ => .ok none

/-- A name up to a mark, which is passed over. -/
def takeName (mark : Char) (what : String) (gs : List Glyph) :
    Except Stop (String × Rest gs) :=
  let inside := gs.takeWhile (· != .plain mark)
  match h : gs.dropWhile (· != .plain mark) with
  | [] =>
    if gs.contains .dangling then .error (.defect .danglingBackslash 1)
    else if inside.isEmpty then fail (.missing what) [] 0
    else fail (.unterminatedName mark) [] (Glyph.size inside)
  | _ :: rest => do
    settled rest
    if inside.isEmpty then fail (.missing what) rest 1
    else
      return (Glyph.spell inside, ⟨rest, by
        have := (List.dropWhile_suffix (· != Glyph.plain mark) (l := gs)).length_le
        rw [h] at this
        simp at this
        omega⟩)

/-! ## Digits and numbers -/

/-- The value of a digit, in base sixteen or less. -/
def valueOfDigit (c : Char) : Nat :=
  if c.isDigit then c.toNat - '0'.toNat else c.toLower.toNat - 'a'.toNat + 10

/-- The value of digits in a base. -/
def digitsValue (base : Nat) (digits : List Char) : Nat :=
  digits.foldl (fun n c => base * n + valueOfDigit c) 0

/-- A digit in base eight. -/
def isOctal (c : Char) : Bool :=
  '0' ≤ c && c ≤ '7'

/-- A digit in base sixteen. -/
def isHex (c : Char) : Bool :=
  c.isDigit || 'a' ≤ c && c ≤ 'f' || 'A' ≤ c && c ≤ 'F'

/-- The greatest number that may stand for a group. -/
def mostGroups : Nat := Nat.pow 2 30 - 1

end Reckon.Pattern
