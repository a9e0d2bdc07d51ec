import Reckon.Pattern.Glyph
import Reckon.Text.Letter

/-!
# `Pattern.Modes` — switching modes within a pattern

After `(?` letters switch modes on and, after a hyphen, off. A closing parenthesis ends the switch for
the whole pattern, a colon begins the part that it holds for.
-/

namespace Reckon.Pattern

/-- A switch of modes. -/
inductive ModeSwitch where
  | whole (on : Modes)
  | part (on off : Modes)
deriving Repr, DecidableEq

/-- A letter that stands for a mode; one of them stands for a mode that texts do not have. -/
def isModeLetter (c : Char) : Bool :=
  (Mode.ofLetter? c).isSome || c == 'L'

/-- A glyph that is no mode stands where one of `expected` should. -/
def failAtMode {α : Type} (expected : String) (g : Glyph) (rest : List Glyph) : Except Stop α :=
  let unknown : Bool :=
    match g with
    | .plain c => Text.isLetter c
    | _ => false
  fail (if unknown then .unknownMode else .missing expected) rest g.text.length

/-- Modes to switch on, from the letter `c` up to the mark that ends them. -/
def readModesOn (c : Char) (on : Modes) (gs : List Glyph) :
    Except Stop (Modes × Char × Rest gs) :=
  match Mode.ofLetter? c with
  | none => fail .byteMode gs 0
  | some mode =>
    let on := on ++ [mode]
    if mode.choosesAlphabet && on.any (fun m => m.choosesAlphabet && m != mode) then
      fail .twoAlphabets gs 0
    else
      match gs with
      | [] => fail (.missing "-, : or )") [] 0
      | g :: rest => do
        settled rest
        match g with
        | .plain c =>
          if c == ')' || c == '-' || c == ':' then return (on, c, (Rest.all rest).behind)
          else if isModeLetter c then
            let (all, mark, after) ← readModesOn c on rest
            return (all, mark, after.behind)
          else failAtMode "-, : or )" g rest
        | g => failAtMode "-, : or )" g rest

/-- Modes to switch off, from the letter `c` up to the colon. -/
def readModesOff (c : Char) (off : Modes) (gs : List Glyph) : Except Stop (Modes × Rest gs) :=
  match Mode.ofLetter? c with
  | none => fail .alphabetOff gs 0
  | some mode =>
    if mode.choosesAlphabet then fail .alphabetOff gs 0
    else
      match gs with
      | [] => fail (.missing ":") [] 0
      | g :: rest => do
        settled rest
        match g with
        | .plain c =>
          if c == ':' then return (off ++ [mode], (Rest.all rest).behind)
          else if isModeLetter c then
            let (all, after) ← readModesOff c (off ++ [mode]) rest
            return (all, after.behind)
          else failAtMode ":" g rest
        | g => failAtMode ":" g rest

/-- After the hyphen of a switch. -/
def readOffPart (on : Modes) (gs : List Glyph) : Except Stop (ModeSwitch × Rest gs) :=
  match gs with
  | [] => fail (.missing "flag") [] 0
  | g :: rest => do
    settled rest
    match g with
    | .plain c =>
      if isModeLetter c then
        let (off, after) ← readModesOff c [] rest
        if off.contains .template then fail .wholeModeOff after.val 1
        else if on.any off.contains then fail .modeOnAndOff after.val 1
        else return (.part on off, after.behind)
      else failAtMode "flag" g rest
    | g => failAtMode "flag" g rest

/-- A switch that starts with the character `c`, a letter of a mode or a hyphen. -/
def readSwitch (c : Char) (gs : List Glyph) : Except Stop (ModeSwitch × Rest gs) := do
  if c == '-' then readOffPart [] gs
  else
    let (on, mark, after) ← readModesOn c [] gs
    if mark == ')' then return (.whole on, after)
    else if on.contains .template then fail .wholeModeOn after.val 1
    else if mark == '-' then
      let (switch, last) ← readOffPart on after.val
      return (switch, after.within last)
    else return (.part on [], after)

end Reckon.Pattern
