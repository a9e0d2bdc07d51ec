import Reckon.Text.Blank
import Reckon.Text.Case

/-!
# `Settings` — the options of the pipeline

Each option may be set by a variable of the surroundings: `1`, `true`, `yes` and `on` in any letter
case, with blanks around them, switch it on, any other text switches it off, and a blank text leaves
the default.
-/

namespace Reckon

/-- The options of the pipeline. -/
structure Settings where
  /-- make conditionals before evaluating -/
  optimize : Bool
  /-- also fold constants -/
  foldConstants : Bool
  /-- look over the references before evaluating -/
  validate : Bool
  /-- positions in texts start at zero -/
  zeroBasedStrings : Bool
deriving Repr, DecidableEq

namespace Settings

/-- The options in ordinary use. -/
def standard : Settings where
  optimize := true
  foldConstants := false
  validate := false
  zeroBasedStrings := false

/-- Where positions in texts start. -/
def firstPosition (s : Settings) : Nat :=
  if s.zeroBasedStrings then 0 else 1

/-- The meaning of a text as a switch. -/
def switch (text : Option String) (otherwise : Bool) : Bool :=
  match text with
  | none => otherwise
  | some text =>
    let word := Text.trim text.toList
    if word.isEmpty then otherwise
    else ["1", "true", "yes", "on"].contains (Text.lower (String.ofList word))

/-- The variables of the surroundings that set options. -/
def variableNames : List String :=
  ["SLAC_OPTIMIZE", "SLAC_FOLD_CONSTANTS", "SLAC_VALIDATE", "SLAC_ZERO_BASED_STRINGS"]

/-- The options that the variables of the surroundings set. -/
def ofSurroundings (lookup : String → Option String) : Settings where
  optimize := switch (lookup "SLAC_OPTIMIZE") standard.optimize
  foldConstants := switch (lookup "SLAC_FOLD_CONSTANTS") standard.foldConstants
  validate := switch (lookup "SLAC_VALIDATE") standard.validate
  zeroBasedStrings := switch (lookup "SLAC_ZERO_BASED_STRINGS") standard.zeroBasedStrings

end Settings

end Reckon
