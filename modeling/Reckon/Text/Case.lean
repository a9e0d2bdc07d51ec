import Reckon.Text.CaseTable

/-!
# `Text.Case` — full case mapping of texts

Lower case goes character by character, except that a capital sigma at the end of a word becomes a
final sigma and a dotted capital I becomes an `i` with a combining dot. Upper case may lengthen a
text. Two characters are the same letter when their lower cases agree, or the upper cases of these.
-/

namespace Reckon.Text

/-- The lower case of one character as one character. -/
def lowerChar (c : Char) : Char :=
  if c.val < 128 then c.toLower
  else
    match lowerShifts.find? (·.covers c.toNat) with
    | some shift => Char.ofNat (shift.apply c.toNat)
    | none => c

/-- The upper case of one character. -/
def upperChar (c : Char) : List Char :=
  if c.val < 128 then [c.toUpper]
  else
    match upperExpansions.find? (·.1 == c.toNat) with
    | some (_, images) => images.map Char.ofNat
    | none =>
      match upperShifts.find? (·.covers c.toNat) with
      | some shift => [Char.ofNat (shift.apply c.toNat)]
      | none => [c]

/-- A cased letter stands first, once the ignorable characters are passed over. -/
def leadsToCased (s : List Char) : Bool :=
  match s.dropWhile caseIgnorables.contains with
  | [] => false
  | c :: _ => casedLetters.contains c

/-- Lower case of a text; `before` holds what was passed, nearest first. -/
def lowerFrom (before : List Char) : List Char → List Char
  | [] => []
  | c :: rest =>
    let image :=
      if c == 'Σ' then
        if leadsToCased before && !leadsToCased rest then ['ς'] else ['σ']
      else if c == 'İ' then ['i', '\u0307']
      else [lowerChar c]
    image ++ lowerFrom (c :: before) rest

/-- The text in lower case. -/
def lower (s : String) : String :=
  String.ofList (lowerFrom [] s.toList)

/-- The text in upper case. -/
def upper (s : String) : String :=
  String.ofList (s.toList.flatMap upperChar)

/-- The text with one form for letters that differ in case at most: the lower case of the upper case.
The dotless i is a letter of its own. -/
def foldCase (s : String) : String :=
  String.ofList (s.toList.flatMap fun c =>
    if c == 'ı' then [c] else (upperChar c).map lowerChar)

/-- Every character that differs from `c` in letter case at most. -/
def caseVariants (c : Char) : List Char :=
  let base := lowerChar c
  let capital := upperChar base
  let siblings : List Char :=
    match capital with
    | [u] =>
      u :: (upperShifts.toList.filterMap (·.preimage? u.toNat)).map Char.ofNat
    | _ =>
      (upperExpansions.toList.filter fun e => e.2.map Char.ofNat == capital).map
        fun e => Char.ofNat e.1
  let lowers := base :: (siblings.map lowerChar).filter fun k => upperChar k == capital
  lowers ++ lowers.flatMap fun k =>
    (lowerShifts.toList.filterMap (·.preimage? k.toNat)).map Char.ofNat

end Reckon.Text
