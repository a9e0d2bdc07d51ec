import Reckon.Text.CodePoints

/-!
# `Text.Blank` — white space, and cutting it off

Blank are the tabulators and line ends, the four information separators, the space and the spaces of
the general punctuation, the no-break spaces, and the line and paragraph separators.
-/

namespace Reckon.Text

/-- Every blank character. -/
def blanks : CodePoints := ⟨#[
  (0x9, 0xD), (0x1C, 0x20), (0x85, 0x85), (0xA0, 0xA0), (0x1680, 0x1680),
  (0x2000, 0x200A), (0x2028, 0x2029), (0x202F, 0x202F), (0x205F, 0x205F), (0x3000, 0x3000)]⟩

/-- White space. -/
def isBlank (c : Char) : Bool :=
  blanks.contains c

/-- The text without the blanks it starts with. -/
def trimStart (s : List Char) : List Char :=
  s.dropWhile isBlank

/-- The text without the blanks it ends with. -/
def trimEnd (s : List Char) : List Char :=
  (s.reverse.dropWhile isBlank).reverse

/-- The text without the blanks around it. -/
def trim (s : List Char) : List Char :=
  trimEnd (trimStart s)

end Reckon.Text
