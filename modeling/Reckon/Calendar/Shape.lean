import Reckon.Number.Format
import Reckon.Text.Case
import Reckon.Text.Digit

/-!
# `Calendar.Shape` — what the parts of a written date look like

A shape describes texts, as a small pattern does. It can end in several places of a text; they are
tried in order, and the first with which all that follows can be read is taken.

  * `Shape.ends` — what a shape takes from the start of a text, in order of preference
  * `Shape.source` — the shape written as a pattern
-/

namespace Reckon.Calendar

/-- The characters are the same but for letter case. -/
def agree (c d : Char) : Bool :=
  c == d || (Text.caseVariants d).contains c

/-- A shape of texts. -/
inductive Shape where
  | mark (c : Char)
  /-- in this case of letters alone -/
  | exactly (c : Char)
  | range (first last : Char)
  /-- a digit of any script -/
  | digit
  /-- a plus or a minus -/
  | sign
  | word (w : List Char)
  | seq (first second : Shape)
  | either (first second : Shape)
  /-- a mark or nothing -/
  | maybeMark (c : Char)
  /-- the body or nothing -/
  | maybe (body : Shape)
  /-- one to six digits of a fraction, of any script or not -/
  | fraction (anyScript : Bool)
deriving Repr, DecidableEq

namespace Shape

/-- Takes the first character if it is right. -/
def takeOne (right : Char → Bool) : List Char → List (List Char × List Char)
  | c :: rest => if right c then [([c], rest)] else []
  | [] => []

/-- Takes a word. -/
def takeWord : List Char → List Char → List (List Char × List Char)
  | [], s => [([], s)]
  | c :: w, d :: s =>
    if agree c d then (takeWord w s).map fun e => (d :: e.1, e.2) else []
  | _ :: _, [] => []

/-- Takes from one character up to `most` of them while they are right, as many as possible first. -/
def takeSome (right : Char → Bool) (most : Nat) (s : List Char) : List (List Char × List Char) :=
  let run := (s.take most).takeWhile right
  (List.range run.length).reverse.map fun i => (s.take (i + 1), s.drop (i + 1))

/-- What a shape can take from the start of a text, and what that leaves, in order of preference. -/
def ends : Shape → List Char → List (List Char × List Char)
  | mark c, s => takeOne (agree c) s
  | exactly c, s => takeOne (· == c) s
  | range first last, s => takeOne (fun c => first ≤ c && c ≤ last) s
  | digit, s => takeOne Text.isDecimalDigit s
  | sign, s => takeOne (fun c => c == '+' || c == '-') s
  | word w, s => takeWord w s
  | seq first second, s =>
    (first.ends s).flatMap fun e => (second.ends e.2).map fun f => (e.1 ++ f.1, f.2)
  | either first second, s => first.ends s ++ second.ends s
  | maybeMark c, s => takeOne (agree c) s ++ [([], s)]
  | maybe body, s => body.ends s ++ [([], s)]
  | fraction true, s => takeSome Text.isDecimalDigit 6 s
  | fraction false, s => takeSome Char.isDigit 6 s

/-- The characters that have a meaning in patterns, so that a backslash stands before them. -/
def isSpecial (c : Char) : Bool :=
  "\\.^$*+?()\x7b\x7d[]|".toList.contains c

/-- A character written in a pattern. -/
def markSource (c : Char) : List Char :=
  if isSpecial c then ['\\', c] else [c]

/-- A shape written as a pattern. -/
def source : Shape → List Char
  | mark c => markSource c
  | exactly c => "(?-i:".toList ++ markSource c ++ [')']
  | range first last => ['[', first, '-', last, ']']
  | digit => "\\d".toList
  | sign => "[+-]".toList
  | word w => w.flatMap markSource
  | seq first second => first.source ++ second.source
  | either first second => first.source ++ '|' :: second.source
  | maybeMark c => markSource c ++ ['?']
  | maybe body => '(' :: body.source ++ ")?".toList
  | fraction true => "\\d\x7b1,6\x7d".toList
  | fraction false => "[0-9]\x7b1,6\x7d".toList

/-- The number of groups that the pattern of a shape has. -/
def groups : Shape → Nat
  | seq first second | either first second => first.groups + second.groups
  | maybe body => body.groups + 1
  | _ => 0

/-! ## Building shapes -/

/-- Shapes one after the other. -/
def all : List Shape → Shape
  | [] => word []
  | [s] => s
  | s :: rest => seq s (all rest)

/-- Shapes of which one is taken, the first that fits if it can be. -/
def oneOf : List Shape → Shape
  | [] => word []
  | [s] => s
  | s :: rest => either s (oneOf rest)

/-- Some digits of any script. -/
def digits (count : Nat) : Shape :=
  all (List.replicate count digit)

/-- A mark with a digit in a range after it. -/
def markRange (c first last : Char) : Shape :=
  seq (mark c) (range first last)

/-- A digit in a range with any digit after it. -/
def rangeDigit (first last : Char) : Shape :=
  seq (range first last) digit

/-- One of some words. -/
def words (ws : List String) : Shape :=
  oneOf (ws.map fun w => word w.toList)

end Shape

end Reckon.Calendar
