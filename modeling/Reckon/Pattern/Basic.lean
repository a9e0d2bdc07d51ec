import Reckon.Text.Alphanumeric
import Reckon.Text.Blank
import Reckon.Text.Case
import Reckon.Text.Digit

/-!
# `Pattern.Basic` — regular expressions as trees

A pattern is a tree of nodes: single characters out of a class, sequences, alternatives, repetitions,
groups that capture what they match, conditions on what lies around a position, references to what a
group has captured. Modes such as ignoring letter case are settled while a pattern is read, so every
node says what it means by itself.
-/

namespace Reckon.Pattern

/-- The modes that a pattern can switch. -/
inductive Mode where
  | ignoreCase | multiline | dotAll | verbose | ascii | unicode | template
deriving Repr, DecidableEq

/-- A set of modes. -/
abbrev Modes := List Mode

namespace Mode

/-- The mode of a letter. -/
def ofLetter? (c : Char) : Option Mode :=
  match c with
  | 'i' => some ignoreCase
  | 'm' => some multiline
  | 's' => some dotAll
  | 'x' => some verbose
  | 'a' => some ascii
  | 'u' => some unicode
  | 't' => some template
  | _ => none

/-- The mode chooses the characters that the classes know; of those one holds at a time. -/
def choosesAlphabet (m : Mode) : Bool :=
  m == ascii || m == unicode

end Mode

namespace Modes

/-- Some modes switched on and some off. -/
def switch (modes on off : Modes) : Modes :=
  let kept := if on.any Mode.choosesAlphabet then modes.filter (!·.choosesAlphabet) else modes
  (kept ++ on).filter (!off.contains ·)

end Modes

/-! ## Classes of characters -/

/-- A kind of characters. -/
inductive CharKind where
  | digit | space | word
deriving Repr, DecidableEq

namespace CharKind

/-- A character is of a kind, in ASCII or everywhere. -/
def holds (kind : CharKind) (ascii : Bool) (c : Char) : Bool :=
  match kind, ascii with
  | digit, true => c.isDigit
  | digit, false => Text.isDecimalDigit c
  | space, true => c == ' ' || 9 ≤ c.toNat && c.toNat ≤ 13
  | space, false => Text.isBlank c
  | word, true => c.isAlphanum || c == '_'
  | word, false => Text.isWordChar c

end CharKind

/-- A member of a class. -/
inductive ClassItem where
  | code (n : Nat)
  | range (low high : Nat)
  | ofKind (kind : CharKind) (negated : Bool)
deriving Repr, DecidableEq

/-- A class of characters, or all others. -/
structure CharClass where
  items : List ClassItem
  negated : Bool
  ignoreCase : Bool
  ascii : Bool
deriving Repr, DecidableEq

/-- The characters that count as `c`. -/
def variants (ignoreCase ascii : Bool) (c : Char) : List Char :=
  if !ignoreCase then [c]
  else if ascii then [c, c.toLower, c.toUpper]
  else c :: Text.caseVariants c

/-- One of the characters, which count as one, is a member of a class. -/
def ClassItem.holds (item : ClassItem) (ascii : Bool) (cs : List Char) : Bool :=
  match item with
  | code n => cs.any (·.toNat == n)
  | range low high => cs.any fun c => low ≤ c.toNat && c.toNat ≤ high
  | ofKind kind negated =>
    match cs with
    | c :: _ => kind.holds ascii c != negated
    | [] => false

/-- A character is of a class. -/
def CharClass.holds (cls : CharClass) (c : Char) : Bool :=
  (cls.items.any (·.holds cls.ascii (variants cls.ignoreCase cls.ascii c))) != cls.negated

/-- The modes bear on how a class is read. -/
def CharClass.ofItems (modes : Modes) (items : List ClassItem) (negated : Bool) : CharClass :=
  { items, negated
    ignoreCase := modes.contains .ignoreCase
    ascii := modes.contains .ascii }

/-- Any character, or any but a line end. -/
def CharClass.anything (modes : Modes) : CharClass :=
  { items := if modes.contains .dotAll then [] else [.code 10]
    negated := true
    ignoreCase := false
    ascii := false }

/-! ## Nodes -/

/-- A condition on a position alone. -/
inductive Anchor where
  | textStart
  | textEnd
  /-- the end, or before a line end that ends the text -/
  | lastLineEnd
  | lineStart
  | lineEnd
  | wordEdge (ascii : Bool)
  | noWordEdge (ascii : Bool)
deriving Repr, DecidableEq

/-- How a repetition chooses among counts: as many as possible, as few as possible, or as many as
possible without giving any back. -/
inductive Greed where
  | greedy | lazy | possessive
deriving Repr, DecidableEq

/-- A pattern, or a part of one. -/
inductive Node where
  | nothing
  | one (cls : CharClass)
  | sequence (first second : Node)
  | choice (first second : Node)
  /-- `most` is absent when there is no bound -/
  | repeated (greed : Greed) (least : Nat) (most : Option Nat) (body : Node)
  /-- captures what the body matches -/
  | group (index : Nat) (body : Node)
  /-- takes the first match of the body and no other -/
  | atomic (body : Node)
  | ahead (negated : Bool) (body : Node)
  /-- looks `width` characters back; without a width the pattern is refused -/
  | behind (negated : Bool) (width : Option Nat) (body : Node)
  /-- what a group has captured, once more -/
  | reference (index : Nat) (ignoreCase ascii : Bool)
  /-- one of two parts, depending on whether a group has captured -/
  | conditional (index : Nat) (present absent : Node)
  | anchor (anchor : Anchor)
deriving Repr, DecidableEq

/-- How many characters a node can match. -/
structure Width where
  low : Nat
  high : Nat
deriving Repr, DecidableEq

namespace Width

/-- Widths from here on are not told apart. -/
def unbounded : Nat := Nat.pow 2 64

/-- No character. -/
def zero : Width := ⟨0, 0⟩

/-- Widths within the bound. -/
def cap (w : Width) : Width := ⟨min w.low unbounded, min w.high unbounded⟩

/-- The only width, if there is one. -/
def fixed? (w : Width) : Option Nat :=
  if w.low = w.high then some w.low else none

end Width

/-- How many characters a node can match, given that of the groups. -/
def Node.width (groupWidth : Nat → Width) : Node → Width
  | nothing | ahead .. | behind .. | anchor _ => .zero
  | one _ => ⟨1, 1⟩
  | sequence a b =>
    let a := width groupWidth a
    let b := width groupWidth b
    Width.cap ⟨a.low + b.low, a.high + b.high⟩
  | choice a b =>
    let a := width groupWidth a
    let b := width groupWidth b
    ⟨min a.low b.low, max a.high b.high⟩
  | repeated _ least most body =>
    let body := width groupWidth body
    Width.cap ⟨body.low * least,
      match most with
      | some most => body.high * most
      | none => if body.high = 0 then 0 else Width.unbounded⟩
  | group _ body | atomic body => width groupWidth body
  | reference index .. => groupWidth index
  | conditional _ present absent =>
    let present := width groupWidth present
    let absent := width groupWidth absent
    ⟨min present.low absent.low, max present.high absent.high⟩

end Reckon.Pattern

namespace Reckon

/-- A pattern that can be matched. -/
structure Pattern where
  root : Pattern.Node
  /-- number of groups -/
  groupCount : Nat
  /-- the numbers of the groups that have names -/
  groupNames : List (String × Nat)
deriving Repr, DecidableEq

end Reckon
