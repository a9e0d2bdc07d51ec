import Reckon.Pattern.Basic

/-!
# `Pattern.Match` — matching by trying

A node is run at a spot, which is a position with what the groups have captured, and hands every spot
where it may end to its continuation, best first. The first spot that the continuation accepts is the
answer; so a choice that leads nowhere is taken back, with all that was captured after it.

Of one text, `search` finds the first match from a position on, and `matches` all of them, left to
right and without overlap. A match may be empty; right after an empty match the next one must not be.
-/

namespace Reckon.Pattern

/-- A part of a text, from a position up to another. -/
structure Span where
  start : Nat
  stop : Nat
deriving Repr, DecidableEq

/-- A position, and what the groups have captured so far. -/
structure Spot where
  position : Nat
  captured : List (Nat × Span)
deriving Repr, DecidableEq

namespace Spot

/-- What a group has captured last. -/
def group? (s : Spot) (index : Nat) : Option Span :=
  (s.captured.find? (·.1 == index)).map (·.2)

/-- A group captures. -/
def capture (s : Spot) (index start : Nat) : Spot :=
  { s with
    captured := (index, ⟨start, s.position⟩) :: s.captured.filter (·.1 != index) }

/-- The next position. -/
def step (s : Spot) : Spot :=
  { s with position := s.position + 1 }

end Spot

/-- A way on: what is to be matched after a node. -/
abbrev Onward := Spot → Option Spot

/-- A matcher hands its ends to the way on. -/
abbrev Matcher := Onward → Spot → Option Spot

/-! ## Anchors and references -/

/-- The character at a position counts as part of a word. -/
def isWordAt (text : Array Char) (ascii : Bool) (position : Nat) : Bool :=
  match text[position]? with
  | some c => CharKind.word.holds ascii c
  | none => false

/-- Exactly one of the characters around a position is part of a word. -/
def isEdge (text : Array Char) (ascii : Bool) (position : Nat) : Bool :=
  (0 < position && isWordAt text ascii (position - 1)) != isWordAt text ascii position

/-- The condition on a position holds. In an empty text there are no places within words. -/
def Anchor.holds (text : Array Char) (position : Nat) : Anchor → Bool
  | textStart => position == 0
  | textEnd => position == text.size
  | lastLineEnd =>
    position == text.size || position + 1 == text.size && text[position]? == some '\n'
  | lineStart => position == 0 || text[position - 1]? == some '\n'
  | lineEnd => position == text.size || text[position]? == some '\n'
  | wordEdge ascii => isEdge text ascii position
  | noWordEdge ascii => 0 < text.size && !isEdge text ascii position

/-- Two characters are the same in a reference. -/
def sameInReference (ignoreCase ascii : Bool) (c d : Char) : Bool :=
  if !ignoreCase then c == d
  else if ascii then c.toLower == d.toLower
  else Text.lowerChar c == Text.lowerChar d

/-- What a span holds stands also at a position. -/
def standsAt (text : Array Char) (ignoreCase ascii : Bool) (span : Span) (position : Nat) : Bool :=
  (List.range (span.stop - span.start)).all fun i =>
    match text[span.start + i]?, text[position + i]? with
    | some c, some d => sameInReference ignoreCase ascii c d
    | _, _ => false

/-! ## Repetitions -/

/-- A bound allows one more. -/
def allows (most : Option Nat) (count : Nat) : Bool :=
  match most with
  | none => true
  | some most => count < most

/-- One more, up to `fuel` times, before the way on. `last` is where the last free iteration began: an
iteration that does not move is the last. -/
def runGreedy (body : Matcher) (least : Nat) (most : Option Nat) (onward : Onward) :
    (fuel count : Nat) → (last : Option Nat) → Spot → Option Spot
  | 0, _, _, _ => none
  | fuel + 1, count, last, s =>
    if count < least then body (runGreedy body least most onward fuel (count + 1) last) s
    else if allows most count && last != some s.position then
      (body (runGreedy body least most onward fuel (count + 1) (some s.position)) s).or (onward s)
    else onward s

/-- The way on before one more, up to `fuel` times. -/
def runLazy (body : Matcher) (least : Nat) (most : Option Nat) (onward : Onward) :
    (fuel count : Nat) → (last : Option Nat) → Spot → Option Spot
  | 0, _, _, _ => none
  | fuel + 1, count, last, s =>
    if count < least then body (runLazy body least most onward fuel (count + 1) last) s
    else
      match onward s with
      | some answer => some answer
      | none =>
        if allows most count && last != some s.position then
          body (runLazy body least most onward fuel (count + 1) (some s.position)) s
        else none

/-- One more, up to `fuel` times, each in its first way alone. -/
def runPossessive (body : Matcher) (least : Nat) (most : Option Nat) :
    (fuel count : Nat) → (last : Option Nat) → Spot → Option Spot
  | 0, _, _, _ => none
  | fuel + 1, count, last, s =>
    if count < least then
      match body some s with
      | some next => runPossessive body least most fuel (count + 1) last next
      | none => none
    else if allows most count && last != some s.position then
      match body some s with
      | some next => runPossessive body least most fuel (count + 1) (some s.position) next
      | none => some s
    else some s

/-- A repetition. No more iterations are possible than must be, and one for each character that is
left, and one that does not move. -/
def runRepeated (text : Array Char) (greed : Greed) (least : Nat) (most : Option Nat)
    (body : Matcher) (onward : Onward) (s : Spot) : Option Spot :=
  let fuel := least + (text.size - s.position) + 2
  match greed with
  | .greedy => runGreedy body least most onward fuel 0 none s
  | .lazy => runLazy body least most onward fuel 0 none s
  | .possessive => (runPossessive body least most fuel 0 none s).bind onward

/-! ## Nodes -/

/-- Match a node, and after it the way on. -/
def Node.run (text : Array Char) : Node → Matcher
  | nothing, onward, s => onward s
  | one cls, onward, s =>
    match text[s.position]? with
    | some c => if cls.holds c then onward s.step else none
    | none => none
  | sequence first second, onward, s => first.run text (second.run text onward) s
  | choice first second, onward, s => (first.run text onward s).or (second.run text onward s)
  | repeated greed least most body, onward, s =>
    runRepeated text greed least most (body.run text) onward s
  | group index body, onward, s =>
    body.run text (fun t => onward (t.capture index s.position)) s
  | atomic body, onward, s => (body.run text some s).bind onward
  | ahead false body, onward, s =>
    (body.run text some s).bind fun t => onward { t with position := s.position }
  | ahead true body, onward, s =>
    match body.run text some s with
    | some _ => none
    | none => onward s
  | behind _ none _, _, _ => none
  | behind false (some width) body, onward, s =>
    if s.position < width then none
    else
      (body.run text some { s with position := s.position - width }).bind fun t =>
        onward { t with position := s.position }
  | behind true (some width) body, onward, s =>
    if s.position < width then onward s
    else
      match body.run text some { s with position := s.position - width } with
      | some _ => none
      | none => onward s
  | reference index ignoreCase ascii, onward, s =>
    match s.group? index with
    | none => none
    | some span =>
      if standsAt text ignoreCase ascii span s.position then
        onward { s with position := s.position + (span.stop - span.start) }
      else none
  | conditional index present absent, onward, s =>
    match s.group? index with
    | some _ => present.run text onward s
    | none => absent.run text onward s
  | anchor a, onward, s => if a.holds text s.position then onward s else none

end Reckon.Pattern

namespace Reckon

/-- A match: the part of the text, and what the groups captured. -/
structure PatternMatch where
  whole : Pattern.Span
  captured : List (Nat × Pattern.Span)
deriving Repr, DecidableEq

namespace PatternMatch

/-- What a group captured; group zero is the whole match. -/
def group? (m : PatternMatch) (index : Nat) : Option Pattern.Span :=
  if index = 0 then some m.whole else (m.captured.find? (·.1 == index)).map (·.2)

end PatternMatch

namespace Pattern

/-- The characters of a span. -/
def Span.of (text : Array Char) (span : Span) : List Char :=
  (text.extract span.start span.stop).toList

/-- The match that starts at a position, which must not be empty if `moving`. -/
def matchAt? (p : Pattern) (text : Array Char) (start : Nat) (moving : Bool) :
    Option PatternMatch :=
  (p.root.run text (fun t => if moving && t.position == start then none else some t)
    ⟨start, []⟩).map fun t => ⟨⟨start, t.position⟩, t.captured⟩

/-- The first match at one of `count` positions from `start` on. -/
def searchFrom (p : Pattern) (text : Array Char) (start : Nat) : (count : Nat) →
    Option PatternMatch
  | 0 => none
  | count + 1 => (matchAt? p text start false).or (searchFrom p text (start + 1) count)

/-- The first match from a position on; at the position itself it must not be empty if `moving`. -/
def search (p : Pattern) (text : Array Char) (start : Nat) (moving : Bool) :
    Option PatternMatch :=
  if text.size < start then none
  else
    (matchAt? p text start moving).or (searchFrom p text (start + 1) (text.size - start))

/-- The matches from a position on, up to `fuel` of them. -/
def matchesFrom (p : Pattern) (text : Array Char) :
    (fuel start : Nat) → (moving : Bool) → List PatternMatch
  | 0, _, _ => []
  | fuel + 1, start, moving =>
    match search p text start moving with
    | none => []
    | some m => m :: matchesFrom p text fuel m.whole.stop (m.whole.stop == m.whole.start)

/-- All matches. At every position at most one starts that is empty and one that is not. -/
def matchesOf (p : Pattern) (text : Array Char) : List PatternMatch :=
  matchesFrom p text (2 * text.size + 2) 0 false

end Pattern

end Reckon
