import Reckon.Number.Numeral
import Reckon.Pattern.Class
import Reckon.Pattern.Modes
import Reckon.Text.Identifier

/-!
# `Pattern.Parser` — patterns from text

A pattern is read from left to right: alternatives of sequences of pieces, each of which may be
repeated. Groups are numbered in the order of their opening parentheses; what refers to a group must
stand after its end. Modes hold from where they are switched on.

Every function returns the glyphs it left over, with the proof that they are no more than there were;
that is why the recursion ends.
-/

namespace Reckon.Pattern

/-- What is known of the groups while a pattern is read. -/
structure Groups where
  /-- the widths of the groups in order; none while a group is open -/
  widths : List (Option Width)
  names : List (String × Nat)
  /-- the groups that conditions ask for by number, and what is left at each -/
  asked : List (Nat × Nat)
  /-- the modes of the whole pattern -/
  modes : Modes

namespace Groups

/-- No groups and no modes. -/
def empty : Groups := ⟨[], [], [], []⟩

/-- The number of the next group. -/
def next (groups : Groups) : Nat :=
  groups.widths.length + 1

/-- The group with a number is complete. -/
def isClosed (groups : Groups) (index : Nat) : Bool :=
  match index with
  | 0 => false
  | n + 1 => ((groups.widths[n]?).getD none).isSome

/-- The width of a complete group. -/
def width (groups : Groups) (index : Nat) : Width :=
  match index with
  | 0 => .zero
  | n + 1 => ((groups.widths[n]?).getD none).getD .zero

/-- The number of the group with a name. -/
def number? (groups : Groups) (name : String) : Option Nat :=
  (groups.names.find? (·.1 == name)).map (·.2)

/-- A group begins. -/
def begin (groups : Groups) (name : Option String) : Groups :=
  { groups with
    widths := groups.widths ++ [none]
    names :=
      match name with
      | some name => groups.names ++ [(name, groups.next)]
      | none => groups.names }

/-- A group ends. -/
def finish (groups : Groups) (index : Nat) (body : Node) : Groups :=
  { groups with widths := groups.widths.set (index - 1) (some (body.width groups.width)) }

/-- A condition asks for a group by number. -/
def ask (groups : Groups) (index left : Nat) : Groups :=
  if groups.asked.any (·.1 == index) then groups
  else { groups with asked := groups.asked ++ [(index, left)] }

end Groups

/-- What holds where something is read. -/
structure Context where
  named : CharacterNames
  modes : Modes
  /-- the first group that a look back must not refer to -/
  lookbehind : Option Nat
  /-- the alternatives are those of the whole pattern -/
  outermost : Bool

namespace Context

/-- Inside of parentheses. -/
def inner (ctx : Context) : Context :=
  { ctx with outermost := false }

/-- Inside of a look back. -/
def looking (ctx : Context) (behind : Bool) (groups : Groups) : Context :=
  if behind && ctx.lookbehind.isNone then { ctx.inner with lookbehind := some groups.next }
  else ctx.inner

end Context

/-- How a piece may be repeated. -/
inductive Standing where
  | repeatable | anchor | repeated
deriving Repr, DecidableEq

/-- A node that stands in a sequence. -/
structure Piece where
  node : Node
  standing : Standing

namespace Piece

/-- A piece that may be repeated. -/
def plain (node : Node) : Piece := ⟨node, .repeatable⟩

/-- The node of a sequence, given with the last piece first. -/
def join (pieces : List Piece) : Node :=
  match pieces with
  | [] => .nothing
  | last :: before => before.foldl (fun node p => .sequence p.node node) last.node

end Piece

/-- A character as a node. -/
def Node.ofCode (modes : Modes) (n : Nat) : Node :=
  .one (.ofItems modes [.code n] false)

/-- A group that is referred to must be complete, and must not belong to the same look back; `gs` is
what is left after the reference. -/
def checkLookbehind (ctx : Context) (groups : Groups) (index : Nat) (gs : List Glyph) :
    Except Stop Unit :=
  match ctx.lookbehind with
  | none => .ok ()
  | some first =>
    if !groups.isClosed index then fail .openGroup gs 0
    else if first ≤ index then fail .groupInLookbehind gs 0
    else .ok ()

/-- A reference as a node. -/
def Node.ofReference (ctx : Context) (index : Nat) : Node :=
  .reference index (ctx.modes.contains .ignoreCase) (ctx.modes.contains .ascii)

/-! ## Pieces without parentheses -/

/-- The piece of an escape; `gs` follows the escaped character. -/
def readEscapedPiece (ctx : Context) (groups : Groups) (c : Char) (gs : List Glyph) :
    Except Stop (Piece × Rest gs) := do
  let (escape, rest) ← readEscape ctx.named (ctx.modes.contains .ascii) c gs
  match escape with
  | .code n => return (.plain (.ofCode ctx.modes n), rest)
  | .ofKind kind negated =>
    return (.plain (.one (.ofItems ctx.modes [.ofKind kind negated] false)), rest)
  | .anchor a => return (⟨.anchor a, .anchor⟩, rest)
  | .reference digits =>
    let index := digitsValue 10 digits
    if groups.next ≤ index then fail (.noSuchGroup index) rest.val digits.length
    else if !groups.isClosed index then fail .openGroup gs 2
    else
      checkLookbehind ctx groups index rest.val
      return (.plain (.ofReference ctx index), rest)

/-- The piece of a class; `gs` follows the opening bracket. -/
def readClassPiece (ctx : Context) (gs : List Glyph) : Except Stop (Piece × Rest gs) := do
  let opening := Glyph.size gs + 1
  match ← skip? '^' gs with
  | some inside =>
    let (items, rest) ← readMembers ctx.named opening [] inside.val
    return (.plain (.one (.ofItems ctx.modes items true)), inside.within rest)
  | none =>
    let (items, rest) ← readMembers ctx.named opening [] gs
    return (.plain (.one (.ofItems ctx.modes items false)), rest)

/-- The least count that is too large for a repetition. -/
def countLimit : Nat := Nat.pow 2 32 - 1

/-- The bounds of a repetition. -/
structure Bounds where
  least : Nat
  most : Option Nat

/-- Bounds from the digits in braces; an absent least count is zero, an absent most count is none.
`gs` follows the opening brace. -/
def boundsOf (low high : List Char) (gs : List Glyph) : Except Stop Bounds :=
  let least := digitsValue 10 low
  let most := digitsValue 10 high
  if countLimit ≤ least then .error .tooManyRepetitions
  else if high.isEmpty then .ok ⟨least, none⟩
  else if countLimit ≤ most then .error .tooManyRepetitions
  else if most < least then fail .reversedBounds gs 0
  else .ok ⟨least, some most⟩

/-- The bounds in braces, unless the brace stands for itself; `gs` follows it. -/
def readBraces (gs : List Glyph) : Except Stop (Option (Bounds × Rest gs)) :=
  let (low, afterLow) := span Char.isDigit gs.length gs
  let (high, closing) : List Char × Rest gs :=
    match h : afterLow.val with
    | .plain ',' :: rest =>
      let (high, afterHigh) := span Char.isDigit gs.length rest
      (high, ⟨afterHigh.val, by
        have := afterHigh.property
        have := afterLow.property
        rw [h] at this
        simp at this
        omega⟩)
    | _ => (low, afterLow)
  if low.isEmpty && afterLow.val.head? = some (.plain '\x7d') then .ok none
  else
    match h : closing.val with
    | .plain '\x7d' :: rest => do
      settled rest
      let bounds ← boundsOf low high gs
      return some (bounds, ⟨rest, by
        have := closing.property
        rw [h] at this
        simp at this
        omega⟩)
    | _ => .ok none

/-- The bounds that a mark of repetition stands for, unless it stands for itself; `gs` follows it. -/
def readBounds (c : Char) (gs : List Glyph) : Except Stop (Option (Bounds × Rest gs)) :=
  match c with
  | '?' => .ok (some (⟨0, some 1⟩, .all gs))
  | '*' => .ok (some (⟨0, none⟩, .all gs))
  | '+' => .ok (some (⟨1, none⟩, .all gs))
  | _ => readBraces gs

/-- The mark after the bounds that says how a repetition chooses. -/
def readGreed (gs : List Glyph) : Except Stop (Greed × Rest gs) := do
  match ← skip? '?' gs with
  | some rest => return (.lazy, rest)
  | none =>
    match ← skip? '+' gs with
    | some rest => return (.possessive, rest)
    | none => return (.greedy, .all gs)

/-- The pieces after a mark of repetition, which repeats the last one; `gs` follows the mark. -/
def readRepetition (ctx : Context) (pieces : List Piece) (c : Char) (gs : List Glyph) :
    Except Stop (List Piece × Rest gs) := do
  match ← readBounds c gs with
  | none => return (.plain (.ofCode ctx.modes c.toNat) :: pieces, .all gs)
  | some (bounds, rest) =>
    match pieces with
    | ⟨node, .repeatable⟩ :: before =>
      let (greed, last) ← readGreed rest.val
      return (⟨.repeated greed bounds.least bounds.most node, .repeated⟩ :: before,
        rest.within last)
    | ⟨_, .repeated⟩ :: _ => fail .multipleRepeat gs 1
    | _ => fail .nothingToRepeat gs 1

/-! ## Parentheses -/

/-- What stands after an opening parenthesis. -/
inductive Opening where
  /-- nothing, or a name: a group that captures -/
  | capture (name : Option String)
  | plain
  | atomic
  | look (behind negated : Bool)
  /-- a condition on a group -/
  | condition (index : Nat)
  | switch (s : ModeSwitch)
  /-- a complete reference to a group by name -/
  | reference (index : Nat)
  | comment

/-- The name of a group must be an identifier; `gs` follows the mark after it. -/
def checkName (name : String) (gs : List Glyph) : Except Stop Unit :=
  if Text.isIdentifier name.toList then .ok ()
  else fail (.badGroupName name) gs (name.length + 1)

/-- The group with a name; `gs` follows the mark after it. -/
def numberOf (groups : Groups) (name : String) (gs : List Glyph) : Except Stop Nat :=
  match groups.number? name with
  | some index => .ok index
  | none => fail (.unknownGroupName name) gs (name.length + 1)

/-- After `(?P`. -/
def readNamedOpening (ctx : Context) (groups : Groups) (gs : List Glyph) :
    Except Stop (Opening × Groups × Rest gs) := do
  match ← skip? '<' gs with
  | some inside =>
    let (name, rest) ← takeName '>' "group name" inside.val
    checkName name rest.val
    match groups.number? name with
    | some earlier =>
      fail (.repeatedGroupName name groups.next earlier) rest.val (name.length + 1)
    | none => return (.capture (some name), groups, inside.within rest)
  | none =>
    match ← skip? '=' gs with
    | some inside =>
      let (name, rest) ← takeName ')' "group name" inside.val
      checkName name rest.val
      let index ← numberOf groups name rest.val
      if !groups.isClosed index then fail .openGroup rest.val (name.length + 1)
      else
        checkLookbehind ctx groups index rest.val
        return (.reference index, groups, inside.within rest)
    | none =>
      match gs with
      | [] => fail .unexpectedEnd [] 0
      | g :: rest => do
        settled rest
        fail (.unknownExtension ("P" ++ String.ofList g.text)) rest (g.text.length + 2)

/-- The number of the group that a condition asks for, by name or by number; `gs` follows the closing
parenthesis. -/
def conditionGroup (groups : Groups) (name : String) (gs : List Glyph) :
    Except Stop (Nat × Groups) :=
  if Text.isIdentifier name.toList then do return (← numberOf groups name gs, groups)
  else
    match Number.integer? name with
    | some (.ofNat index) =>
      if index = 0 then fail .badGroupNumber gs (name.length + 1)
      else if mostGroups ≤ index then fail (.noSuchGroup index) gs (name.length + 1)
      else .ok (index, groups.ask index (Glyph.size gs + name.length + 1))
    | _ => fail (.badGroupName name) gs (name.length + 1)

/-- After `(?<`. -/
def readLookbehind (gs : List Glyph) : Except Stop (Opening × Rest gs) :=
  match gs with
  | [] => fail .unexpectedEnd [] 0
  | g :: rest => do
    settled rest
    if g = .plain '=' then return (.look true false, (Rest.all rest).behind)
    else if g = .plain '!' then return (.look true true, (Rest.all rest).behind)
    else fail (.unknownExtension ("<" ++ String.ofList g.text)) rest (g.text.length + 2)

/-- After `(?#`. `opening` is the number of characters from the parenthesis on. -/
def skipComment (opening : Nat) (gs : List Glyph) : Except Stop (Rest gs) :=
  match h : gs.dropWhile (· != .plain ')') with
  | [] =>
    if gs.contains .dangling then .error (.defect .danglingBackslash 1)
    else .error (.defect .unterminatedComment opening)
  | _ :: rest => do
    settled rest
    return ⟨rest, by
      have := (List.dropWhile_suffix (· != Glyph.plain ')') (l := gs)).length_le
      rw [h] at this
      simp at this
      omega⟩

/-- After `(?`. `opening` is the number of characters from the parenthesis on. -/
def readExtension (opening : Nat) (ctx : Context) (groups : Groups) (gs : List Glyph) :
    Except Stop (Opening × Groups × Rest gs) :=
  match gs with
  | [] => fail .unexpectedEnd [] 0
  | g :: rest => do
    settled rest
    let here : Rest (g :: rest) := (Rest.all rest).behind
    match g with
    | .plain 'P' =>
      let (o, groups, after) ← readNamedOpening ctx groups rest
      return (o, groups, after.behind)
    | .plain ':' => return (.plain, groups, here)
    | .plain '#' => return (.comment, groups, (← skipComment opening rest).behind)
    | .plain '=' => return (.look false false, groups, here)
    | .plain '!' => return (.look false true, groups, here)
    | .plain '<' =>
      let (o, after) ← readLookbehind rest
      return (o, groups, after.behind)
    | .plain '(' =>
      let (name, after) ← takeName ')' "group name" rest
      let (index, groups) ← conditionGroup groups name after.val
      checkLookbehind ctx groups index after.val
      return (.condition index, groups, after.behind)
    | .plain '>' => return (.atomic, groups, here)
    | g =>
      match g with
      | .plain c =>
        if isModeLetter c || c == '-' then
          let (s, after) ← readSwitch c rest
          return (.switch s, groups, after.behind)
        else fail (.unknownExtension (String.ofList g.text)) rest (g.text.length + 1)
      | g => fail (.unknownExtension (String.ofList g.text)) rest (g.text.length + 1)

/-- After an opening parenthesis. -/
def readOpening (ctx : Context) (groups : Groups) (gs : List Glyph) :
    Except Stop (Opening × Groups × Rest gs) := do
  match ← skip? '?' gs with
  | none => return (.capture none, groups, .all gs)
  | some inside =>
    let (o, groups, rest) ← readExtension (Glyph.size gs + 1) ctx groups inside.val
    return (o, groups, inside.within rest)

/-- The closing parenthesis of what began `opening` characters before the end. -/
def closeGroup (opening : Nat) (gs : List Glyph) : Except Stop (Rest gs) := do
  match ← skip? ')' gs with
  | some rest => return rest
  | none => .error (.defect .unterminatedGroup opening)

/-- In verbose patterns blanks separate, and a number sign starts a comment to the end of the line. -/
def skipVerbose? (modes : Modes) (g : Glyph) (rest : List Glyph) :
    Except Stop (Option (Rest rest)) :=
  if !modes.contains .verbose then .ok none
  else
    match g with
    | .plain '#' =>
      match h : rest.dropWhile (· != .plain '\n') with
      | [] =>
        if rest.contains .dangling then .error (.defect .danglingBackslash 1)
        else .ok (some ⟨[], by simp⟩)
      | _ :: after => do
        settled after
        return some ⟨after, by
          have := (List.dropWhile_suffix (· != Glyph.plain '\n') (l := rest)).length_le
          rw [h] at this
          simp at this
          omega⟩
    | .plain c => .ok (if CharKind.space.holds true c then some (.all rest) else none)
    | _ => .ok none

/-! ## Sequences and alternatives -/

mutual

/-- Alternatives, up to a closing parenthesis or the end. -/
def readAlternatives (ctx : Context) (groups : Groups) (gs : List Glyph) :
    Except Stop (Node × Groups × Rest gs) := do
  let (node, groups, rest) ← readSequence ctx ctx.outermost groups [] gs
  let ctx := if ctx.outermost then { ctx with modes := groups.modes } else ctx
  let (all, groups, last) ← readMoreAlternatives ctx groups node rest.val
  return (all, groups, rest.within last)
termination_by (gs.length, 2)
decreasing_by
  · exact Prod.Lex.right _ (by omega)
  · have := rest.property
    rcases Nat.lt_or_eq_of_le this with h | h
    · exact Prod.Lex.left _ _ h
    · rw [h]
      exact Prod.Lex.right _ (by omega)

/-- The alternatives after the first, if a bar follows. -/
def readMoreAlternatives (ctx : Context) (groups : Groups) (node : Node) (gs : List Glyph) :
    Except Stop (Node × Groups × Rest gs) :=
  match gs with
  | .plain '|' :: rest => do
    settled rest
    let (second, groups, after) ← readSequence ctx false groups [] rest
    let (more, groups, last) ← readMoreAlternatives ctx groups second after.val
    return (.choice node more, groups, (after.within last).behind)
  | gs => .ok (node, groups, .all gs)
termination_by (gs.length, 0)
decreasing_by
  · exact Prod.Lex.left _ _ (by simp)
  · exact Prod.Lex.left _ _ (by have := after.property; simp; omega)

/-- A sequence of pieces; `pieces` are those before, the last first. Switching modes for the whole
pattern is allowed as long as `first` holds and there are no pieces. -/
def readSequence (ctx : Context) (first : Bool) (groups : Groups) (pieces : List Piece)
    (gs : List Glyph) : Except Stop (Node × Groups × Rest gs) :=
  match gs with
  | [] => .ok (Piece.join pieces, groups, .all [])
  | g :: rest =>
    if g = .plain '|' || g = .plain ')' then .ok (Piece.join pieces, groups, .all (g :: rest))
    else do
      settled rest
      match ← skipVerbose? ctx.modes g rest with
      | some after =>
        let (node, groups, last) ← readSequence ctx first groups pieces after.val
        return (node, groups, (after.within last).behind)
      | none =>
        match g with
        | .escaped c =>
          let (piece, after) ← readEscapedPiece ctx groups c rest
          let (node, groups, last) ← readSequence ctx first groups (piece :: pieces) after.val
          return (node, groups, (after.within last).behind)
        | .plain '[' =>
          let (piece, after) ← readClassPiece ctx rest
          let (node, groups, last) ← readSequence ctx first groups (piece :: pieces) after.val
          return (node, groups, (after.within last).behind)
        | .plain '(' =>
          let (opening, groups, inside) ← readOpening ctx groups rest
          let (added, modes, groups, after) ←
            readParenthesis ctx (first && pieces.isEmpty) (Glyph.size rest + 1) opening groups
              inside.val
          let (node, groups, last) ←
            readSequence { ctx with modes } first groups (added ++ pieces) after.val
          return (node, groups, ((inside.within after).within last).behind)
        | .plain c =>
          if c == '?' || c == '*' || c == '+' || c == '\x7b' then
            let (pieces, after) ← readRepetition ctx pieces c rest
            let (node, groups, last) ← readSequence ctx first groups pieces after.val
            return (node, groups, (after.within last).behind)
          else
            let piece : Piece :=
              if c == '.' then .plain (.one (.anything ctx.modes))
              else if c == '^' then
                ⟨.anchor (if ctx.modes.contains .multiline then .lineStart else .textStart),
                  .anchor⟩
              else if c == '$' then
                ⟨.anchor (if ctx.modes.contains .multiline then .lineEnd else .lastLineEnd),
                  .anchor⟩
              else .plain (.ofCode ctx.modes c.toNat)
            let (node, groups, last) ← readSequence ctx first groups (piece :: pieces) rest
            return (node, groups, last.behind)
        | .dangling => .error (.defect .danglingBackslash 1)
termination_by (gs.length, 1)
decreasing_by
  · exact Prod.Lex.left _ _ (by have := after.property; simp; omega)
  · exact Prod.Lex.left _ _ (by have := after.property; simp; omega)
  · exact Prod.Lex.left _ _ (by have := after.property; simp; omega)
  · exact Prod.Lex.left _ _ (by have := inside.property; simp; omega)
  · exact Prod.Lex.left _ _ (by
      have := inside.property; have := after.property; simp; omega)
  · exact Prod.Lex.left _ _ (by have := after.property; simp; omega)
  · exact Prod.Lex.left _ _ (by simp)

/-- What an opening parenthesis adds to a sequence, and the modes that hold after it; `gs` follows
the opening, which began `start` characters before the end. -/
def readParenthesis (ctx : Context) (atStart : Bool) (start : Nat) (opening : Opening)
    (groups : Groups) (gs : List Glyph) :
    Except Stop (List Piece × Modes × Groups × Rest gs) :=
  match opening with
  | .comment => .ok ([], ctx.modes, groups, .all gs)
  | .reference index => .ok ([.plain (.ofReference ctx index)], ctx.modes, groups, .all gs)
  | .switch (.whole on) =>
    if atStart then
      let modes := groups.modes ++ on
      .ok ([], modes, { groups with modes }, .all gs)
    else .error (.defect .modesNotAtStart start)
  | .condition index => do
    let (present, groups, rest) ← readSequence ctx.inner false groups [] gs
    match _h : rest.val with
    | .plain '|' :: second =>
      settled second
      let (absent, groups, after) ← readSequence ctx.inner false groups [] second
      if after.val.head? = some (.plain '|') then fail .thirdBranch after.val 0
      else
        let last ← closeGroup start after.val
        return ([.plain (.conditional index present absent)], ctx.modes, groups, ⟨last.val, by
          have := rest.property
          have := after.property
          have := last.property
          rw [_h] at *
          simp at *
          omega⟩)
    | other =>
      let last ← closeGroup start other
      return ([.plain (.conditional index present .nothing)], ctx.modes, groups, ⟨last.val, by
        have := rest.property
        have := last.property
        simp_all
        omega⟩)
  | .look behind negated => do
    let (body, groups, rest) ← readAlternatives (ctx.looking behind groups) groups gs
    let last ← closeGroup start rest.val
    let node : Node :=
      if behind then .behind negated (body.width groups.width).fixed? body
      else .ahead negated body
    return ([.plain node], ctx.modes, groups, rest.within last)
  | .capture name => do
    let index := groups.next
    let (body, groups, rest) ← readAlternatives ctx.inner (groups.begin name) gs
    let last ← closeGroup start rest.val
    return ([.plain (.group index body)], ctx.modes, groups.finish index body, rest.within last)
  | .plain => do
    let (body, groups, rest) ← readAlternatives ctx.inner groups gs
    let last ← closeGroup start rest.val
    return ([.plain body], ctx.modes, groups, rest.within last)
  | .atomic => do
    let (body, groups, rest) ← readAlternatives ctx.inner groups gs
    let last ← closeGroup start rest.val
    return ([.plain (.atomic body)], ctx.modes, groups, rest.within last)
  | .switch (.part on off) => do
    let (body, groups, rest) ←
      readAlternatives { ctx.inner with modes := ctx.modes.switch on off } groups gs
    let last ← closeGroup start rest.val
    return ([.plain body], ctx.modes, groups, rest.within last)
termination_by (gs.length, 3)
decreasing_by
  all_goals first
    | exact Prod.Lex.right _ (by omega)
    | exact Prod.Lex.left _ _ (by have := rest.property; rw [_h] at this; simp at this; omega)

end

/-! ## Whole patterns -/

/-- The first repetition or look back that cannot be matched, as it is met from the outside in. -/
def Node.objection? (modes : Modes) : Node → Option Defect
  | nothing | one _ | reference .. | anchor _ => none
  | sequence a b | choice a b => (objection? modes a).or (objection? modes b)
  | repeated greed _ _ body =>
    if modes.contains .template then some (.repetitionInTemplate greed)
    else objection? modes body
  | group _ body | atomic body | ahead _ body => objection? modes body
  | behind _ none _ => some .widthOfLookbehind
  | behind _ (some _) body => objection? modes body
  | conditional _ present absent => (objection? modes present).or (objection? modes absent)

/-- Why a text is no pattern, or no template of one. -/
inductive ReadError where
  | fault (f : Fault)
  | tooManyRepetitions
  /-- two switches choose different characters for the classes -/
  | conflictingAlphabets
  /-- a template refers to a name that no group has -/
  | unknownGroup (name : String)
deriving Repr, DecidableEq

/-- Why a reader stopped, as seen from the whole text. -/
def Stop.toError (text : List Char) : Stop → ReadError
  | .defect what left => .fault ⟨what, some (Place.locate text left)⟩
  | .tooManyRepetitions => .tooManyRepetitions
  | .unknownName name => .unknownGroup name

/-- The pattern that a text spells, all of it. -/
def readGlyphs (named : CharacterNames) (gs : List Glyph) : Except Stop (Node × Groups × Rest gs) := do
  settled gs
  readAlternatives ⟨named, [], none, true⟩ .empty gs

/-- The pattern that a text spells. -/
def read (named : CharacterNames) (text : String) : Except ReadError Pattern :=
  let cs := text.toList
  match readGlyphs named (Glyph.scan cs) with
  | .error stop => .error (stop.toError cs)
  | .ok (root, groups, rest) =>
    if groups.modes.contains .ascii && groups.modes.contains .unicode then
      .error .conflictingAlphabets
    else if !rest.val.isEmpty then
      .error (.fault ⟨.unbalancedParenthesis, some (Place.locate cs (Glyph.size rest.val))⟩)
    else
      match groups.asked.find? fun asked => groups.next ≤ asked.1 with
      | some (index, left) =>
        .error (.fault ⟨.noSuchGroup index, some (Place.locate cs left)⟩)
      | none =>
        match root.objection? groups.modes with
        | some what => .error (.fault ⟨what, none⟩)
        | none => .ok ⟨root, groups.widths.length, groups.names⟩

end Reckon.Pattern
