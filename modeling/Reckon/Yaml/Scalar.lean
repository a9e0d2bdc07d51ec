import Reckon.Yaml.Token

/-!
# `Yaml.Scalar` — scalars

A scalar is plain, between quotes, or a block. A line break inside becomes a space, and of more than
one in a row the first is dropped; only a literal block keeps its lines. Every function takes the text
from the scalar on and leaves what follows it.

  * `plainScalar` — without quotes
  * `quotedScalar` — between single or double quotes
  * `blockScalar` — the indented lines after a bar or a bracket
-/

namespace Reckon.Yaml

/-- Line breaks folded: one is a space, and of more the first is dropped. A line or paragraph separator
stays. -/
def fold (first : Char) (others : List Char) : List Char :=
  if first != '\n' then first :: others
  else if others.isEmpty then [' ']
  else others

/-! ## Plain scalars -/

/-- A plain scalar stops here. Within brackets their marks stop it too. -/
def stopsPlain (inFlow : Bool) (c : Char) (rest : List Char) : Bool :=
  isBlank c || isBreak c ||
    c == ':' && (atGap rest || inFlow && rest.head?.any (",[]\x7b\x7d".toList.contains ·)) ||
    inFlow && ",?[]\x7b\x7d".toList.contains c

/-- The characters up to where a plain scalar stops or has a gap. -/
def plainPiece (inFlow : Bool) : List Char → List Char × List Char
  | [] => ([], [])
  | c :: rest =>
    if stopsPlain inFlow c rest then ([], c :: rest)
    else
      let (piece, after) := plainPiece inFlow rest
      (c :: piece, after)

/-- A gap in a plain scalar. -/
structure Gap where
  /-- what the gap counts for -/
  text : List Char
  /-- the lines breaks in it -/
  broken : Bool
  /-- a separator of documents follows -/
  separator : Bool
  /-- spaces since the last line break -/
  column : Nat
  rest : List Char

/-- Spaces and line breaks after a first line break; `breaks` are those passed. -/
def plainBreaks (first : Char) : (fuel : Nat) → (breaks : List Char) → List Char → Gap
  | 0, breaks, s => ⟨fold first breaks, true, false, 0, s⟩
  | fuel + 1, breaks, s =>
    if atSeparator s then ⟨[], true, true, 0, s⟩
    else
      let rest := dropSpaces s
      match takeBreak? rest with
      | some (c, after) => plainBreaks first fuel (breaks ++ [c]) after
      | none => ⟨fold first breaks, true, false, s.length - rest.length, rest⟩

/-- The gap that a text starts with. -/
def plainGap (s : List Char) : Gap :=
  let rest := dropSpaces s
  match takeBreak? rest with
  | some (c, after) => plainBreaks c after.length [] after
  | none => ⟨s.takeWhile (· == ' '), false, false, 0, rest⟩

/-- A scalar, whether a line break follows it, and what is left. -/
structure Plain where
  text : List Char
  broken : Bool
  rest : List Char

/-- A plain scalar from one of its pieces on; before it stands `gap`. It ends where a line starts left
of `indent`. -/
def plainFrom (inFlow : Bool) (indent : Int) : (fuel : Nat) → (gap : List Char) →
    (broken : Bool) → List Char → Plain
  | 0, _, broken, s => ⟨[], broken, s⟩
  | fuel + 1, gap, broken, s =>
    if s.head? = some '#' then ⟨[], broken, s⟩
    else
      match plainPiece inFlow s with
      | ([], _) => ⟨[], broken, s⟩
      | (piece, after) =>
        let next := plainGap after
        if next.separator || next.text.isEmpty || next.rest.head? = some '#' ||
            !inFlow && next.broken && (next.column : Int) < indent then
          ⟨gap ++ piece, next.broken, next.rest⟩
        else
          let more := plainFrom inFlow indent fuel next.text next.broken next.rest
          ⟨gap ++ piece ++ more.text, more.broken, more.rest⟩

/-- A plain scalar. -/
def plainScalar (inFlow : Bool) (indent : Int) (s : List Char) : Plain :=
  plainFrom inFlow indent (s.length + 1) [] false s

/-! ## Quoted scalars -/

/-- What a letter after a backslash stands for. -/
def escape? (c : Char) : Option Char :=
  match c with
  | '0' => some '\x00'
  | 'a' => some '\x07'
  | 'b' => some '\x08'
  | 't' | '\t' => some '\t'
  | 'n' => some '\n'
  | 'v' => some '\x0b'
  | 'f' => some '\x0c'
  | 'r' => some '\r'
  | 'e' => some '\x1b'
  | ' ' => some ' '
  | '"' => some '"'
  | '\\' => some '\\'
  | '/' => some '/'
  | 'N' => some '\u0085'
  | '_' => some '\u00a0'
  | 'L' => some '\u2028'
  | 'P' => some '\u2029'
  | _ => none

/-- How many digits of base sixteen follow a letter after a backslash. -/
def escapeWidth? (c : Char) : Option Nat :=
  match c with
  | 'x' => some 2
  | 'u' => some 4
  | 'U' => some 8
  | _ => none

/-- The character with a code, if there are such codes. -/
def characterOf (code : Nat) : Except ReadError Char :=
  if 0x110000 ≤ code then .error (.flawed .noCharacter)
  else .ok (if 0xD800 ≤ code && code < 0xE000 then '\ufffd' else Char.ofNat code)

/-- Line breaks within quotes, and the blanks around them. -/
def quotedBreaks : (fuel : Nat) → List Char → Except ReadError (List Char × List Char)
  | 0, s => .ok ([], s)
  | fuel + 1, s =>
    if atSeparator s then .error .malformed
    else
      let rest := s.dropWhile isBlank
      match takeBreak? rest with
      | some (c, after) => do
        let (breaks, last) ← quotedBreaks fuel after
        return (c :: breaks, last)
      | none => .ok ([], rest)

/-- Blanks, and perhaps line breaks, within quotes. -/
def quotedGap (s : List Char) : Except ReadError (List Char × List Char) :=
  let rest := s.dropWhile isBlank
  match takeBreak? rest with
  | some (c, after) => do
    let (breaks, last) ← quotedBreaks (after.length + 1) after
    return (fold c breaks, last)
  | none => if rest.isEmpty then .error .malformed else .ok (s.takeWhile isBlank, rest)

/-- What a backslash and the characters after it stand for. -/
def quotedEscape : List Char → Except ReadError (List Char × List Char)
  | [] => .error .malformed
  | c :: rest =>
    match escape? c, escapeWidth? c with
    | some image, _ => .ok ([image], rest)
    | none, some width => do
      let digits := rest.take width
      if digits.length < width || !digits.all isHex then .error .malformed
      return ([← characterOf (numberOfHex digits)], rest.drop width)
    | none, none =>
      match takeBreak? (c :: rest) with
      | some (_, after) => quotedBreaks (after.length + 1) after
      | none => .error .malformed

/-- A scalar after its opening quote, up to the closing one. -/
def quotedFrom (double : Bool) : (fuel : Nat) → List Char →
    Except ReadError (List Char × List Char)
  | 0, _ | _, [] => .error .malformed
  | fuel + 1, c :: rest => do
    let more (piece after : List Char) : Except ReadError (List Char × List Char) := do
      let (text, last) ← quotedFrom double fuel after
      return (piece ++ text, last)
    if isBlank c || isBreak c then
      let (piece, after) ← quotedGap (c :: rest)
      more piece after
    else if double then
      if c == '"' then return ([], rest)
      else if c == '\\' then
        let (piece, after) ← quotedEscape rest
        more piece after
      else more [c] rest
    else if c == '\'' then
      match rest with
      | '\'' :: after => more ['\''] after
      | _ => return ([], rest)
    else more [c] rest

/-- A scalar between quotes, from after the first on. -/
def quotedScalar (double : Bool) (s : List Char) : Except ReadError (List Char × List Char) :=
  quotedFrom double (s.length + 1) s

/-! ## Block scalars -/

/-- What becomes of the line breaks at the end of a block. -/
inductive Chomping where
  | strip | clip | keep
deriving Repr, DecidableEq

/-- The sign for what becomes of the last line breaks. -/
def takeChomping : List Char → Option Chomping × List Char
  | '+' :: rest => (some .keep, rest)
  | '-' :: rest => (some .strip, rest)
  | s => (none, s)

/-- A digit for the indentation; zero is none. -/
def takeIncrement : List Char → Except ReadError (Option Nat × List Char)
  | c :: rest =>
    if c == '0' then .error .malformed
    else if c.isDigit then .ok (some (c.toNat - '0'.toNat), rest)
    else .ok (none, c :: rest)
  | [] => .ok (none, [])

/-- The indications on the first line of a block, in either order. -/
def blockHeader (s : List Char) : Except ReadError (Chomping × Option Nat × List Char) := do
  let (chomping, rest) := takeChomping s
  let (increment, rest) ← takeIncrement rest
  let (chomping, rest) :=
    match chomping, increment with
    | none, some _ => takeChomping rest
    | _, _ => (chomping, rest)
  if atSpace rest then return (chomping.getD .clip, increment, ← endLine rest)
  else .error .malformed

/-- The empty lines before a block, the widest of the spaces in them and in the first line that is not
empty, and how far that line is indented. -/
def leadingLines : (widest column : Nat) → List Char → List Char × Nat × Nat × List Char
  | widest, column, c :: rest =>
    if c == ' ' then leadingLines (max widest (column + 1)) (column + 1) rest
    else if isBreak c then
      let (breaks, widest, column', last) := leadingLines widest 0 rest
      if c == '\r' && rest.head? = some '\n' then (breaks, widest, column', last)
      else ((if c == '\u2028' || c == '\u2029' then c else '\n') :: breaks, widest, column', last)
    else ([], widest, column, c :: rest)
  | widest, column, [] => ([], widest, column, [])

/-- Up to `indent` spaces. -/
def takeIndent (indent : Nat) (s : List Char) : Nat × List Char :=
  let spaces := ((s.take indent).takeWhile (· == ' ')).length
  (spaces, s.drop spaces)

/-- The empty lines between the lines of a block, and how far the next line is indented. -/
def innerLines (indent : Nat) : (fuel : Nat) → List Char → List Char × Nat × List Char
  | 0, s => ([], 0, s)
  | fuel + 1, s =>
    let (column, rest) := takeIndent indent s
    match takeBreak? rest with
    | some (c, after) =>
      let (breaks, last) := innerLines indent fuel after
      (c :: breaks, last)
    | none => ([], column, rest)

/-- The lines of a block, the first of which starts here; `breaks` stand before it. -/
def blockLines (folded : Bool) (chomping : Chomping) (indent : Nat) : (fuel : Nat) →
    (breaks : List Char) → List Char → List Char × List Char
  | 0, _, s => ([], s)
  | fuel + 1, breaks, s =>
    let line := s.takeWhile (!isBreak ·)
    let after := s.dropWhile (!isBreak ·)
    let (lineBreak, after) : List Char × List Char :=
      match takeBreak? after with
      | some (c, after) => ([c], after)
      | none => ([], after)
    let (next, column, rest) := innerLines indent (after.length + 1) after
    if column = indent && !rest.isEmpty then
      let folds := folded && lineBreak == ['\n'] && !s.head?.any isBlank && !rest.head?.any isBlank
      let between := if folds then (if next.isEmpty then [' '] else []) else lineBreak
      let (text, last) := blockLines folded chomping indent fuel next rest
      (breaks ++ line ++ between ++ text, last)
    else
      let tail :=
        match chomping with
        | .strip => []
        | .clip => lineBreak
        | .keep => lineBreak ++ next
      (breaks ++ line ++ tail, rest)

/-- A block within a collection that is indented by `indent`, from after its mark on. -/
def blockScalar (folded : Bool) (indent : Int) (s : List Char) :
    Except ReadError (List Char × List Char) := do
  let (chomping, increment, s) ← blockHeader s
  let least := max 1 (indent + 1).toNat
  let (breaks, column, indent, rest) : List Char × Nat × Nat × List Char :=
    match increment with
    | some more =>
      let indent := least + more - 1
      let (breaks, column, rest) := innerLines indent (s.length + 1) s
      (breaks, column, indent, rest)
    | none =>
      let (breaks, widest, column, rest) := leadingLines 0 0 s
      (breaks, column, max least widest, rest)
  if column = indent && !rest.isEmpty then
    return blockLines folded chomping indent (rest.length + 1) breaks rest
  else return (if chomping = .keep then breaks else [], rest)

end Reckon.Yaml
