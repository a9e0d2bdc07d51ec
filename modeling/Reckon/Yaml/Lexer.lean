import Reckon.Yaml.Scalar

/-!
# `Yaml.Lexer` — from characters to tokens

Outside of brackets the indentation tells where a collection begins and ends. What stands before a
colon is seen to be a key only when the colon is reached, so the places where a key may have begun are
kept, one for each level of brackets, and the tokens that mark it are put in afterwards.
-/

namespace Reckon.Yaml

/-- A place where a key may have begun. -/
structure PossibleKey where
  /-- the number of tokens before it -/
  tokens : Nat
  /-- nothing but a key may stand there -/
  required : Bool
  index : Nat
  line : Nat
  column : Nat

/-- A text partly read. -/
structure Lexer where
  rest : List Char
  index : Nat
  line : Nat
  column : Nat
  /-- how many brackets are open -/
  flow : Nat
  tokens : List Token
  /-- how far the innermost collection is indented, minus one outside of all -/
  indent : Int
  /-- how far the collections around it are indented -/
  outer : List Int
  /-- a key may begin here -/
  keyAllowed : Bool
  /-- by level of brackets -/
  keys : List (Nat × PossibleKey)

namespace Lexer

/-- A text before it is read. A byte order mark at the start is passed over. -/
def start (text : List Char) : Lexer :=
  let marked := text.head? == some '\ufeff'
  { rest := if marked then text.tail else text
    index := if marked then 1 else 0
    line := 0, column := 0, flow := 0, tokens := [], indent := -1, outer := []
    keyAllowed := true, keys := [] }

/-- Past some characters. -/
def pass (l : Lexer) : Nat → Lexer
  | 0 => l
  | n + 1 =>
    match l.rest with
    | [] => l
    | c :: rest =>
      let l := { l with rest, index := l.index + 1 }
      if isBreak c && !(c == '\r' && rest.head? == some '\n') then
        pass { l with line := l.line + 1, column := 0 } n
      else if c == '\ufeff' then pass l n
      else pass { l with column := l.column + 1 } n

/-- Up to where `rest` is left. -/
def passTo (l : Lexer) (rest : List Char) : Lexer :=
  l.pass (l.rest.length - rest.length)

/-- With one more token. -/
def add (l : Lexer) (t : Token) : Lexer :=
  { l with tokens := l.tokens ++ [t] }

/-- With a token put in after the first `n`. -/
def insert (l : Lexer) (n : Nat) (t : Token) : Lexer :=
  { l with tokens := l.tokens.take n ++ t :: l.tokens.drop n }

/-- With one character read as a token. -/
def mark (l : Lexer) (t : Token) : Lexer :=
  (l.pass 1).add t

/-- The character at the place of reading is followed by a blank or ends its line. -/
def standsAlone (l : Lexer) : Bool :=
  atGap l.rest.tail

/-- A mark that separates documents stands here. -/
def atMarker (l : Lexer) (c : Char) : Bool :=
  l.column == 0 && l.rest.take 3 == [c, c, c] && atGap (l.rest.drop 3)

/-! ## Possible keys -/

/-- A key stands on one line and has no more than 1024 characters. -/
def isStale (l : Lexer) (k : PossibleKey) : Bool :=
  k.line != l.line || 1024 < l.index - k.index

/-- Without the places where no key can have begun. -/
def dropStaleKeys (l : Lexer) : Except ReadError Lexer :=
  if l.keys.any fun k => l.isStale k.2 && k.2.required then .error .malformed
  else .ok { l with keys := l.keys.filter fun k => !l.isStale k.2 }

/-- Without the place for this level of brackets. -/
def dropKey (l : Lexer) : Except ReadError Lexer :=
  match l.keys.lookup l.flow with
  | some k =>
    if k.required then .error .malformed
    else .ok { l with keys := l.keys.filter (·.1 != l.flow) }
  | none => .ok l

/-- A key may begin here. -/
def keepKey (l : Lexer) : Except ReadError Lexer := do
  if !l.keyAllowed then return l
  let k : PossibleKey :=
    { tokens := l.tokens.length
      required := l.flow == 0 && l.indent == l.column
      index := l.index, line := l.line, column := l.column }
  let l ← l.dropKey
  return { l with keys := (l.flow, k) :: l.keys }

/-! ## Indentation -/

/-- The collections end that are indented further than `column`. -/
def unwindFrom (column : Int) : (outer : List Int) → Lexer → Lexer
  | [], l => l
  | indent :: outer, l =>
    if l.indent ≤ column then l
    else unwindFrom column outer { l.add .blockEnd with indent, outer }

/-- The collections end that are indented further than `column`. Within brackets none does. -/
def unwind (l : Lexer) (column : Int) : Lexer :=
  if 0 < l.flow then l else unwindFrom column l.outer l

/-- A collection begins at `column` unless one has begun there; `begin` puts in its token. -/
def indentTo (l : Lexer) (column : Nat) (opening : Lexer → Lexer) : Lexer :=
  if l.indent < column then
    { opening l with indent := column, outer := l.indent :: l.outer }
  else l

/-! ## Tokens -/

/-- A directive or a mark that separates documents ends all collections. -/
def endBlocks (l : Lexer) : Except ReadError Lexer := do
  let l ← (l.unwind (-1)).dropKey
  return { l with keyAllowed := false }

/-- A bracket opens. -/
def openFlow (l : Lexer) (t : Token) : Except ReadError Lexer := do
  let l ← l.keepKey
  return { l with flow := l.flow + 1, keyAllowed := true }.mark t

/-- A bracket closes. -/
def closeFlow (l : Lexer) (t : Token) : Except ReadError Lexer := do
  let l ← l.dropKey
  return { l with flow := l.flow - 1, keyAllowed := false }.mark t

/-- A comma between items. -/
def flowEntry (l : Lexer) : Except ReadError Lexer := do
  let l ← { l with keyAllowed := true }.dropKey
  return l.mark .flowEntry

/-- A hyphen before an item. -/
def blockEntry (l : Lexer) : Except ReadError Lexer := do
  if l.flow = 0 && !l.keyAllowed then .error .malformed
  let l := if l.flow = 0 then l.indentTo l.column (·.add .blockSequenceStart) else l
  let l ← { l with keyAllowed := true }.dropKey
  return l.mark .blockEntry

/-- A question mark before a key. -/
def explicitKey (l : Lexer) : Except ReadError Lexer := do
  if l.flow = 0 && !l.keyAllowed then .error .malformed
  let l := if l.flow = 0 then l.indentTo l.column (·.add .blockMappingStart) else l
  let l ← { l with keyAllowed := l.flow == 0 }.dropKey
  return l.mark .key

/-- A colon before a value. If a key can have begun on this level, it has. -/
def value (l : Lexer) : Except ReadError Lexer := do
  match l.keys.lookup l.flow with
  | some k =>
    let l := { l with keys := l.keys.filter (·.1 != l.flow), keyAllowed := false }
    let l := l.insert k.tokens .key
    let l :=
      if l.flow = 0 then l.indentTo k.column (·.insert k.tokens .blockMappingStart) else l
    return l.mark .value
  | none =>
    if l.flow = 0 && !l.keyAllowed then .error .malformed
    let l := if l.flow = 0 then l.indentTo l.column (·.add .blockMappingStart) else l
    let l ← { l with keyAllowed := l.flow == 0 }.dropKey
    return l.mark .value

/-- The name of an anchor or an alias, after its mark. -/
def anchorName (s : List Char) : Except ReadError (String × List Char) :=
  let name := s.takeWhile isNameChar
  let rest := s.dropWhile isNameChar
  if name.isEmpty || !(atGap rest || rest.head?.any ("?:,]\x7d%@\x60".toList.contains ·)) then
    .error .malformed
  else .ok (String.ofList name, rest)

/-- An anchor or an alias. -/
def named (l : Lexer) (token : String → Token) : Except ReadError Lexer := do
  let l ← l.keepKey
  let (name, rest) ← anchorName l.rest.tail
  return ({ l with keyAllowed := false }.passTo rest).add (token name)

/-! ### Tags -/

/-- The handle of a tag: one exclamation mark, or a word between two. -/
def tagHandle : List Char → Except ReadError (List Char × List Char)
  | '!' :: rest =>
    if rest.head? = some ' ' then .ok (['!'], rest)
    else
      match rest.dropWhile isNameChar with
      | '!' :: after => .ok ('!' :: rest.takeWhile isNameChar ++ ['!'], after)
      | _ => .error .malformed
  | _ => .error .malformed

/-- A character of the suffix of a tag. -/
def isTagChar (c : Char) : Bool :=
  c.isAlphanum || "-;/?:@&=+$,_.!~*'()[]".toList.contains c

/-- Bytes written as percent signs with two digits of base sixteen each. -/
def tagBytes : List Char → Except ReadError (List UInt8 × List Char)
  | '%' :: a :: b :: rest =>
    if isHex a && isHex b then do
      let (bytes, last) ← tagBytes rest
      return (UInt8.ofNat (numberOfHex [a, b]) :: bytes, last)
    else .error .malformed
  | '%' :: _ => .error .malformed
  | s => .ok ([], s)

/-- The suffix of a tag, from one of its pieces on. -/
def tagSuffixFrom : (fuel : Nat) → List Char → Except ReadError (List Char × List Char)
  | 0, s => .ok ([], s)
  | fuel + 1, s =>
    match s with
    | '%' :: _ => do
      let (bytes, rest) ← tagBytes s
      match String.fromUTF8? (ByteArray.mk bytes.toArray) with
      | some piece =>
        let (more, last) ← tagSuffixFrom fuel rest
        return (piece.toList ++ more, last)
      | none => .error .malformed
    | c :: rest =>
      if isTagChar c then do
        let (more, last) ← tagSuffixFrom fuel rest
        return (c :: more, last)
      else .ok ([], s)
    | [] => .ok ([], [])

/-- The suffix of a tag, which must not be empty. -/
def tagSuffix (s : List Char) : Except ReadError (String × List Char) := do
  let (suffix, rest) ← tagSuffixFrom s.length s
  if rest.length = s.length then .error .malformed
  return (String.ofList suffix, rest)

/-- A tag, after its exclamation mark. -/
def tagOf (s : List Char) : Except ReadError (Option String × String × List Char) :=
  if s.head? = some '<' then do
    let (suffix, rest) ← tagSuffix s.tail
    if rest.head? = some '>' then return (none, suffix, rest.tail) else .error .malformed
  else if atGap s then .ok (none, "!", s)
  else if (s.takeWhile fun c => !(isBreak c || c == ' ')).contains '!' then do
    let (handle, rest) ← tagHandle ('!' :: s)
    let (suffix, rest) ← tagSuffix rest
    return (some (String.ofList handle), suffix, rest)
  else do
    let (suffix, rest) ← tagSuffix s
    return (some "!", suffix, rest)

/-- A tag. -/
def tag (l : Lexer) : Except ReadError Lexer := do
  let l ← l.keepKey
  let (handle, suffix, rest) ← tagOf l.rest.tail
  if !atSpace rest then .error .malformed
  return ({ l with keyAllowed := false }.passTo rest).add (.tag handle suffix)

/-! ### Directives -/

/-- A number of ASCII digits. -/
def takeNumber (s : List Char) : Except ReadError (Nat × List Char) :=
  let digits := s.takeWhile Char.isDigit
  if digits.isEmpty then .error .malformed
  else if Number.mostDigits < digits.length then .error (.flawed (.tooManyDigits digits.length))
  else .ok (Number.natOfDigits digits, s.dropWhile Char.isDigit)

/-- The version that a directive gives. -/
def versionDirective (s : List Char) : Except ReadError (Directive × List Char) := do
  let (major, rest) ← takeNumber (dropSpaces s)
  match rest with
  | '.' :: rest =>
    let (minor, rest) ← takeNumber rest
    if atSpace rest then return (.version major minor, rest) else .error .malformed
  | _ => .error .malformed

/-- The handle that a directive gives. -/
def handleDirective (s : List Char) : Except ReadError (Directive × List Char) := do
  let (handle, rest) ← tagHandle (dropSpaces s)
  if rest.head? ≠ some ' ' then .error .malformed
  let (start, rest) ← tagSuffix (dropSpaces rest)
  if atSpace rest then return (.handle (String.ofList handle) start, rest) else .error .malformed

/-- A directive. -/
def directive (l : Lexer) : Except ReadError Lexer := do
  let l ← l.endBlocks
  let name := l.rest.tail.takeWhile isNameChar
  let rest := l.rest.tail.dropWhile isNameChar
  if name.isEmpty || !atSpace rest then .error .malformed
  let (d, rest) ←
    match String.ofList name with
    | "YAML" => versionDirective rest
    | "TAG" => handleDirective rest
    | _ => .ok (.other, rest.dropWhile (!isBreak ·))
  let rest ← endLine rest
  return (l.passTo rest).add (.directive d)

/-! ### Scalars -/

/-- A scalar between quotes. -/
def quoted (l : Lexer) (double : Bool) : Except ReadError Lexer := do
  let l ← l.keepKey
  let (text, rest) ← quotedScalar double l.rest.tail
  return ({ l with keyAllowed := false }.passTo rest).add (.scalar (String.ofList text) false)

/-- A block. -/
def block (l : Lexer) (folded : Bool) : Except ReadError Lexer := do
  let l ← { l with keyAllowed := true }.dropKey
  let (text, rest) ← blockScalar folded l.indent l.rest.tail
  return (l.passTo rest).add (.scalar (String.ofList text) false)

/-- A plain scalar. After a line break a key may begin. -/
def plain (l : Lexer) : Except ReadError Lexer := do
  let l ← l.keepKey
  let scalar := plainScalar (0 < l.flow) (l.indent + 1) l.rest
  return ({ l with keyAllowed := scalar.broken }.passTo scalar.rest).add
    (.scalar (String.ofList scalar.text) true)

/-- A plain scalar begins with the character `c`, before `rest`. -/
def beginsPlain (inFlow : Bool) (c : Char) (rest : List Char) : Bool :=
  !(isBlank c || isBreak c || "-?:,[]\x7b\x7d#&*!|>'\"%@\x60".toList.contains c) ||
    !atGap rest && (c == '-' || !inFlow && (c == '?' || c == ':'))

/-- The next token, which begins with the character `c`. -/
def next (l : Lexer) (c : Char) : Except ReadError Lexer :=
  let inFlow : Bool := 0 < l.flow
  if c == '%' && l.column == 0 then l.directive
  else if l.atMarker '-' && c == '-' then do return ((← l.endBlocks).pass 3).add .documentStart
  else if l.atMarker '.' && c == '.' then do return ((← l.endBlocks).pass 3).add .documentEnd
  else if c == '[' then l.openFlow .flowSequenceStart
  else if c == '\x7b' then l.openFlow .flowMappingStart
  else if c == ']' then l.closeFlow .flowSequenceEnd
  else if c == '\x7d' then l.closeFlow .flowMappingEnd
  else if c == ',' then l.flowEntry
  else if c == '-' && l.standsAlone then l.blockEntry
  else if c == '?' && (inFlow || l.standsAlone) then l.explicitKey
  else if c == ':' && (inFlow || l.standsAlone) then l.value
  else if c == '*' then l.named .alias
  else if c == '&' then l.named .anchor
  else if c == '!' then l.tag
  else if c == '|' && !inFlow then l.block false
  else if c == '>' && !inFlow then l.block true
  else if c == '\'' then l.quoted false
  else if c == '"' then l.quoted true
  else if beginsPlain inFlow c l.rest.tail then l.plain
  else .error .malformed

/-! ## The whole text -/

/-- Past spaces, line ends and comments; and whether there was a line end. -/
def dropGap (inComment : Bool) : List Char → List Char × Bool
  | [] => ([], false)
  | c :: rest =>
    if isBreak c then ((dropGap false rest).1, true)
    else if inComment then dropGap true rest
    else if c == ' ' then dropGap false rest
    else if c == '#' then dropGap true rest
    else (c :: rest, false)

/-- At the next token. On a new line a key may begin. -/
def toToken (l : Lexer) : Except ReadError Lexer := do
  let (rest, broken) := dropGap false l.rest
  let l := { l with keyAllowed := l.keyAllowed || broken && l.flow == 0 }.passTo rest
  let l ← l.dropStaleKeys
  return l.unwind l.column

/-- All tokens, of which there are no more than `fuel`. -/
def run : (fuel : Nat) → Lexer → Except ReadError (List Token)
  | 0, _ => .error .malformed
  | fuel + 1, l => do
    let l ← l.toToken
    match l.rest with
    | [] => return (← l.endBlocks).tokens
    | c :: _ => run fuel (← l.next c)

end Lexer

/-- The tokens of a text. Every token has at least one character. -/
def scan (text : List Char) : Except ReadError (List Token) :=
  if text.all isPermitted then (Lexer.start text).run (text.length + 2) else .error .malformed

end Reckon.Yaml
