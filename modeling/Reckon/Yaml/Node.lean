import Reckon.Text.Search
import Reckon.Yaml.Lexer

/-!
# `Yaml.Node` — documents as trees

A node is a scalar, a sequence or a mapping, with a tag that says what kind of datum it is. A node can
be given a name, an anchor, and stand again under it; a node that stands within itself is a cycle.

  * `Tag.ofScalar` — the kind of a plain scalar, told by its form
  * `readDocument` — the node of a text that holds one document, or none
-/

namespace Reckon.Yaml

/-! ## Kinds of data -/

/-- The kind of a node. -/
inductive Tag where
  | null | boolean | integer | real | text | timestamp | binary
  | sequence | mapping | orderedMapping | pairs | set
  /-- a key that merges another mapping -/
  | merge
  /-- a key that stands for the value of its mapping -/
  | ownValue
  | unknown (name : String)
deriving Repr, DecidableEq

namespace Tag

/-- What tags of known kinds start with. -/
def knownStart : String := "tag:yaml.org,2002:"

/-- The kind with a name. -/
def ofName (name : String) : Tag :=
  let known : List (String × Tag) :=
    [("null", null), ("bool", boolean), ("int", integer), ("float", real), ("str", text),
      ("timestamp", timestamp), ("binary", binary), ("seq", sequence), ("map", mapping),
      ("omap", orderedMapping), ("pairs", pairs), ("set", set), ("merge", merge),
      ("value", ownValue)]
  match known.find? fun k => knownStart ++ k.1 == name with
  | some (_, tag) => tag
  | none => unknown name

/-! ### The form of plain scalars -/

/-- Some digits, or low lines, of a base at least. -/
def areDigits (isDigit : Char → Bool) (s : List Char) : Bool :=
  !s.isEmpty && s.all fun c => isDigit c || c == '_'

/-- Without a sign. -/
def unsigned : List Char → List Char
  | '+' :: rest => rest
  | '-' :: rest => rest
  | s => s

/-- A digit, and digits or low lines. -/
def startsWithDigit (s : List Char) : Bool :=
  s.head?.any Char.isDigit && s.all fun c => c.isDigit || c == '_'

/-- A part of a number in base sixty after the first. -/
def isSixtieth (s : List Char) : Bool :=
  match s with
  | [a] => a.isDigit
  | [a, b] => '0' ≤ a && a ≤ '5' && b.isDigit
  | _ => false

/-- A whole number: in base two, eight, ten or sixteen, or parts in base sixty. -/
def isInteger (s : List Char) : Bool :=
  let u := unsigned s
  match u with
  | ['0'] => true
  | '0' :: 'b' :: digits => areDigits (fun c => c == '0' || c == '1') digits
  | '0' :: 'x' :: digits => areDigits isHex digits
  | '0' :: digits => areDigits (fun c => '0' ≤ c && c ≤ '7') digits
  | _ =>
    match Text.splitOn [':'] u with
    | first :: rest => startsWithDigit first && rest.all isSixtieth
    | [] => false

/-- Nothing, or an exponent with its sign. -/
def isExponent : List Char → Bool
  | [] => true
  | e :: sign :: digits =>
    (e == 'e' || e == 'E') && (sign == '+' || sign == '-') && !digits.isEmpty &&
      digits.all Char.isDigit
  | _ => false

/-- What may follow the point of a number. -/
def isFraction (s : List Char) : Bool :=
  isExponent (s.dropWhile fun c => c.isDigit || c == '_')

/-- Digits, or low lines, up to the end. -/
def isPlainFraction (s : List Char) : Bool :=
  s.all fun c => c.isDigit || c == '_'

/-- A number with a point; in base sixty the last part has it. -/
def isReal (s : List Char) : Bool :=
  let u := unsigned s
  let word := String.ofList u
  if [".inf", ".Inf", ".INF"].contains word then true
  else if [".nan", ".NaN", ".NAN"].contains (String.ofList s) then true
  else
    match s with
    | '.' :: digits => digits.head?.any Char.isDigit && isFraction digits
    | _ =>
      let before := u.takeWhile (· != '.')
      match u.dropWhile (· != '.') with
      | '.' :: after =>
        match Text.splitOn [':'] before with
        | [whole] => startsWithDigit whole && isFraction after
        | first :: rest => startsWithDigit first && rest.all isSixtieth && isPlainFraction after
        | [] => false
      | _ => false

end Tag

/-- The parts of a date, and of a time with its zone if one follows. -/
structure Timestamp where
  year : Nat
  month : Nat
  day : Nat
  time : Option (Nat × Nat × Nat)
  /-- in microseconds -/
  fraction : Nat
  /-- in minutes -/
  zone : Option Int
deriving Repr, DecidableEq

namespace Timestamp

/-- The number of between `least` and `most` digits, which a digit must not follow. -/
def digits? (least most : Nat) (s : List Char) : Option (Nat × List Char) :=
  let digits := (s.take most).takeWhile Char.isDigit
  if digits.length < least then none
  else some (Number.natOfDigits digits, s.drop digits.length)

/-- What follows a mark. -/
def after? (right : Char → Bool) : List Char → Option (List Char)
  | c :: rest => if right c then some rest else none
  | [] => none

/-- A date and nothing else: four digits, and twice two, or at least `least`. -/
def ofDate? (least : Nat) (s : List Char) : Option Timestamp := do
  let (year, rest) ← digits? 4 4 s
  let (month, rest) ← digits? least 2 (← after? (· == '-') rest)
  let (day, rest) ← digits? least 2 (← after? (· == '-') rest)
  if rest.isEmpty then some ⟨year, month, day, none, 0, none⟩ else none

/-- The zone at the end, in minutes. -/
def zone? (s : List Char) : Option (Option Int) :=
  match s.dropWhile isBlank with
  | [] => if s.isEmpty then some none else none
  | ['Z'] => some (some 0)
  | sign :: rest => do
    if sign != '+' && sign != '-' then none
    let (hours, rest) ← digits? 1 2 rest
    let (minutes, rest) ←
      match rest with
      | [] => some (0, [])
      | c :: rest => if c == ':' then digits? 2 2 rest else none
    if !rest.isEmpty then none
    let all : Int := 60 * hours + minutes
    return some (if sign == '-' then -all else all)

/-- A date and a time, parted by a letter or by blanks. -/
def ofMoment? (s : List Char) : Option Timestamp := do
  let (year, rest) ← digits? 4 4 s
  let (month, rest) ← digits? 1 2 (← after? (· == '-') rest)
  let (day, rest) ← digits? 1 2 (← after? (· == '-') rest)
  let rest ←
    if rest.head?.any fun c => c == 'T' || c == 't' then some rest.tail
    else (after? isBlank rest).map (·.dropWhile isBlank)
  let (hour, rest) ← digits? 1 2 rest
  let (minute, rest) ← digits? 2 2 (← after? (· == ':') rest)
  let (second, rest) ← digits? 2 2 (← after? (· == ':') rest)
  let point := rest.head? = some '.'
  let fraction := if point then rest.tail.takeWhile Char.isDigit else []
  let zone ← zone? (if point then rest.tail.dropWhile Char.isDigit else rest)
  let microseconds := Calendar.millionths (fraction.take 6)
  return ⟨year, month, day, some (hour, minute, second), microseconds, zone⟩

/-- The timestamp that a text spells. Where a tag says that it is one, month and day of a date may have
one digit. -/
def read? (tagged : Bool) (s : List Char) : Option Timestamp :=
  (ofDate? (if tagged then 1 else 2) s).or (ofMoment? s)

end Timestamp

/-- The kind of a plain scalar. -/
def Tag.ofScalar (scalar : String) : Tag :=
  let s := scalar.toList
  if ["yes", "Yes", "YES", "no", "No", "NO", "true", "True", "TRUE", "false", "False", "FALSE",
      "on", "On", "ON", "off", "Off", "OFF"].contains scalar then boolean
  else if isReal s then real
  else if isInteger s then integer
  else if scalar == "<<" then merge
  else if ["", "~", "null", "Null", "NULL"].contains scalar then null
  else if (Timestamp.read? false s).isSome then timestamp
  else if scalar == "=" then ownValue
  else text

/-! ## Nodes -/

/-- A document, or a part of it. -/
inductive Node where
  | scalar (tag : Tag) (text : String)
  | sequence (tag : Tag) (items : List Node)
  | mapping (tag : Tag) (pairs : List (Node × Node))
  /-- a node that this one stands in -/
  | cycle

/-- What is known while a document is read. -/
structure Reader where
  rest : List Token
  /-- the nodes with names; a node that is not complete is none yet -/
  anchors : List (String × Option Node)
  /-- what the handles of tags stand for -/
  handles : List (String × String)

namespace Reader

/-- The next token. -/
def peek (r : Reader) : Option Token :=
  r.rest.head?

/-- Past the next token. -/
def skip (r : Reader) : Reader :=
  { r with rest := r.rest.tail }

/-- The next token is one of some tokens. -/
def isAt (r : Reader) (ts : List Token) : Bool :=
  r.peek.any ts.contains

/-- A scalar without characters. -/
def emptyScalar : Node :=
  .scalar .null ""

/-- The properties of a node. -/
structure Properties where
  anchor : Option String
  tag : Option String

/-- What a tag stands for. -/
def tagName (r : Reader) : Option String → String → Except ReadError String
  | none, suffix => .ok suffix
  | some handle, suffix =>
    match r.handles.lookup handle with
    | some start => .ok (start ++ suffix)
    | none => .error .malformed

/-- The properties of a node: an anchor and a tag, in either order. -/
def properties (r : Reader) : Except ReadError (Properties × Reader) :=
  match r.rest with
  | .anchor name :: .tag handle suffix :: rest => do
    return (⟨some name, some (← r.tagName handle suffix)⟩, { r with rest })
  | .anchor name :: rest => return (⟨some name, none⟩, { r with rest })
  | .tag handle suffix :: .anchor name :: rest => do
    return (⟨some name, some (← r.tagName handle suffix)⟩, { r with rest })
  | .tag handle suffix :: rest => do
    return (⟨none, some (← r.tagName handle suffix)⟩, { r with rest })
  | _ => return (⟨none, none⟩, r)

/-- The kind of a scalar. -/
def scalarTag (p : Properties) (text : String) (plain : Bool) : Tag :=
  match p.tag with
  | some "!" => Tag.ofScalar text
  | some name => Tag.ofName name
  | none => if plain then Tag.ofScalar text else .text

/-- The kind of a collection. -/
def collectionTag (p : Properties) (otherwise : Tag) : Tag :=
  match p.tag with
  | some "!" | none => otherwise
  | some name => Tag.ofName name

/-- A node that is not complete yet has its name. A name can be given once. -/
def declare (r : Reader) (p : Properties) : Except ReadError Reader :=
  match p.anchor with
  | none => .ok r
  | some name =>
    if (r.anchors.lookup name).isSome then .error .malformed
    else .ok { r with anchors := (name, none) :: r.anchors }

/-- A complete node under its name. -/
def define (r : Reader) (p : Properties) (node : Node) : Node × Reader :=
  match p.anchor with
  | none => (node, r)
  | some name => (node, { r with anchors := (name, some node) :: r.anchors })

/-- The node with a name. -/
def named (r : Reader) (name : String) : Except ReadError (Node × Reader) :=
  match r.anchors.lookup name with
  | some (some node) => .ok (node, r.skip)
  | some none => .ok (.cycle, r.skip)
  | none => .error .malformed

/-- Where a node stands, which tells what it can be. -/
inductive Place where
  | flow | block
  /-- in a mapping, where a sequence need not be indented -/
  | blockValue
deriving Repr, DecidableEq

/-- A node without content must have a property. -/
def bare (p : Properties) (r : Reader) : Except ReadError (Node × Reader) :=
  if p.anchor.isNone && p.tag.isNone then .error .malformed
  else return r.define p (.scalar (scalarTag p "" true) "")

mutual

/-- A node. `depth` bounds the nesting and `fuel` the steps. -/
def node (place : Place) (depth : Nat) (fuel : Nat) (r : Reader) : Except ReadError (Node × Reader) :=
  match fuel with
  | 0 => .error .malformed
  | fuel + 1 =>
    match r.rest with
    | .alias name :: _ => r.named name
    | _ => do
      let (p, r) ← r.properties
      let r ← r.declare p
      if depth = 0 then .error .tooDeep
      let depth := depth - 1
      let sequence (items : List Node) (r : Reader) :=
        r.define p (.sequence (collectionTag p .sequence) items)
      let mapping (pairs : List (Node × Node)) (r : Reader) :=
        r.define p (.mapping (collectionTag p .mapping) pairs)
      match r.peek with
      | some (.scalar text plain) =>
        return r.skip.define p (.scalar (scalarTag p text plain) text)
      | some .flowSequenceStart =>
        let (items, r) ← flowItems true depth fuel r.skip
        return sequence items r
      | some .flowMappingStart =>
        let (pairs, r) ← flowPairs true depth fuel r.skip
        return mapping pairs r
      | some .blockEntry =>
        if place = .blockValue then
          let (items, r) ← blockItems [.blockEntry, .key, .value, .blockEnd] depth fuel r
          return sequence items r
        else bare p r
      | some .blockSequenceStart =>
        if place = .flow then bare p r
        else
          let (items, r) ← blockItems [.blockEntry, .blockEnd] depth fuel r.skip
          if r.peek = some .blockEnd then return sequence items r.skip else .error .malformed
      | some .blockMappingStart =>
        if place = .flow then bare p r
        else
          let (pairs, r) ← blockPairs depth fuel r.skip
          return mapping pairs r
      | _ => bare p r
termination_by structural fuel

/-- A node, unless one of some tokens shows that it is left out. -/
def nodeUnless (ends : List Token) (place : Place) (depth : Nat) (fuel : Nat) (r : Reader) :
    Except ReadError (Node × Reader) :=
  match fuel with
  | 0 => .error .malformed
  | fuel + 1 => if r.isAt ends then .ok (emptyScalar, r) else node place depth fuel r
termination_by structural fuel

/-- The items of a block, each after a hyphen; an item can be left out before one of `ends`. -/
def blockItems (ends : List Token) (depth : Nat) (fuel : Nat) (r : Reader) :
    Except ReadError (List Node × Reader) :=
  match fuel with
  | 0 => .error .malformed
  | fuel + 1 => do
    if r.peek = some .blockEntry then
      let (item, r) ← nodeUnless ends .block depth fuel r.skip
      let (items, r) ← blockItems ends depth fuel r
      return (item :: items, r)
    else return ([], r)
termination_by structural fuel

/-- The value of a key: after a colon, or left out. -/
def valueUnless (ends : List Token) (place : Place) (depth : Nat) (fuel : Nat) (r : Reader) :
    Except ReadError (Node × Reader) :=
  match fuel with
  | 0 => .error .malformed
  | fuel + 1 =>
    if r.peek = some .value then nodeUnless ends place depth fuel r.skip
    else .ok (emptyScalar, r)
termination_by structural fuel

/-- The keys and values of a block, up to its end. -/
def blockPairs (depth : Nat) (fuel : Nat) (r : Reader) :
    Except ReadError (List (Node × Node) × Reader) :=
  match fuel with
  | 0 => .error .malformed
  | fuel + 1 => do
    if r.peek = some .key then
      let (key, r) ← nodeUnless [.key, .value, .blockEnd] .blockValue depth fuel r.skip
      let (value, r) ← valueUnless [.key, .value, .blockEnd] .blockValue depth fuel r
      let (pairs, r) ← blockPairs depth fuel r
      return ((key, value) :: pairs, r)
    else if r.peek = some .blockEnd then return ([], r.skip)
    else .error .malformed
termination_by structural fuel

/-- The items between brackets, up to the closing one. A key there stands for a mapping of its own. -/
def flowItems (first : Bool) (depth : Nat) (fuel : Nat) (r : Reader) :
    Except ReadError (List Node × Reader) :=
  match fuel with
  | 0 => .error .malformed
  | fuel + 1 => do
    if r.peek = some .flowSequenceEnd then return ([], r.skip)
    if !first && r.peek ≠ some .flowEntry then .error .malformed
    let r := if first then r else r.skip
    if r.peek = some .flowSequenceEnd then return ([], r.skip)
    let (item, r) ←
      if r.peek = some .key then do
        let (key, r) ← nodeUnless [.value, .flowEntry, .flowSequenceEnd] .flow depth fuel r.skip
        let (value, r) ← valueUnless [.flowEntry, .flowSequenceEnd] .flow depth fuel r
        pure (Node.mapping .mapping [(key, value)], r)
      else node .flow depth fuel r
    let (items, r) ← flowItems false depth fuel r
    return (item :: items, r)
termination_by structural fuel

/-- The keys and values between braces, up to the closing one. -/
def flowPairs (first : Bool) (depth : Nat) (fuel : Nat) (r : Reader) :
    Except ReadError (List (Node × Node) × Reader) :=
  match fuel with
  | 0 => .error .malformed
  | fuel + 1 => do
    if r.peek = some .flowMappingEnd then return ([], r.skip)
    if !first && r.peek ≠ some .flowEntry then .error .malformed
    let r := if first then r else r.skip
    if r.peek = some .flowMappingEnd then return ([], r.skip)
    let (pair, r) ←
      if r.peek = some .key then do
        let (key, r) ← nodeUnless [.value, .flowEntry, .flowMappingEnd] .flow depth fuel r.skip
        let (value, r) ← valueUnless [.flowEntry, .flowMappingEnd] .flow depth fuel r
        pure ((key, value), r)
      else do
        let (key, r) ← node .flow depth fuel r
        pure ((key, emptyScalar), r)
    let (pairs, r) ← flowPairs false depth fuel r
    return (pair :: pairs, r)
termination_by structural fuel

end

/-! ## Documents -/

/-- Without the marks that end a document. -/
def dropEnds : List Token → List Token
  | .documentEnd :: rest => dropEnds rest
  | ts => ts

/-- The handles that the directives before a document give, and the rest from the document on. A
directive cannot be repeated, and the version must be one that is known. -/
def directives (versioned : Bool) (handles : List (String × String)) :
    List Token → Except ReadError (List (String × String) × List Token)
  | .directive (.version major _) :: rest =>
    if versioned || major != 1 then .error .malformed else directives true handles rest
  | .directive (.handle handle start) :: rest =>
    if (handles.lookup handle).isSome then .error .malformed
    else directives versioned (handles ++ [(handle, start)]) rest
  | .directive .other :: rest => directives versioned handles rest
  | ts => .ok (handles, ts)

/-- The handles that need no directive. -/
def knownHandles : List (String × String) :=
  [("!", "!"), ("!!", Tag.knownStart)]

/-- The text starts with a document that has no mark of its own. -/
def isImplicit (ts : List Token) : Bool :=
  match ts.head? with
  | some (.directive _) | some .documentStart | none => false
  | some _ => true

/-- Nothing but marks that end documents is left. -/
def isOver (ts : List Token) : Bool :=
  (dropEnds ts).isEmpty

end Reader

/-- How deeply the nodes of a document may nest. -/
def mostNested : Nat := 480

/-- The document that starts here, which must be the last. -/
def readContent (handles : List (String × String)) (ts : List Token) : Except ReadError Node := do
  let (node, r) ← Reader.node .block mostNested (4 * ts.length + 8) ⟨ts, [], handles⟩
  if Reader.isOver r.rest then return node else .error .malformed

/-- The node of a text that holds one document, or none. -/
def readDocument (text : String) : Except ReadError (Option Node) := do
  let ts ← scan text.toList
  if Reader.isImplicit ts then return some (← readContent Reader.knownHandles ts)
  else if ts.isEmpty then return none
  else
    let (handles, ts) ← Reader.directives false [] ts
    match ts with
    | .documentStart :: rest =>
      match rest.head? with
      | none => return some Reader.emptyScalar
      | some (.directive _) | some .documentStart => .error .malformed
      | some .documentEnd =>
        if Reader.isOver rest then return some Reader.emptyScalar else .error .malformed
      | some _ => return some (← readContent (handles ++ Reader.knownHandles) rest)
    | _ => .error .malformed

end Reckon.Yaml
