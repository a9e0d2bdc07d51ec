import Reckon.Number.Format
import Reckon.Plain
import Reckon.Yaml.Node

/-!
# `Yaml.Datum` — what a document says

A scalar becomes a datum of the kind that its tag names. A mapping keeps its keys in order, each once,
with the last of its values; keys that are equal as numbers are one. Sequences and mappings cannot be
keys.

  * `Node.toDatum` — the datum of a node
  * `read` — the datum of a text
  * `Datum.toPlain?`, `Datum.entries?` — data and named data that may become values
-/

namespace Reckon.Yaml

/-- What a document says. -/
inductive Datum where
  | null
  | boolean (value : Bool)
  | integer (value : Int)
  | real (value : Float)
  | text (value : String)
  | bytes (value : List UInt8)
  | date (value : Calendar.Date)
  | moment (value : Calendar.Stamp)
  | list (items : List Datum)
  | mapping (pairs : List (Datum × Datum))
  | set (keys : List Datum)
  /-- a datum that this one stands in -/
  | cycle

namespace Datum

/-- A number without regard to its kind; the truth values are one and zero. -/
def whole? : Datum → Option Int
  | boolean b => some (if b then 1 else 0)
  | integer n => some n
  | real x => if Number.isWhole x then Number.wholePart? x else none
  | _ => none

/-- Two data are the same as keys. -/
def sameKey (a b : Datum) : Bool :=
  match a, b with
  | null, null => true
  | text s, text t => s == t
  | bytes s, bytes t => s == t
  | date d, date e => d == e
  | moment d, moment e =>
    if d.offset.isNone || e.offset.isNone then d == e
    else
      d.moment.microseconds - d.offset.getD 0 == e.moment.microseconds - e.offset.getD 0
  | real x, real y => x == y || x.isNaN && y.isNaN
  | a, b =>
    match a.whole?, b.whole? with
    | some m, some n => m == n
    | _, _ => false

/-- A datum can be a key. -/
def canBeKey : Datum → Bool
  | list _ | mapping _ | set _ | cycle => false
  | _ => true

/-- With a value under a key, in the place of the key if it is there. -/
def put (key value : Datum) : List (Datum × Datum) → List (Datum × Datum)
  | [] => [(key, value)]
  | (k, v) :: rest => if k.sameKey key then (k, value) :: rest else (k, v) :: put key value rest

/-- Keys and values, each key once. -/
def ofPairs (pairs : List (Datum × Datum)) : List (Datum × Datum) :=
  pairs.foldl (fun all pair => put pair.1 pair.2 all) []

end Datum

/-! ## Scalars -/

/-- A truth value. -/
def booleanOf (text : String) : Except ReadError Datum :=
  let word := Text.lower text
  if ["yes", "true", "on"].contains word then .ok (.boolean true)
  else if ["no", "false", "off"].contains word then .ok (.boolean false)
  else .error (.flawed (.noTruth word))

/-- The value of a digit in bases up to sixteen. -/
def digitIn? (base : Nat) (c : Char) : Option Nat :=
  let value :=
    match Text.digitValue? c with
    | some n => some n
    | none => if isHex c then some (numberOfHex [c]) else none
  value.filter (· < base)

/-- Without the mark of a base in front. -/
def withoutBase (base : Nat) (s : List Char) : List Char :=
  match s with
  | '0' :: mark :: rest =>
    let marks : List Char :=
      match base with
      | 2 => ['b', 'B']
      | 8 => ['o', 'O']
      | 16 => ['x', 'X']
      | _ => []
    if marks.contains mark then rest else s
  | s => s

/-- The whole number that digits of a base spell. There may be blanks around it, a sign, and the mark
of the base. -/
def wholeIn (base : Nat) (digits : List Char) : Except ReadError Int :=
  let core := Text.trim digits
  let magnitude := withoutBase base (Tag.unsigned core)
  match magnitude.mapM (digitIn? base) with
  | none | some [] => .error (.flawed (.noWhole base (String.ofList digits)))
  | some values =>
    if base = 10 && Number.mostDigits < values.length then
      .error (.flawed (.tooManyDigits values.length))
    else
      let n : Nat := values.foldl (fun n d => base * n + d) 0
      .ok (if core.head? = some '-' then -(n : Int) else n)

/-- Without the low lines, and without the sign; and whether that was a minus. -/
def signedPart (text : String) : Except ReadError (Bool × List Char) :=
  match text.toList.filter (· != '_') with
  | [] => .error (.flawed .noCharacters)
  | c :: rest => .ok (c == '-', if c == '-' || c == '+' then rest else c :: rest)

/-- A whole number: in base two, eight, sixteen or ten, or parts in base sixty. -/
def integerOf (text : String) : Except ReadError Datum := do
  let (negative, digits) ← signedPart text
  let magnitude ←
    match digits with
    | ['0'] => .ok 0
    | '0' :: 'b' :: rest => wholeIn 2 rest
    | '0' :: 'x' :: rest => wholeIn 16 rest
    | '0' :: _ => wholeIn 8 digits
    | [] => .error (.flawed .noCharacters)
    | _ =>
      if digits.contains ':' then do
        let parts ← (Text.splitOn [':'] digits).mapM (wholeIn 10)
        pure (parts.foldl (fun n part => 60 * n + part) 0)
      else wholeIn 10 digits
  return .integer (if negative then -magnitude else magnitude)

/-- The number that digits spell. -/
def realIn (digits : List Char) : Except ReadError Float :=
  match Number.number? (String.ofList digits) with
  | some x => .ok x
  | none => .error (.flawed (.noReal (String.ofList digits)))

/-- The sum of parts in base sixty, the last first. The first part counts `unit` times, and every other
sixty times as much as the one before. -/
def ofSixtieths (unit : Nat) (sum : Float) : List Float → Except ReadError Float
  | [] => .ok sum
  | part :: rest =>
    match Number.ofInt? unit with
    | some weight => ofSixtieths (60 * unit) (sum + part * weight) rest
    | none => .error .integerTooLarge

/-- A number with a fraction, or infinite, or not a number. -/
def realOf (text : String) : Except ReadError Datum := do
  let (negative, digits) ← signedPart (Text.lower text)
  let word := String.ofList digits
  if word = ".nan" then return .real (0.0 / 0.0)
  let magnitude ←
    if word = ".inf" then .ok (1.0 / 0.0)
    else if digits.contains ':' then do
      let parts ← (Text.splitOn [':'] digits).mapM realIn
      ofSixtieths 1 0.0 parts.reverse
    else realIn digits
  return .real (if negative then -magnitude else magnitude)

/-- A date, or a moment. -/
def timestampOf (text : String) : Except ReadError Datum := do
  let flawed (cause : Calendar.ReadingError) : ReadError := .flawed (.moment cause)
  match Timestamp.read? true text.toList with
  | none => .error (.flawed .noTimestamp)
  | some t =>
    match t.time with
    | none =>
      return .date (← (Calendar.Date.of t.year t.month t.day).mapError fun e => flawed (.date e))
    | some (hour, minute, second) =>
      let offset := t.zone.map (· * 60000000)
      if let some offset := offset then
        if ¬ Calendar.Stamp.IsOffset offset then .error (flawed (.offsetTooLarge offset))
      let date ← (Calendar.Date.of t.year t.month t.day).mapError fun e => flawed (.date e)
      let clock ←
        (Calendar.Clock.of hour minute second t.fraction).mapError fun e => flawed (.clock e)
      return .moment ⟨⟨date, clock⟩, offset⟩

/-- The value of a digit in base sixty-four. -/
def sixtyFourth? (c : Char) : Option Nat :=
  if 'A' ≤ c && c ≤ 'Z' then some (c.toNat - 'A'.toNat)
  else if 'a' ≤ c && c ≤ 'z' then some (c.toNat - 'a'.toNat + 26)
  else if c.isDigit then some (c.toNat - '0'.toNat + 52)
  else if c == '+' then some 62
  else if c == '/' then some 63
  else none

/-- Bytes in base sixty-four, four digits for three bytes. `held` are the digits of an unfinished four,
and `marks` how many equals signs follow them. Other characters do not count. -/
def bytesFrom (held : List Nat) (marks : Nat) : List Char → Option (List UInt8)
  | [] => if held.isEmpty then some [] else none
  | c :: rest =>
    if c == '=' then
      if 2 ≤ held.length && 4 ≤ held.length + marks + 1 then some (bytesOf held)
      else bytesFrom held (marks + 1) rest
    else
      match sixtyFourth? c with
      | none => bytesFrom held marks rest
      | some d =>
        if held.length = 3 then (bytesFrom [] 0 rest).map (bytesOf (held ++ [d]) ++ ·)
        else bytesFrom (held ++ [d]) 0 rest
where
  /-- The whole bytes that up to four digits make up. -/
  bytesOf (digits : List Nat) : List UInt8 :=
    let all := (digits ++ List.replicate (4 - digits.length) 0).foldl (fun n d => 64 * n + d) 0
    ([all / 65536, all / 256, all].map fun n => UInt8.ofNat (n % 256)).take (digits.length - 1)

/-- Bytes in base sixty-four. -/
def binaryOf (text : String) : Except ReadError Datum :=
  let s := text.toList
  if s.all (·.val < 128) then
    match bytesFrom [] 0 s with
    | some bytes => .ok (.bytes bytes)
    | none => .error .malformed
  else .error .malformed

/-- The datum of a scalar. -/
def scalarDatum (tag : Tag) (text : String) : Except ReadError Datum :=
  match tag with
  | .null => .ok .null
  | .boolean => booleanOf text
  | .integer => integerOf text
  | .real => realOf text
  | .text => .ok (.text text)
  | .timestamp => timestampOf text
  | .binary => binaryOf text
  | _ => .error .malformed

/-! ## Nodes -/

/-- The scalar that stands for a mapping: the value of the key for it. -/
def ownScalar? : List (Node × Node) → Option String
  | [] => none
  | (.scalar .ownValue _, .scalar _ text) :: _ => some text
  | _ :: rest => ownScalar? rest

/-- Keys and values of a mapping: those merged into it, and its own. -/
structure Pairs where
  merged : List (Datum × Datum)
  own : List (Datum × Datum)

/-- All of them; what is merged comes first. -/
def Pairs.all (p : Pairs) : List (Datum × Datum) :=
  p.merged ++ p.own

mutual

/-- The datum of a node. -/
def Node.toDatum : Node → Except ReadError Datum
  | .cycle => .ok .cycle
  | .scalar tag text => scalarDatum tag text
  | .sequence tag items =>
    match tag with
    | .sequence => return .list (← itemsToData items)
    | .orderedMapping | .pairs => return .list (← itemsToPairs items)
    | _ => .error .malformed
  | .mapping tag pairs => do
    match tag with
    | .mapping => return .mapping (Datum.ofPairs (← pairsToData pairs).all)
    | .set => return .set ((Datum.ofPairs (← pairsToData pairs).all).map (·.1))
    | .sequence | .orderedMapping | .pairs | .merge | .ownValue | .unknown _ => .error .malformed
    | scalarTag =>
      match ownScalar? pairs with
      | some text => scalarDatum scalarTag text
      | none => .error .malformed

/-- The data of the items of a sequence. -/
def itemsToData : List Node → Except ReadError (List Datum)
  | [] => .ok []
  | item :: rest => do
    let datum ← item.toDatum
    let data ← itemsToData rest
    return datum :: data

/-- The data of items that must be mappings of one key each, as pairs. -/
def itemsToPairs : List Node → Except ReadError (List Datum)
  | [] => .ok []
  | .mapping _ [(key, value)] :: rest => do
    let pair := .list [← key.toDatum, ← value.toDatum]
    let pairs ← itemsToPairs rest
    return pair :: pairs
  | _ => .error .malformed

/-- The data of keys and values. A key to merge brings in the keys and values of a mapping, or of all
mappings in a sequence, the last first. -/
def pairsToData : List (Node × Node) → Except ReadError Pairs
  | [] => .ok ⟨[], []⟩
  | (.scalar .merge _, value) :: rest => do
    let merged ←
      match value with
      | .mapping _ pairs => do pure (← pairsToData pairs).all
      | .sequence _ items => mergedItems items
      | _ => .error .malformed
    let more ← pairsToData rest
    return { more with merged := merged ++ more.merged }
  | (key, value) :: rest => do
    let key ←
      match key with
      | .scalar .ownValue text => .ok (.text text)
      | key => key.toDatum
    if !key.canBeKey then .error .malformed
    let value ← value.toDatum
    let more ← pairsToData rest
    return { more with own := (key, value) :: more.own }

/-- The keys and values of mappings to be merged, the last first. -/
def mergedItems : List Node → Except ReadError (List (Datum × Datum))
  | [] => .ok []
  | .mapping _ pairs :: rest => do
    let data ← pairsToData pairs
    let more ← mergedItems rest
    return more ++ data.all
  | _ => .error .malformed

end

/-- The datum of a text. An empty text is null. -/
def read (text : String) : Except ReadError Datum := do
  match ← readDocument text with
  | none => return .null
  | some node => node.toDatum

/-! ## Data as values and names -/

mutual

/-- The datum as one that may become a value, if its lists nest no deeper than `depth`. -/
def Datum.toPlainWithin? (depth : Nat) : Datum → Option Reckon.Plain
  | .null => some (.foreign "NoneType")
  | .boolean b => some (.boolean b)
  | .integer n => some (.integer n)
  | .real x => some (.real x)
  | .text s => some (.text s)
  | .bytes _ => some (.foreign "bytes")
  | .date _ => some (.foreign "date")
  | .moment _ => some (.foreign "datetime")
  | .list items =>
    match depth with
    | 0 => none
    | depth + 1 => (Datum.itemsToPlainWithin? depth items).map .list
  | .mapping _ => some (.foreign "dict")
  | .set _ => some (.foreign "set")
  | .cycle => none

/-- The items of a list, up to the first that does not become a value; no other is looked at. -/
def Datum.itemsToPlainWithin? (depth : Nat) : List Datum → Option (List Reckon.Plain)
  | [] => some []
  | item :: rest => do
    let plain ← item.toPlainWithin? depth
    match plain.toValue? with
    | .error _ => return [plain]
    | .ok _ =>
      let more ← Datum.itemsToPlainWithin? depth rest
      return plain :: more

end

/-- How deeply the lists of a datum may nest that becomes a value. -/
def mostConverted : Nat := 480

/-- The datum as one that may become a value, unless its lists nest too deeply. A list that stands within
itself nests without end. -/
def Datum.toPlain? (datum : Datum) : Option Reckon.Plain :=
  datum.toPlainWithin? mostConverted

/-- A byte between the quotes `mark`. -/
def byteText (mark : Char) (b : UInt8) : List Char :=
  let c := Char.ofNat b.toNat
  if b.toNat < 0x7F then Text.quoteChar mark c else '\\' :: 'x' :: Text.hexPadded 2 b.toNat

/-- A day with hyphens. -/
def dateText (d : Calendar.Date) : String :=
  s!"{Number.padded 4 d.year}-{Number.padded 2 d.month}-{Number.padded 2 d.day}"

/-- An offset with its sign. -/
def offsetText (offset : Int) : String :=
  let minutes := offset.natAbs / 60000000
  (if offset < 0 then "-" else "+") ++
    s!"{Number.padded 2 (minutes / 60)}:{Number.padded 2 (minutes % 60)}"

/-- A datum as the name of a variable. -/
def Datum.name : Datum → String
  | null => "None"
  | boolean b => if b then "True" else "False"
  | integer n => toString n
  | real x => Number.decimalText x
  | text s => s
  | bytes bs =>
    let cs := bs.map fun b => Char.ofNat b.toNat
    let mark := Text.quoteMark cs
    String.ofList ('b' :: mark :: bs.flatMap (byteText mark) ++ [mark])
  | date d => dateText d
  | moment m =>
    let c := m.moment.clock
    dateText m.moment.date ++
      s!" {Number.padded 2 c.hour}:{Number.padded 2 c.minute}:{Number.padded 2 c.second}" ++
      (if c.microsecond = 0 then "" else s!".{Number.padded 6 c.microsecond}") ++
      (m.offset.map offsetText).getD ""
  | list _ | mapping _ | set _ | cycle => ""

/-- The datum can be written as a name. -/
def Datum.isWritable : Datum → Bool
  | integer n => Number.isWritable n
  | _ => true

/-- The keys of a mapping can be written as names. -/
def Datum.hasWritableKeys : Datum → Bool
  | mapping pairs => pairs.all fun pair => pair.1.isWritable
  | _ => true

/-- The entries of a mapping by name; of a text without data there are none. -/
def Datum.entries? : Datum → Option (List (String × Datum))
  | null => some []
  | mapping pairs => some (pairs.map fun pair => (pair.1.name, pair.2))
  | _ => none

end Reckon.Yaml
