import Reckon.Json.Basic
import Reckon.Number.Overflow
import Reckon.Nesting
import Reckon.Number.Numeral

/-!
# `Json.Reader` — documents from text

The reader takes one document and nothing after it but blanks. Besides the standard it knows the words
for not-a-number and the infinities, and of a field that is given twice the last document counts.

Every function returns the characters it left over, with the proof that they are fewer. A fault is
reported with the number of characters that were left when it was met; `SyntaxFault.message` turns
that into line, column and position.
-/

namespace Reckon.Json

/-- What is wrong with a text. -/
inductive Defect where
  | byteOrderMark
  | expectedValue
  | expectedName
  | expectedColon
  | expectedComma
  | unterminatedString
  | controlCharacter
  | invalidEscape
  | invalidCodePoint
  | extraData
deriving Repr, DecidableEq

namespace Defect

/-- A defect in words. -/
def message : Defect → String
  | byteOrderMark => "Unexpected UTF-8 BOM (decode using utf-8-sig)"
  | expectedValue => "Expecting value"
  | expectedName => "Expecting property name enclosed in double quotes"
  | expectedColon => "Expecting ':' delimiter"
  | expectedComma => "Expecting ',' delimiter"
  | unterminatedString => "Unterminated string starting at"
  | controlCharacter => "Invalid control character at"
  | invalidEscape => "Invalid \\escape"
  | invalidCodePoint => "Invalid \\uXXXX escape"
  | extraData => "Extra data"

end Defect

/-- Why the reader stops. -/
inductive Stop where
  /-- a defect, with this many characters left -/
  | defect (what : Defect) (left : Nat)
  /-- a whole number of more digits than are read -/
  | tooManyDigits (count : Nat)
  | nestedTooDeeply
deriving Repr, DecidableEq

/-- The blanks of the format. -/
def isSpace (c : Char) : Bool :=
  c == ' ' || c == '\t' || c == '\n' || c == '\r'

/-- The text after the blanks in front. -/
def skipSpace (s : List Char) : List Char :=
  s.dropWhile isSpace

theorem skipSpace_length (s : List Char) : (skipSpace s).length ≤ s.length :=
  (List.dropWhile_suffix _).length_le

/-- Fewer characters than `s`. -/
abbrev Fewer (s : List Char) := { rest : List Char // rest.length < s.length }

/-- The value of a digit in base sixteen. -/
def hexValue? (c : Char) : Option Nat :=
  if '0' ≤ c && c ≤ '9' then some (c.toNat - '0'.toNat)
  else if 'a' ≤ c && c ≤ 'f' then some (c.toNat - 'a'.toNat + 10)
  else if 'A' ≤ c && c ≤ 'F' then some (c.toNat - 'A'.toNat + 10)
  else none

/-- The value of four digits in base sixteen. -/
def unit? (a b c d : Char) : Option Nat :=
  match hexValue? a, hexValue? b, hexValue? c, hexValue? d with
  | some a, some b, some c, some d => some (((a * 16 + b) * 16 + c) * 16 + d)
  | _, _, _, _ => none

/-- The character of a short escape. -/
def shortEscape? (c : Char) : Option Char :=
  if c == '"' || c == '\\' || c == '/' then some c
  else if c == 'b' then some '\x08'
  else if c == 'f' then some '\x0c'
  else if c == 'n' then some '\n'
  else if c == 'r' then some '\r'
  else if c == 't' then some '\t'
  else none

/-- The character of a pair of units beyond sixteen bits. -/
def pairedChar? (high low : Nat) : Option Char :=
  if 0xD800 ≤ high && high < 0xDC00 && 0xDC00 ≤ low && low < 0xE000 then
    some (Char.ofNat (0x10000 + (high - 0xD800) * 0x400 + (low - 0xDC00)))
  else none

/-- The character of a unit that stands alone; half a pair is replaced. -/
def loneChar (n : Nat) : Char :=
  if 0xD800 ≤ n && n < 0xE000 then '\uFFFD' else Char.ofNat n

/-- Put a character in front of what was read. -/
def consRead (c : Char) : Except Stop (List Char × List Char) → Except Stop (List Char × List Char)
  | .ok (text, rest) => .ok (c :: text, rest)
  | .error stop => .error stop

/-- A text up to its closing quote, and what follows. `opening` is the number of characters from the
opening quote on. -/
def readString (opening : Nat) : List Char → Except Stop (List Char × List Char)
  | [] => .error (.defect .unterminatedString opening)
  | '"' :: rest => .ok ([], rest)
  | '\\' :: 'u' :: a :: b :: c :: d :: '\\' :: 'u' :: e :: f :: g :: h :: i :: rest =>
    match unit? a b c d with
    | none => .error (.defect .invalidCodePoint (rest.length + 12))
    | some high =>
      if 0xD800 ≤ high && high < 0xDC00 then
        match unit? e f g h with
        | none => .error (.defect .invalidCodePoint (rest.length + 6))
        | some low =>
          match pairedChar? high low with
          | some c => consRead c (readString opening (i :: rest))
          | none =>
            consRead (loneChar high)
              (readString opening ('\\' :: 'u' :: e :: f :: g :: h :: i :: rest))
      else
        consRead (loneChar high)
          (readString opening ('\\' :: 'u' :: e :: f :: g :: h :: i :: rest))
  | '\\' :: 'u' :: a :: b :: c :: d :: e :: rest =>
    match unit? a b c d with
    | none => .error (.defect .invalidCodePoint (rest.length + 6))
    | some n => consRead (loneChar n) (readString opening (e :: rest))
  | '\\' :: 'u' :: rest => .error (.defect .invalidCodePoint (rest.length + 1))
  | ['\\'] => .error (.defect .unterminatedString opening)
  | '\\' :: c :: rest =>
    match shortEscape? c with
    | some c => consRead c (readString opening rest)
    | none => .error (.defect .invalidEscape (rest.length + 2))
  | c :: rest =>
    if c.toNat < 0x20 then .error (.defect .controlCharacter (rest.length + 1))
    else consRead c (readString opening rest)

/-- What was read is longer than nothing by what was consumed. -/
theorem consRead_ok {c : Char} {r : Except Stop (List Char × List Char)} {text rest : List Char}
    (h : consRead c r = .ok (text, rest)) : ∃ text', r = .ok (text', rest) := by
  cases r with
  | error stop => simp [consRead] at h
  | ok p =>
    obtain ⟨t, s⟩ := p
    simp only [consRead, Except.ok.injEq, Prod.mk.injEq] at h
    exact ⟨t, by rw [h.2]⟩

theorem readString_length {opening : Nat} {s text rest : List Char}
    (h : readString opening s = .ok (text, rest)) : rest.length < s.length := by
  fun_induction readString opening s generalizing text with
  | case1 => simp at h
  | case2 => simp_all
  | case3 => simp at h
  | case4 => simp at h
  | case5 =>
    rename_i ih
    obtain ⟨t, ht⟩ := consRead_ok h
    have := ih ht
    simp at this ⊢
    omega
  | case6 =>
    rename_i ih
    obtain ⟨t, ht⟩ := consRead_ok h
    have := ih ht
    simp at this ⊢
    omega
  | case7 =>
    rename_i ih
    obtain ⟨t, ht⟩ := consRead_ok h
    have := ih ht
    simp at this ⊢
    omega
  | case8 => simp at h
  | case9 =>
    rename_i ih
    obtain ⟨t, ht⟩ := consRead_ok h
    have := ih ht
    simp at this ⊢
    omega
  | case10 => simp at h
  | case11 => simp at h
  | case12 =>
    rename_i ih
    obtain ⟨t, ht⟩ := consRead_ok h
    have := ih ht
    simp at this ⊢
    omega
  | case13 => simp at h
  | case14 => simp at h
  | case15 =>
    rename_i ih
    obtain ⟨t, ht⟩ := consRead_ok h
    have := ih ht
    simp at this ⊢
    omega

/-- The parts of a number in a document. -/
structure NumberText where
  negative : Bool
  whole : List Char
  /-- the digits after a point, if there is one -/
  fraction : Option (List Char)
  /-- the exponent, if there is one -/
  exponent : Option Int

/-- The digits of a whole part: a zero alone, or digits that do not start with zero. -/
def readWhole? : List Char → Option (List Char × List Char)
  | [] => none
  | c :: rest =>
    if c == '0' then some (['0'], rest)
    else if c.isDigit then some (c :: rest.takeWhile Char.isDigit, rest.dropWhile Char.isDigit)
    else none

/-- A fraction, when a digit follows the point. -/
def readFraction (s : List Char) : Option (List Char) × List Char :=
  match s with
  | '.' :: rest =>
    let digits := rest.takeWhile Char.isDigit
    if digits.isEmpty then (none, s) else (some digits, rest.dropWhile Char.isDigit)
  | _ => (none, s)

/-- The digits of an exponent after its mark and sign. -/
def exponentDigits (negative : Bool) (s rest : List Char) : Option Int × List Char :=
  let digits := rest.takeWhile Char.isDigit
  if digits.isEmpty then (none, s)
  else
    let n : Int := Number.natOfDigits digits
    (some (if negative then -n else n), rest.dropWhile Char.isDigit)

/-- An exponent, when it has digits. -/
def readExponent (s : List Char) : Option Int × List Char :=
  match s with
  | mark :: rest =>
    if mark == 'e' || mark == 'E' then
      match rest with
      | '-' :: rest => exponentDigits true s rest
      | '+' :: rest => exponentDigits false s rest
      | rest => exponentDigits false s rest
    else (none, s)
  | [] => (none, s)

/-- The document that a number spells: a whole number when it has neither fraction nor exponent. -/
def NumberText.document (n : NumberText) : Except Stop Json :=
  if n.fraction.isNone && n.exponent.isNone then
    if Number.mostDigits < n.whole.length then .error (.tooManyDigits n.whole.length)
    else
      let magnitude : Int := Number.natOfDigits n.whole
      .ok (.integer (if n.negative then -magnitude else magnitude))
  else
    let x := Number.Numeral.value ⟨n.whole, n.fraction.getD [], n.exponent.getD 0⟩
    .ok (.real (if n.negative then -x else x))

/-- A number at the front of a text. -/
def readNumber? (s : List Char) : Option (NumberText × List Char) :=
  let (negative, unsigned) : Bool × List Char :=
    match s with
    | '-' :: rest => (true, rest)
    | rest => (false, rest)
  (readWhole? unsigned).map fun (whole, rest) =>
    let (fraction, rest) := readFraction rest
    let (exponent, rest) := readExponent rest
    (⟨negative, whole, fraction, exponent⟩, rest)

theorem readWhole?_length {s whole rest : List Char} (h : readWhole? s = some (whole, rest)) :
    rest.length < s.length := by
  unfold readWhole? at h
  split at h
  · simp at h
  · rename_i c more
    have : (more.dropWhile Char.isDigit).length ≤ more.length :=
      (List.dropWhile_suffix _).length_le
    split at h
    · simp_all
    · split at h
      · obtain ⟨-, rfl⟩ := by simpa using h
        simp
        omega
      · simp at h

theorem readFraction_length (s : List Char) : (readFraction s).2.length ≤ s.length := by
  unfold readFraction
  split
  · rename_i rest
    have : (rest.dropWhile Char.isDigit).length ≤ rest.length :=
      (List.dropWhile_suffix _).length_le
    dsimp only
    split
    · simp
    · simp
      omega
  · simp

theorem exponentDigits_length {negative : Bool} {s rest : List Char}
    (h : rest.length ≤ s.length) : (exponentDigits negative s rest).2.length ≤ s.length := by
  have : (rest.dropWhile Char.isDigit).length ≤ rest.length := (List.dropWhile_suffix _).length_le
  unfold exponentDigits
  dsimp only
  split
  · simp
  · simp
    omega

theorem readExponent_length (s : List Char) : (readExponent s).2.length ≤ s.length := by
  unfold readExponent
  split
  · split
    · split <;> exact exponentDigits_length (by grind)
    · simp
  · simp

theorem readNumber?_length {s : List Char} {p : NumberText × List Char}
    (h : readNumber? s = some p) : p.2.length < s.length := by
  unfold readNumber? at h
  obtain ⟨⟨whole, rest⟩, hw, rfl⟩ := Option.map_eq_some_iff.1 h
  have h1 := readWhole?_length hw
  have h2 := readFraction_length rest
  have h3 := readExponent_length (readFraction rest).2
  have h4 : ∀ t : List Char, (match t with
      | '-' :: rest => ((true, rest) : Bool × List Char)
      | rest => (false, rest)).2.length ≤ t.length := by
    intro t
    split <;> simp
  have h5 := h4 s
  simp only at h1 h5 ⊢
  omega

/-- A word with a document of its own at the front of a text. -/
def readWord? (s : List Char) : Option (Json × Fewer s) :=
  let accept? (word : String) (d : Json) : Option (Json × Fewer s) :=
    if word.toList.isPrefixOf s then
      if h : (s.drop word.toList.length).length < s.length then
        some (d, ⟨s.drop word.toList.length, h⟩)
      else none
    else none
  (accept? "null" .null).or <| (accept? "true" (.boolean true)).or <|
    (accept? "false" (.boolean false)).or <| (accept? "NaN" (.real (0.0 / 0.0))).or <|
    (accept? "Infinity" (.real (1.0 / 0.0))).or <| accept? "-Infinity" (.real (-1.0 / 0.0))

mutual

/-- The document at the front of a text. -/
def readValue (allowance : Allowance) (s : List Char) : Except Stop (Json × Fewer s) :=
  match s with
  | [] => .error (.defect .expectedValue 0)
  | '"' :: rest =>
    match h : readString (rest.length + 1) rest with
    | .error stop => .error stop
    | .ok (text, after) =>
      .ok (.string (String.ofList text),
        ⟨after, by have := readString_length h; simp; omega⟩)
  | '\x7b' :: rest =>
    match allowance.descend with
    | none => .error .nestedTooDeeply
    | some inner =>
      match h : skipSpace rest with
      | '\x7d' :: after =>
        .ok (.object [], ⟨after, by
          have := skipSpace_length rest; rw [h] at this; simp at this ⊢; omega⟩)
      | body =>
        match readFields inner [] body with
        | .error stop => .error stop
        | .ok (fields, after) =>
          .ok (.object fields, ⟨after.val, by
            have := skipSpace_length rest; have := after.property; rw [h] at *; simp at *; omega⟩)
  | '[' :: rest =>
    match allowance.descend with
    | none => .error .nestedTooDeeply
    | some inner =>
      match h : skipSpace rest with
      | ']' :: after =>
        .ok (.list [], ⟨after, by
          have := skipSpace_length rest; rw [h] at this; simp at this ⊢; omega⟩)
      | body =>
        match readItems inner body with
        | .error stop => .error stop
        | .ok (items, after) =>
          .ok (.list items, ⟨after.val, by
            have := skipSpace_length rest; have := after.property; rw [h] at *; simp at *; omega⟩)
  | s =>
    match readWord? s with
    | some found => .ok found
    | none =>
      match h : readNumber? s with
      | none => .error (.defect .expectedValue s.length)
      | some (number, after) =>
        match number.document with
        | .error stop => .error stop
        | .ok d => .ok (d, ⟨after, readNumber?_length h⟩)
termination_by (s.length, 1)
decreasing_by
  all_goals
    apply Prod.Lex.left
    have := skipSpace_length rest
    grind

/-- The items of a list, from an item on. -/
def readItems (allowance : Allowance) (s : List Char) : Except Stop (List Json × Fewer s) :=
  match readValue allowance s with
  | .error stop => .error stop
  | .ok (item, rest) =>
    match _h : skipSpace rest.val with
    | ']' :: after =>
      .ok ([item], ⟨after, by
        have := skipSpace_length rest.val; have := rest.property; rw [_h] at *; simp at *; omega⟩)
    | ',' :: more =>
      match readItems allowance (skipSpace more) with
      | .error stop => .error stop
      | .ok (items, after) =>
        .ok (item :: items, ⟨after.val, by
          have := skipSpace_length rest.val; have := rest.property
          have := skipSpace_length more; have := after.property
          rw [_h] at *; simp at *; omega⟩)
    | other => .error (.defect .expectedComma other.length)
termination_by (s.length, 2)
decreasing_by
  · exact Prod.Lex.right _ (by omega)
  · apply Prod.Lex.left
    have h1 := skipSpace_length rest.val
    have h2 := rest.property
    have h3 := skipSpace_length more
    rw [_h] at h1
    simp at h1
    omega

/-- The fields of an object, from a name on, after those in `before`. -/
def readFields (allowance : Allowance) (before : List (String × Json)) (s : List Char) :
    Except Stop (List (String × Json) × Fewer s) :=
  match s with
  | '"' :: rest =>
    match h : readString (rest.length + 1) rest with
    | .error stop => .error stop
    | .ok (name, afterName) =>
      match h2 : skipSpace afterName with
      | ':' :: value =>
        match readValue allowance (skipSpace value) with
        | .error stop => .error stop
        | .ok (item, tail) =>
          have fewer : tail.val.length < rest.length := by
            have := readString_length h; have := skipSpace_length afterName
            have := skipSpace_length value; have := tail.property
            rw [h2] at *; simp at *; omega
          let fields := setField before (String.ofList name) item
          match h3 : skipSpace tail.val with
          | '\x7d' :: after =>
            .ok (fields, ⟨after, by
              have := skipSpace_length tail.val; rw [h3] at *; simp at *; omega⟩)
          | ',' :: more =>
            match readFields allowance fields (skipSpace more) with
            | .error stop => .error stop
            | .ok (fields, after) =>
              .ok (fields, ⟨after.val, by
                have := skipSpace_length tail.val; have := skipSpace_length more
                have := after.property; rw [h3] at *; simp at *; omega⟩)
          | other => .error (.defect .expectedComma other.length)
      | other => .error (.defect .expectedColon other.length)
  | s => .error (.defect .expectedName s.length)
termination_by (s.length, 0)
decreasing_by
  · apply Prod.Lex.left
    have h1 := readString_length h
    have h3 := skipSpace_length afterName
    have h4 := skipSpace_length value
    rw [h2] at h3
    simp at h3 ⊢
    omega
  · apply Prod.Lex.left
    have h1 := skipSpace_length tail.val
    have h4 := skipSpace_length more
    rw [h3] at h1
    simp at h1 ⊢
    omega

end

/-- The document that a text spells, all of it. -/
def readDocument (allowance : Allowance) (s : List Char) : Except Stop Json :=
  match s with
  | '\uFEFF' :: _ => .error (.defect .byteOrderMark s.length)
  | s =>
    match readValue allowance (skipSpace s) with
    | .error stop => .error stop
    | .ok (d, rest) =>
      match skipSpace rest.val with
      | [] => .ok d
      | extra => .error (.defect .extraData extra.length)

/-- A defect of a text with its place. -/
structure SyntaxFault where
  what : Defect
  line : Nat
  column : Nat
  position : Nat
deriving Repr, DecidableEq

/-- The place in a text where `left` characters are left. -/
def SyntaxFault.locate (text : List Char) (what : Defect) (left : Nat) : SyntaxFault :=
  let position := text.length - left
  let before := text.take position
  { what
    line := before.count '\n' + 1
    column := (before.reverse.takeWhile (· != '\n')).length + 1
    position }

/-- A defect and its place in words. -/
def SyntaxFault.message (fault : SyntaxFault) : String :=
  s!"{fault.what.message}: line {fault.line} column {fault.column} (char {fault.position})"

/-- Why a text is no document. -/
inductive ReadError where
  | malformed (fault : SyntaxFault)
  | tooManyDigits (count : Nat)
  | nestedTooDeeply
deriving Repr, DecidableEq

/-- Why a text is no document, in words. -/
def ReadError.message : ReadError → String
  | .malformed fault => s!"Invalid JSON: {fault.message}"
  | .tooManyDigits count => Number.tooManyDigitsMessage count
  | .nestedTooDeeply => "Document is nested too deeply"

/-- The document that a text spells. -/
def read (allowance : Allowance) (text : String) : Except ReadError Json :=
  match readDocument allowance text.toList with
  | .ok d => .ok d
  | .error (.defect what left) => .error (.malformed (SyntaxFault.locate text.toList what left))
  | .error (.tooManyDigits count) => .error (.tooManyDigits count)
  | .error .nestedTooDeeply => .error .nestedTooDeeply

end Reckon.Json
