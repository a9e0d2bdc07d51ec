import Reckon.Text.Blank
import Reckon.Text.Digit
import Reckon.Number.Binary

/-!
# `Number.Numeral` — numbers read from text

A numeral is digits with at most one point among them and perhaps an exponent; a sign, blanks around
it, single low lines between digits and the digits of any script are allowed, and so are the words for
infinity and not-a-number. The value is the nearest number.
-/

namespace Reckon.Number

open Reckon.Text

/-- The number nearest to `digits · 10 ^ exponent`. Beyond four hundred places either way the answer is
infinity or zero, and the power is not worked out. -/
def nearestDecimal (digits : Nat) (exponent : Int) : Float :=
  let places : Int := (Nat.repr digits).length + exponent
  if digits = 0 || places < -400 then 0.0
  else if 400 < places then 1.0 / 0.0
  else if exponent < 0 then Float.ofScientific digits true (-exponent).toNat
  else Float.ofScientific digits false exponent.toNat

/-- The number that a run of decimal digits spells. -/
def natOfDigits (digits : List Char) : Nat :=
  digits.foldl (fun n c => 10 * n + (digitValue? c).getD 0) 0

/-- The parts of a plain numeral: the digits before and after the point, and the exponent. -/
structure Numeral where
  whole : List Char
  fraction : List Char
  exponent : Int

/-- The nearest number to a numeral. -/
def Numeral.value (n : Numeral) : Float :=
  nearestDecimal (natOfDigits (n.whole ++ n.fraction)) (n.exponent - n.fraction.length)

/-- An exponent: a mark, perhaps a sign, and digits up to the end. -/
def readExponent? : List Char → Option Int
  | [] => some 0
  | mark :: rest =>
    if mark == 'e' || mark == 'E' then
      let (negative, digits) : Bool × List Char :=
        match rest with
        | '-' :: digits => (true, digits)
        | '+' :: digits => (false, digits)
        | digits => (false, digits)
      if digits.isEmpty || !digits.all Char.isDigit then none
      else
        let n : Int := natOfDigits digits
        some (if negative then -n else n)
    else none

/-- A numeral of ASCII digits, without sign. -/
def Numeral.read? (s : List Char) : Option Numeral :=
  let whole := s.takeWhile Char.isDigit
  let rest := s.dropWhile Char.isDigit
  let (fraction, tail) : List Char × List Char :=
    match rest with
    | '.' :: more => (more.takeWhile Char.isDigit, more.dropWhile Char.isDigit)
    | _ => ([], rest)
  if whole.isEmpty && fraction.isEmpty then none
  else (readExponent? tail).map fun exponent => ⟨whole, fraction, exponent⟩

/-- Every low line stands between two digits. -/
def lowLinesBetweenDigits (previous : Char) : List Char → Bool
  | [] => previous != '_'
  | c :: rest =>
    (if c == '_' then previous.isDigit else previous != '_' || c.isDigit) &&
      lowLinesBetweenDigits c rest

/-- Digits of any script become ASCII digits, blanks beyond ASCII spaces. -/
def asciiDigits (s : List Char) : List Char :=
  s.map fun c =>
    if c.val < 128 then c
    else
      match digitValue? c with
      | some n => Nat.digitChar n
      | none => if isBlank c then ' ' else c

/-- The spaces, tabulators and line ends of ASCII. -/
def isAsciiBlank (c : Char) : Bool :=
  c == ' ' || 9 ≤ c.toNat && c.toNat ≤ 13

/-- A text in ASCII digits, without the blanks around it. -/
def numeralCore (text : String) : List Char :=
  let spread := asciiDigits text.toList
  ((spread.dropWhile isAsciiBlank).reverse.dropWhile isAsciiBlank).reverse

/-- The whole number that a text spells. -/
def integer? (text : String) : Option Int :=
  let core := numeralCore text
  let (negative, unsigned) : Bool × List Char :=
    match core with
    | '-' :: rest => (true, rest)
    | '+' :: rest => (false, rest)
    | rest => (false, rest)
  let digits := unsigned.filter (· != '_')
  if digits.isEmpty || !digits.all Char.isDigit || !lowLinesBetweenDigits ' ' unsigned then none
  else
    let n : Int := natOfDigits digits
    some (if negative then -n else n)

/-- The number that a text spells. -/
def number? (text : String) : Option Float :=
  let core := numeralCore text
  if core.contains '_' && !lowLinesBetweenDigits ' ' core then none
  else
    let plain := core.filter (· != '_')
    let (negative, unsigned) : Bool × List Char :=
      match plain with
      | '-' :: rest => (true, rest)
      | '+' :: rest => (false, rest)
      | rest => (false, rest)
    let word := String.ofList (unsigned.map Char.toLower)
    let magnitude :=
      if word = "inf" || word = "infinity" then some (1.0 / 0.0)
      else if word = "nan" then some (0.0 / 0.0)
      else (Numeral.read? unsigned).map Numeral.value
    magnitude.map fun x => if negative then -x else x

/-- The number nearest to a whole number, unless it is too large for one. -/
def ofInt? (n : Int) : Option Float :=
  let x := nearestDecimal n.natAbs 0
  if x.isInf then none else some (if n < 0 then -x else x)

end Reckon.Number
