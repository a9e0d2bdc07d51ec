import Reckon.Number.Shortest

/-!
# `Number.Format` — how the digits of a number are laid out

A `Format` holds the decisions of a format; `Format.render` carries them out on the fewest digits
that read back. The library writes numbers in two ways: with a fraction always (`decimalText`), and as
people write them (`displayText`), where whole numbers are written exactly.
-/

namespace Reckon.Number

/-- The decisions of a number format. -/
structure Format where
  /-- the least decimal exponent that is written positionally -/
  leastPositional : Int
  /-- the greatest decimal exponent that is written positionally -/
  greatestPositional : Int
  /-- what follows a positional number without a fraction -/
  wholeSuffix : String
  /-- least number of digits of a written exponent -/
  exponentWidth : Nat
  nan : String
  infinity : String

/-- The digits of `n`, with zeros in front up to `width`. -/
def padded (width n : Nat) : String :=
  let digits := Nat.repr n
  String.ofList (List.replicate (width - digits.length) '0') ++ digits

/-- Lay out the digits of a decimal. -/
def Format.layout (format : Format) (d : Decimal) : String :=
  let digits := (Nat.repr d.digits).toList
  let point : Int := digits.length + d.exponent
  let zeros (n : Int) := List.replicate n.toNat '0'
  let exponent := point - 1
  if format.leastPositional ≤ exponent && exponent ≤ format.greatestPositional then
    if point ≤ 0 then "0." ++ String.ofList (zeros (-point) ++ digits)
    else if (digits.length : Int) ≤ point then
      String.ofList (digits ++ zeros (point - digits.length)) ++ format.wholeSuffix
    else
      String.ofList (digits.take point.toNat) ++ "." ++ String.ofList (digits.drop point.toNat)
  else
    let lead := String.ofList (digits.take 1)
    let fraction := String.ofList (digits.drop 1)
    let sign := if exponent < 0 then "-" else "+"
    lead ++ (if fraction.isEmpty then "" else "." ++ fraction) ++
      "e" ++ sign ++ padded format.exponentWidth exponent.natAbs

/-- The text of a number. -/
def Format.render (format : Format) (x : Float) : String :=
  match Binary.ofFloat x with
  | .nan => format.nan
  | .infinite negative => (if negative then "-" else "") ++ format.infinity
  | .finite negative mantissa exponent =>
    (if negative then "-" else "") ++
      format.layout (if mantissa = 0 then ⟨0, 0⟩ else shortest mantissa exponent)

/-- Positional from `10 ^ -4` up to below `10 ^ 16`, whole numbers with `.0`, else a signed exponent of
two digits or more. -/
def decimalFormat : Format where
  leastPositional := -4
  greatestPositional := 15
  wholeSuffix := ".0"
  exponentWidth := 2
  nan := "nan"
  infinity := "inf"

/-- A number with a fraction always, as data formats and messages about data write it. -/
def decimalText (x : Float) : String :=
  decimalFormat.render x

/-- A number as the language displays it: whole numbers exactly and without a fraction. -/
def displayText (x : Float) : String :=
  if x.isNaN then "NaN"
  else
    match wholePart? x with
    | some n => if isWhole x then toString n else decimalText x
    | none => decimalText x

end Reckon.Number
