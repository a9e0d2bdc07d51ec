/-!
# `Number.Binary` — what the bits of a number say

A number is not a number, infinite, or `± mantissa · 2 ^ exponent`. Whole parts, remainders and
roundings are taken here in exact arithmetic on mantissa and exponent, so they are right for every
magnitude.

  * `Binary.ofFloat`, `Binary.compose` — decode and encode
  * `wholePart`, `truncate` — cut toward zero
  * `remainder` — the exact remainder, with the sign of the dividend
  * `roundHalfAway`, `roundHalfEven` — to the nearest whole number
-/

namespace Reckon.Number

/-- A decoded number. -/
inductive Binary where
  | nan
  | infinite (negative : Bool)
  | finite (negative : Bool) (mantissa : Nat) (exponent : Int)
deriving Repr, DecidableEq

/-- Decode a number: eleven bits of exponent above fifty-two bits of fraction. -/
def Binary.ofFloat (x : Float) : Binary :=
  let bits := x.toBits.toNat
  let negative : Bool := Nat.pow 2 63 ≤ bits
  let biased : Nat := bits / Nat.pow 2 52 % Nat.pow 2 11
  let fraction : Nat := bits % Nat.pow 2 52
  if biased = 2047 then
    if fraction = 0 then .infinite negative else .nan
  else if biased = 0 then .finite negative fraction (-1074)
  else .finite negative (Nat.pow 2 52 + fraction) ((biased : Int) - 1075)

/-- The number `± mantissa · 2 ^ exponent`, for a mantissa of at most fifty-three bits whose value is a
number. The mantissa is moved up as far as its width and the least exponent allow. -/
def Binary.compose (negative : Bool) (mantissa : Nat) (exponent : Int) : Float :=
  let shift := min (52 - mantissa.log2) (exponent + 1074).toNat
  let fraction := mantissa * Nat.pow 2 shift
  let biased := if fraction < Nat.pow 2 52 then 0 else (exponent - shift + 1075).toNat
  let sign := if negative then Nat.pow 2 63 else 0
  Float.ofBits (UInt64.ofNat (sign + biased * Nat.pow 2 52 + fraction % Nat.pow 2 52))

/-- The sign bit, which zero and not-a-number have too. -/
def isNegative (x : Float) : Bool :=
  Nat.pow 2 63 ≤ x.toBits.toNat

/-- The whole number at `mantissa · 2 ^ exponent`, cut toward zero. -/
def floorScaled (mantissa : Nat) (exponent : Int) : Nat :=
  if 0 ≤ exponent then mantissa * Nat.pow 2 exponent.toNat
  else mantissa / Nat.pow 2 (-exponent).toNat

/-- The whole part of a finite number. -/
def wholePart? (x : Float) : Option Int :=
  match Binary.ofFloat x with
  | .finite negative mantissa exponent =>
    let magnitude := floorScaled mantissa exponent
    some (if negative then -(magnitude : Int) else magnitude)
  | _ => none

/-- The whole part as a number; what is not finite stays. No whole part is a negative zero. -/
def truncate (x : Float) : Float :=
  match wholePart? x with
  | some n => Float.ofInt n
  | none => x

/-- The number is finite and whole. -/
def isWhole (x : Float) : Bool :=
  match Binary.ofFloat x with
  | .finite _ mantissa exponent =>
    0 ≤ exponent || mantissa % Nat.pow 2 (-exponent).toNat == 0
  | _ => false

/-- The exact remainder of truncating division, with the sign of the dividend. There is none when the
divisor is zero or the dividend infinite. -/
def remainder (x y : Float) : Float :=
  match Binary.ofFloat x, Binary.ofFloat y with
  | .finite negative m q, .finite _ n r =>
    if n = 0 then 0.0 / 0.0
    else
      let least := min q r
      let dividend := m * Nat.pow 2 (q - least).toNat
      let divisor := n * Nat.pow 2 (r - least).toNat
      Binary.compose negative (dividend % divisor) least
  | .finite _ _ _, .infinite _ => x
  | _, _ => 0.0 / 0.0

/-- The whole number below `|x| + 1/2`, where the sum is itself rounded to a number, with the sign of
`x`; what is not finite stays. -/
def roundHalfAway (x : Float) : Float :=
  match wholePart? (x.abs + 0.5) with
  | some n =>
    if x.isFinite then (if isNegative x then -(Float.ofInt n) else Float.ofInt n) else x
  | none => x

/-- The whole number nearest to `mantissa · 2 ^ exponent`; a half goes to the even neighbour. -/
def nearestEven (mantissa : Nat) (exponent : Int) : Nat :=
  if 0 ≤ exponent then mantissa * Nat.pow 2 exponent.toNat
  else
    let unit := Nat.pow 2 (-exponent).toNat
    let below := mantissa / unit
    let rest := mantissa % unit
    if 2 * rest < unit then below
    else if unit < 2 * rest then below + 1
    else below + below % 2

/-- The whole number nearest to a finite number; a half goes to the even neighbour. -/
def roundHalfEven? (x : Float) : Option Int :=
  match Binary.ofFloat x with
  | .finite negative mantissa exponent =>
    let magnitude := nearestEven mantissa exponent
    some (if negative then -(magnitude : Int) else magnitude)
  | _ => none

end Reckon.Number
