import Reckon.Number.Binary

/-!
# `Number.Shortest` — the fewest digits that read back

The reals that round to a number form an interval, from half way to the neighbour below to half way
to the neighbour above; its ends belong to it when the mantissa is even. Written is a decimal of that
interval with as few digits as possible, and among those the nearest. The search tries 1, 2, … digits
and tests the two neighbours of the value on each decimal grid, in exact arithmetic.
-/

namespace Reckon.Number

/-- The decimal `digits · 10 ^ exponent`. -/
structure Decimal where
  digits : Nat
  exponent : Int
deriving Repr, DecidableEq

/-- Compare `a · 10 ^ i` with `n · 2 ^ j`. -/
def compareScaled (a : Nat) (i : Int) (n : Nat) (j : Int) : Ordering :=
  compare (a * Nat.pow 10 i.toNat * Nat.pow 2 (-j).toNat)
    (n * Nat.pow 2 j.toNat * Nat.pow 10 (-i).toNat)

/-- The decimal lies among the reals that round to `mantissa · 2 ^ exponent`. Just above a power of
two the neighbour below is only half as far. -/
def readsBack (mantissa : Nat) (exponent : Int) (d : Decimal) : Bool :=
  let narrow := mantissa == Nat.pow 2 52 && -1074 < exponent
  let low := if narrow then 4 * mantissa - 1 else 4 * mantissa - 2
  let high := 4 * mantissa + 2
  let closed := mantissa % 2 == 0
  let fromLow := compareScaled d.digits d.exponent low (exponent - 2)
  let toHigh := compareScaled d.digits d.exponent high (exponent - 2)
  (fromLow == .gt || closed && fromLow == .eq) && (toHigh == .lt || closed && toHigh == .eq)

/-- The least `k` with `mantissa · 2 ^ exponent < 10 ^ k`, looked for around the estimate that the
binary logarithm gives. -/
def decimalScale (mantissa : Nat) (exponent : Int) : Int :=
  let estimate := (mantissa.log2 + exponent) * 30103 / 100000
  ([estimate - 1, estimate, estimate + 1, estimate + 2].find? fun k =>
    compareScaled 1 k mantissa exponent == .gt).getD (estimate + 3)

/-- The whole number of grid steps `10 ^ grid` below `mantissa · 2 ^ exponent`. -/
def stepsBelow (mantissa : Nat) (exponent grid : Int) : Nat :=
  (mantissa * Nat.pow 2 exponent.toNat * Nat.pow 10 (-grid).toNat) /
    (Nat.pow 2 (-exponent).toNat * Nat.pow 10 grid.toNat)

/-- Of two neighbouring decimals of one grid, the nearer to the value; a tie goes to the even one. -/
def nearer (mantissa : Nat) (exponent : Int) (below : Nat) (grid : Int) : Nat :=
  match compareScaled (2 * below + 1) grid (2 * mantissa) exponent with
  | .gt => below
  | .lt => below + 1
  | .eq => below + below % 2

/-- The decimal of a grid that reads back, if there is one. -/
def onGrid? (mantissa : Nat) (exponent grid : Int) : Option Decimal :=
  let below := stepsBelow mantissa exponent grid
  let low : Decimal := ⟨below, grid⟩
  let high : Decimal := ⟨below + 1, grid⟩
  match readsBack mantissa exponent low, readsBack mantissa exponent high with
  | true, true => some ⟨nearer mantissa exponent below grid, grid⟩
  | true, false => some low
  | false, true => some high
  | false, false => none

/-- Drop trailing zeros, `fuel` of them at most. -/
def stripZeros : Nat → Decimal → Decimal
  | 0, d => d
  | fuel + 1, d =>
    if d.digits ≠ 0 ∧ d.digits % 10 = 0 then stripZeros fuel ⟨d.digits / 10, d.exponent + 1⟩ else d

/-- The exact decimal value of `mantissa · 2 ^ exponent`. -/
def exactDecimal (mantissa : Nat) (exponent : Int) : Decimal :=
  if 0 ≤ exponent then ⟨mantissa * Nat.pow 2 exponent.toNat, 0⟩
  else ⟨mantissa * Nat.pow 5 (-exponent).toNat, exponent⟩

/-- The fewest digits that read back as `mantissa · 2 ^ exponent`, nearest first. Seventeen digits
always suffice. -/
def shortest (mantissa : Nat) (exponent : Int) : Decimal :=
  if mantissa = 0 then ⟨0, 0⟩
  else
    let scale := decimalScale mantissa exponent
    match (List.range 17).findSome? fun n : Nat =>
      onGrid? mantissa exponent (scale - (n + 1 : Nat)) with
    | some d => stripZeros 17 d
    | none => exactDecimal mantissa exponent

end Reckon.Number
