import Reckon.Library.Parameters
import Reckon.Text.Quoted

/-!
# `Library.Numeric` — functions on numbers

Outside its domain a function gives not-a-number, and infinity where its value is too large. What
depends on chance takes it from a `Draw`.
-/

namespace Reckon.Library

/-- A source of chance: a fraction from zero, inclusive, to one, exclusive. -/
structure Draw where
  fraction : Float

/-- A function of one number. -/
def numeric (f : Float → Float) : List Value → Except Failure Value :=
  unary fun v => do return .number (f (← numberOf v))

/-- The part after the point. -/
def fractionPart (x : Float) : Float :=
  x - Number.truncate x

/-- A power. Too large a value is infinite without regard to sign, and zero has no negative powers. -/
def power (x y : Float) : Float :=
  let z := Float.pow x y
  if x.isFinite && y.isFinite && z.isInf then
    if x == 0.0 then 0.0 / 0.0 else 1.0 / 0.0
  else z

/-- The whole part in base sixteen, capital letters. -/
def toHex (v : Value) : Except Failure Value := do
  match Number.wholePart? (← numberOf v) with
  | some n =>
    let digits := (Nat.toDigits 16 n.natAbs).map Char.toUpper
    return .string (String.ofList (if n < 0 then '-' :: digits else digits))
  | none => .error .wrongType

/-- The magnitude of the whole part. -/
def wholeMagnitude (v : Value) : Except Failure Nat := do
  match Number.wholePart? (← numberOf v) with
  | some n => return n.natAbs
  | none => .error .wrongType

/-- The whole part is even. -/
def isEven (v : Value) : Except Failure Value := do
  return .boolean ((← wholeMagnitude v) % 2 == 0)

/-- The whole part is odd. -/
def isOdd (v : Value) : Except Failure Value := do
  return .boolean ((← wholeMagnitude v) % 2 != 0)

/-- A power; the square without an exponent. -/
def toPower (base : Value) (exponent : Option Value) : Except Failure Value := do
  return .number (power (← numberOf base) (← numberOr 2.0 exponent))

/-- A number between zero and a limit by chance; the limit is one when it is not given. -/
def random (draw : Draw) (params : List Value) : Except Failure Value := do
  let limit ← numberOr 1.0 params.head?
  return .number (if limit == 0.0 then 0.0 else draw.fraction * limit)

/-- One of the items by chance. -/
def choice (draw : Draw) (params : List Value) : Except Failure Value :=
  let items := spread params
  match items[((Number.wholePart? (draw.fraction * Float.ofNat items.length)).getD 0).toNat]? with
  | some item => .ok item
  | none => .error .wrongType

/-- The functions of this module. -/
def numerics (draw : Draw) : List Callable :=
  let declare (declaration : String) (arity : Arity) (description : String)
      (body : List Value → Except Failure Value) :=
    Callable.declare declaration arity .math description true body
  let declareImpure (declaration : String) (arity : Arity) (description : String)
      (body : List Value → Except Failure Value) :=
    Callable.declare declaration arity .math description false body
  [
    declare "abs(value: Number): Number" (.exact 1) "Absolute value" (numeric Float.abs),
    declare "arc_tan(value: Number): Number" (.exact 1) "Arc tangent in radians"
      (numeric Float.atan),
    declare "cos(value: Number): Number" (.exact 1) "Cosine of radians" (numeric Float.cos),
    declare "exp(value: Number): Number" (.exact 1) "e raised to the value" (numeric Float.exp),
    declare "frac(value: Number): Number" (.exact 1) "Fractional part" (numeric fractionPart),
    declare "ln(value: Number): Number" (.exact 1) "Natural logarithm" (numeric Float.log),
    declare "round(value: Number): Number" (.exact 1) "Rounds half away from zero"
      (numeric Number.roundHalfAway),
    declare "sin(value: Number): Number" (.exact 1) "Sine of radians" (numeric Float.sin),
    declare "sqrt(value: Number): Number" (.exact 1) "Square root" (numeric Float.sqrt),
    declare "trunc(value: Number): Number" (.exact 1) "Whole part" (numeric Number.truncate),
    declare "int_to_hex(value: Number): String" (.exact 1)
      "Hexadecimal representation of the whole part" (unary toHex),
    declare "even(value: Number): Boolean" (.exact 1) "True for even numbers" (unary isEven),
    declare "odd(value: Number): Boolean" (.exact 1) "True for odd numbers" (unary isOdd),
    declare "pow(value: Number, exponent: Number = 2): Number" (.withOptional 1 1)
      "Power of a number" (unaryOptional toPower),
    declare "pi(): Number" .none "The constant pi" fun _ => .ok (.number 3.141592653589793),
    declareImpure "random(range: Number = 1): Number" (.withOptional 0 1)
      "Random number in [0, range)" (random draw),
    declareImpure "choice(...): Any" .any "Random item of the values" (choice draw)]

end Reckon.Library
