import Reckon.Callable.Basic
import Reckon.Number.Binary

/-!
# `Library.Parameters` — reading the parameters of a call

Positions are whole parts of numbers that are not negative. Positions in texts start where the
settings say; positions in lists start at zero.
-/

namespace Reckon.Library

/-- A parameter that must be a number. -/
def numberOf : Value → Except Failure Float
  | .number x => .ok x
  | _ => .error .wrongType

/-- A parameter that must be a text. -/
def stringOf : Value → Except Failure String
  | .string s => .ok s
  | _ => .error .wrongType

/-- A parameter that must be a number when it is given. -/
def numberOr (otherwise : Float) : Option Value → Except Failure Float
  | none => .ok otherwise
  | some v => numberOf v

/-- A parameter that must be a text when it is given. -/
def stringOr (otherwise : String) : Option Value → Except Failure String
  | none => .ok otherwise
  | some v => stringOf v

/-- The whole part of a number, which must be finite. -/
def wholeOf (x : Float) : Except Failure Int :=
  match Number.wholePart? x with
  | some n => .ok n
  | none => .error (.broken (if x.isNaN then .wholePartOfNaN else .wholePartOfInfinity))

/-- A position in a list. -/
def indexOf (x : Float) : Except Failure Nat :=
  if x.isNaN || x < 0.0 then .error .negativeIndex
  else
    match Number.wholePart? x with
    | some n => .ok n.toNat
    | none => .error (.outOfBounds 0)

/-- A position in a text whose positions start at `first`. -/
def textIndexOf (first : Nat) (x : Float) : Except Failure Nat := do
  let index ← indexOf x
  if index < first then .error .negativeIndex else .ok (index - first)

/-- The items of a single list parameter, or else all parameters. -/
def spread : List Value → List Value
  | [.array items] => items
  | params => params

/-- A count or position as a value. -/
def natural (n : Nat) : Value :=
  .number (Float.ofNat n)

/-- A function without parameters, which has one value. -/
def constant (v : Value) : List Value → Except Failure Value
  | [] => .ok v
  | _ => .error .wrongType

/-- A function of one parameter. -/
def unary (f : Value → Except Failure Value) : List Value → Except Failure Value
  | [a] => f a
  | params => .error (if params.isEmpty then .wrongCount 1 else .wrongType)

/-- A function of two parameters. -/
def binary (f : Value → Value → Except Failure Value) : List Value → Except Failure Value
  | [a, b] => f a b
  | params => .error (if params.length < 2 then .wrongCount 2 else .wrongType)

/-- A function of three parameters. -/
def ternary (f : Value → Value → Value → Except Failure Value) :
    List Value → Except Failure Value
  | [a, b, c] => f a b c
  | params => .error (if params.length < 3 then .wrongCount 3 else .wrongType)

/-- A function of one parameter, and a second that may be left out. -/
def unaryOptional (f : Value → Option Value → Except Failure Value) :
    List Value → Except Failure Value
  | [a] => f a none
  | [a, b] => f a (some b)
  | params => .error (if params.isEmpty then .wrongCount 1 else .wrongType)

/-- A function of two parameters, and a third that may be left out. -/
def binaryOptional (f : Value → Value → Option Value → Except Failure Value) :
    List Value → Except Failure Value
  | [a, b] => f a b none
  | [a, b, c] => f a b (some c)
  | params => .error (if params.length < 2 then .wrongCount 2 else .wrongType)

/-- A function of three parameters, and a fourth that may be left out. -/
def ternaryOptional (f : Value → Value → Value → Option Value → Except Failure Value) :
    List Value → Except Failure Value
  | [a, b, c] => f a b c none
  | [a, b, c, d] => f a b c (some d)
  | params => .error (if params.length < 3 then .wrongCount 3 else .wrongType)

/-- A function of two parameters, and two more that may be left out. -/
def binaryOptionals (f : Value → Value → Option Value → Option Value → Except Failure Value) :
    List Value → Except Failure Value
  | [a, b] => f a b none none
  | [a, b, c] => f a b (some c) none
  | [a, b, c, d] => f a b (some c) (some d)
  | params => .error (if params.length < 2 then .wrongCount 2 else .wrongType)

end Reckon.Library
