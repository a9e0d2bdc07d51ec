import Reckon.Number.Binary
import Reckon.Value.Basic

/-!
# `Value.Arithmetic` — operations on values

Addition joins numbers, texts and lists, each with its own kind. The other arithmetic takes numbers,
and exclusive or and negation of truth take truth values. Division follows the floating point rules;
`div` cuts the quotient toward zero, and `mod` is the exact remainder with the sign of the dividend.
-/

namespace Reckon

/-- What an operation of two operands does, as messages put it. -/
inductive Verb where
  | add | subtract | multiply | divide | div | mod | xor
deriving Repr, DecidableEq

namespace Verb

/-- The word for an operation in messages. -/
def word : Verb → String
  | add => "add"
  | subtract => "subtract"
  | multiply => "multiply"
  | divide => "divide"
  | div => "div"
  | mod => "mod"
  | xor => "xor"

end Verb

/-- An operation met operands of kinds that it does not take. -/
inductive Mismatch where
  | operands (verb : Verb) (left right : Kind)
  | negation (operand : Kind)
  | complement (operand : Kind)
deriving Repr, DecidableEq

namespace Mismatch

/-- The message for unfit operands. -/
def message : Mismatch → String
  | operands verb left right => s!"Cannot {verb.word} {left.name} and {right.name}"
  | negation operand => s!"Cannot negate {operand.name}"
  | complement operand => s!"Cannot apply 'not' to {operand.name}"

end Mismatch

namespace Value

/-- Sum of numbers; joined texts or lists. -/
def add : Value → Value → Except Mismatch Value
  | number x, number y => .ok (.number (x + y))
  | string s, string t => .ok (.string (s ++ t))
  | array xs, array ys => .ok (.array (xs ++ ys))
  | a, b => .error (.operands .add a.kind b.kind)

/-- An operation on two numbers. -/
def onNumbers (verb : Verb) (operation : Float → Float → Float) :
    Value → Value → Except Mismatch Value
  | number x, number y => .ok (.number (operation x y))
  | a, b => .error (.operands verb a.kind b.kind)

/-- Difference. -/
def subtract : Value → Value → Except Mismatch Value :=
  onNumbers .subtract (· - ·)

/-- Product. -/
def multiply : Value → Value → Except Mismatch Value :=
  onNumbers .multiply (· * ·)

/-- Quotient. -/
def divide : Value → Value → Except Mismatch Value :=
  onNumbers .divide (· / ·)

/-- Quotient, cut toward zero. -/
def intDivide : Value → Value → Except Mismatch Value :=
  onNumbers .div fun x y => Number.truncate (x / y)

/-- Remainder of truncating division. -/
def modulo : Value → Value → Except Mismatch Value :=
  onNumbers .mod Number.remainder

/-- Exactly one of two truth values. -/
def exclusiveOr : Value → Value → Except Mismatch Value
  | boolean a, boolean b => .ok (.boolean (a != b))
  | a, b => .error (.operands .xor a.kind b.kind)

/-- The number with the other sign. -/
def negate : Value → Except Mismatch Value
  | number x => .ok (.number (-x))
  | v => .error (.negation v.kind)

/-- The other truth value. -/
def complement : Value → Except Mismatch Value
  | boolean b => .ok (.boolean !b)
  | v => .error (.complement v.kind)

end Value

end Reckon
