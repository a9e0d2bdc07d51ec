import Reckon.Operator
import Reckon.Value.Basic

/-!
# `Expr.Basic` — expression trees

An expression is a literal value, a variable, a call, an operation on one or two operands, a list of
expressions, or a conditional of which only the chosen branch is evaluated. Texts are parsed into
trees without conditionals; these arise from optimizing.
-/

namespace Reckon

/-- An expression. -/
inductive Expr where
  | literal (value : Value)
  | variable (name : String)
  | call (name : String) (params : List Expr)
  | unary (op : Operator) (operand : Expr)
  | binary (op : Operator) (left right : Expr)
  | array (elements : List Expr)
  | ternary (op : Operator) (condition thenBranch elseBranch : Expr)

namespace Expr

mutual

/-- Number of nodes on the longest path down. Every node counts one, also where going down into one takes
more of a stack than going down into another. -/
def depth : Expr → Nat
  | .literal _ | .variable _ => 1
  | call _ params => depthAll params + 1
  | unary _ operand => operand.depth + 1
  | binary _ left right => max left.depth right.depth + 1
  | array elements => depthAll elements + 1
  | ternary _ condition thenBranch elseBranch =>
    max condition.depth (max thenBranch.depth elseBranch.depth) + 1

/-- The greatest depth among expressions. -/
def depthAll : List Expr → Nat
  | [] => 0
  | e :: rest => max e.depth (depthAll rest)

end

/-- The value of a literal. -/
def literal? : Expr → Option Value
  | literal value => some value
  | _ => none

/-- The values of expressions that are all literals. -/
def literals? : List Expr → Option (List Value)
  | [] => some []
  | e :: rest =>
    match e.literal?, literals? rest with
    | some v, some vs => some (v :: vs)
    | _, _ => none

end Expr

end Reckon
