import Reckon.Eval.Trace
import Reckon.Expr.Basic
import Reckon.Nesting
import Reckon.Scope

/-!
# `Eval.Basic` — evaluation of expressions

Operands are evaluated from left to right, parameters before their call. `and` and `or` look at their
right operand only when the left one does not decide; a conditional evaluates the chosen branch alone.

A variable that the scope does not know is an error, except as a direct operand of `=` and `<>`: there
it equals every empty value, and another unknown variable.
-/

namespace Reckon

/-- The value as a truth value, for an operator that needs one. -/
def requireTruth (op : Operator) : Value → Traced Bool
  | .boolean b => .done b
  | v => .fail (.notBoolean op v.kind)

/-- A prefix operator on its operand. -/
def applyUnary (op : Operator) (v : Value) : Traced Value :=
  match op with
  | .not => .ofOperation v.complement
  | .minus => .ofOperation v.negate
  | op => .fail (.unfitOperator .unary op)

/-- An operator that evaluates both operands, on these. -/
def applyBinary (op : Operator) (a b : Value) : Traced Value :=
  match op with
  | .plus => .ofOperation (a.add b)
  | .minus => .ofOperation (a.subtract b)
  | .times => .ofOperation (a.multiply b)
  | .divide => .ofOperation (a.divide b)
  | .div => .ofOperation (a.intDivide b)
  | .mod => .ofOperation (a.modulo b)
  | .xor => .ofOperation (a.exclusiveOr b)
  | .greater => .done (.boolean (a.greater b))
  | .greaterEqual => .done (.boolean (a.greaterEqual b))
  | .less => .done (.boolean (a.less b))
  | .lessEqual => .done (.boolean (a.lessEqual b))
  | op => .fail (.unfitOperator .binary op)

/-- Equality of two operands of which either may be an unknown variable. -/
def operandsEqual : Option Value → Option Value → Bool
  | some a, some b => a.equals b
  | some a, none => a.isEmpty
  | none, some b => b.isEmpty
  | none, none => true

/-- An operand of `=` or `<>`: a variable may be unknown, all else is evaluated. -/
def tolerant (scope : Scope) (operand : Expr) (evaluated : Traced Value) : Traced (Option Value) :=
  match operand with
  | .variable name => .done (scope.value? name)
  | _ => evaluated.map some

/-- Call a function that is known under a name, on parameters of a count that it accepts. -/
def invoke (f : Callable) (name : String) (params : List Value) : Traced Value :=
  ⟨[.called f.name params],
    match f.body params with
    | .ok v => .ok v
    | .error cause => .error (.callFailed name cause)⟩

namespace Expr

mutual

/-- The value of an expression. -/
def eval (scope : Scope) (allowance : Allowance) (e : Expr) : Traced Value :=
  match allowance.descend with
  | none => .fail .nestedTooDeeply
  | some inner =>
    match e with
    | .literal value => .done value
    | .variable name =>
      match scope.value? name with
      | some value => .done value
      | none => .fail (.undefinedVariable name)
    | .unary op operand => (eval scope inner operand).bind (applyUnary op)
    | .binary .and left right =>
      ((eval scope inner left).bind (requireTruth .and)).bind fun holds =>
        if holds then ((eval scope inner right).bind (requireTruth .and)).map .boolean
        else .done (.boolean false)
    | .binary .or left right =>
      ((eval scope inner left).bind (requireTruth .or)).bind fun holds =>
        if holds then .done (.boolean true)
        else ((eval scope inner right).bind (requireTruth .or)).map .boolean
    | .binary .equal left right =>
      (tolerant scope left (eval scope inner left)).bind fun a =>
        (tolerant scope right (eval scope inner right)).map fun b => .boolean (operandsEqual a b)
    | .binary .notEqual left right =>
      (tolerant scope left (eval scope inner left)).bind fun a =>
        (tolerant scope right (eval scope inner right)).map fun b =>
          .boolean (!operandsEqual a b)
    | .binary op left right =>
      (eval scope inner left).bind fun a => (eval scope inner right).bind (applyBinary op a)
    | .ternary .conditional condition thenBranch elseBranch =>
      ((eval scope inner condition).bind (requireTruth .conditional)).bind fun holds =>
        if holds then eval scope inner thenBranch else eval scope inner elseBranch
    | .ternary op _ _ _ => .fail (.unfitOperator .ternary op)
    | .array elements => (evalAll scope inner elements).map .array
    | .call name params =>
      match scope.callable? name with
      | none => .fail (.unknownFunction name)
      | some f =>
        if f.arity.accepts params.length then
          (evalAll scope inner params).bind (invoke f name)
        else .fail (.wrongCount name f.arity params.length)

/-- The values of expressions, from left to right. -/
def evalAll (scope : Scope) (allowance : Allowance) (es : List Expr) : Traced (List Value) :=
  match es with
  | [] => .done []
  | e :: rest =>
    (eval scope allowance e).bind fun value =>
      (evalAll scope allowance rest).map fun values => value :: values

end

/-- No expression has a value where no level is granted. -/
theorem eval_of_descend_eq_none {allowance : Allowance} (h : allowance.descend = none) (scope : Scope) (e : Expr) :
    eval scope allowance e = .fail .nestedTooDeeply := by
  rw [eval, h]

end Expr

end Reckon
