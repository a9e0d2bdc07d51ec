import Reckon.Expr.Basic
import Reckon.Optimize.Conditional
import Reckon.Scope

/-!
# `Check` — looking over an expression without evaluating it

`validate` goes through the references of an expression, each call before its parameters and all from
left to right, and reports the first that leads nowhere. A conditional counts as the call that it
comes from, so optimizing changes no answer. `givesBoolean` says whether the outermost operation can
give a truth value.
-/

namespace Reckon

/-- The first problem with the references of an expression. -/
inductive Problem where
  | missingVariable (name : String)
  | missingFunction (name : String)
  | wrongCount (name : String) (expected : Arity) (found : Nat)
deriving Repr, DecidableEq

namespace Problem

/-- A problem in words. -/
def message : Problem → String
  | missingVariable name => s!"missing variable '{name}'"
  | missingFunction name => s!"missing function '{name}'"
  | wrongCount name expected found =>
    s!"function '{name}' expects {expected.describe} parameter(s), found {found}"

end Problem

/-- A reference to a function with so many parameters. -/
def checkCall (scope : Scope) (name : String) (count : Nat) : Option Problem :=
  match scope.callable? name with
  | none => some (.missingFunction name)
  | some f =>
    if f.arity.accepts count then none else some (.wrongCount name f.arity count)

namespace Expr

mutual

/-- The first problem with the references of an expression. -/
def validate (scope : Scope) : Expr → Option Problem
  | literal _ => none
  | .variable name =>
    match scope.value? name with
    | some _ => none
    | none => some (.missingVariable name)
  | call name params => (checkCall scope name params.length).or (validateAll scope params)
  | unary _ operand => validate scope operand
  | binary _ left right => (validate scope left).or (validate scope right)
  | array elements => validateAll scope elements
  | ternary _ condition thenBranch elseBranch =>
    (checkCall scope conditionalName 3).or <| (validate scope condition).or <|
      (validate scope thenBranch).or (validate scope elseBranch)

/-- The first problem with the references of expressions, from left to right. -/
def validateAll (scope : Scope) : List Expr → Option Problem
  | [] => none
  | e :: rest => (validate scope e).or (validateAll scope rest)

end

/-- The operators that compare or join truth values. -/
def yieldsBoolean : Operator → Bool
  | .greater | .greaterEqual | .less | .lessEqual | .equal | .notEqual | .and | .or | .xor => true
  | _ => false

/-- The outermost operation can give a truth value; of variables and calls nothing is known. -/
def givesBoolean : Expr → Bool
  | literal (.boolean _) => true
  | literal _ => false
  | .variable _ => true
  | call _ _ => true
  | unary op _ => op == .not
  | binary op _ _ => yieldsBoolean op
  | array _ => false
  | ternary _ _ thenBranch elseBranch => thenBranch.givesBoolean && elseBranch.givesBoolean

end Expr

end Reckon
