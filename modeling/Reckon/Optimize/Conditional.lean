import Reckon.Expr.Basic
import Reckon.Text.Case

/-!
# `Optimize.Conditional` — calls of `if_then` become conditionals

As a call, `if_then` evaluates all of its parameters; as a conditional, only the chosen branch. Every
call of that name, in any letter case, with three parameters is converted, at every depth.
-/

namespace Reckon

/-- The function that conditionals come from. -/
def conditionalName : String := "if_then"

namespace Expr

/-- The conditional that a call stands for, or the call itself. -/
def conditionalOf (name : String) (params : List Expr) : Expr :=
  match params with
  | [condition, thenBranch, elseBranch] =>
    if Text.lower name = conditionalName then
      ternary .conditional condition thenBranch elseBranch
    else call name params
  | _ => call name params

/-- The call is converted. -/
def becomesConditional (name : String) (count : Nat) : Bool :=
  count == 3 && Text.lower name == conditionalName

mutual

/-- The expression with conditionals in place of calls. -/
def lazy : Expr → Expr
  | literal value => literal value
  | .variable name => .variable name
  | call name params => conditionalOf name (lazyAll params)
  | unary op operand => unary op operand.lazy
  | binary op left right => binary op left.lazy right.lazy
  | array elements => array (lazyAll elements)
  | ternary op condition thenBranch elseBranch =>
    ternary op condition.lazy thenBranch.lazy elseBranch.lazy

/-- Expressions with conditionals in place of calls. -/
def lazyAll : List Expr → List Expr
  | [] => []
  | e :: rest => e.lazy :: lazyAll rest

end

mutual

/-- The names of the converted calls as written, inner calls first. -/
def convertedNames : Expr → List String
  | literal _ | .variable _ => []
  | call name params =>
    convertedNamesAll params ++
      (if becomesConditional name params.length then [name] else [])
  | unary _ operand => operand.convertedNames
  | binary _ left right => left.convertedNames ++ right.convertedNames
  | array elements => convertedNamesAll elements
  | ternary _ condition thenBranch elseBranch =>
    condition.convertedNames ++ thenBranch.convertedNames ++ elseBranch.convertedNames

/-- The names of the converted calls in expressions, left to right. -/
def convertedNamesAll : List Expr → List String
  | [] => []
  | e :: rest => e.convertedNames ++ convertedNamesAll rest

end

/-! ## Work left for folding -/

mutual

/-- Number of nodes that are no literals. -/
def work : Expr → Nat
  | literal _ => 0
  | .variable _ => 1
  | call _ params => workAll params + 1
  | unary _ operand => operand.work + 1
  | binary _ left right => left.work + right.work + 1
  | array elements => workAll elements + 1
  | ternary _ condition thenBranch elseBranch =>
    condition.work + thenBranch.work + elseBranch.work + 1

/-- Number of nodes that are no literals, in expressions. -/
def workAll : List Expr → Nat
  | [] => 0
  | e :: rest => e.work + workAll rest

end

theorem work_conditionalOf (name : String) (params : List Expr) :
    (conditionalOf name params).work = workAll params + 1 := by
  unfold conditionalOf
  split
  · split <;> grind [work, workAll]
  · simp [work]

mutual

/-- Conversion leaves as much work as there was. -/
theorem work_lazy : (e : Expr) → e.lazy.work = e.work
  | literal _ | .variable _ => rfl
  | call name params => by simp [lazy, work_conditionalOf, work, workAll_lazyAll params]
  | unary _ operand => by simp [lazy, work, work_lazy operand]
  | binary _ left right => by simp [lazy, work, work_lazy left, work_lazy right]
  | array elements => by simp [lazy, work, workAll_lazyAll elements]
  | ternary _ condition thenBranch elseBranch => by
    simp [lazy, work, work_lazy condition, work_lazy thenBranch, work_lazy elseBranch]

theorem workAll_lazyAll : (es : List Expr) → workAll (lazyAll es) = workAll es
  | [] => rfl
  | e :: rest => by simp [lazyAll, workAll, work_lazy e, workAll_lazyAll rest]

end

end Expr

end Reckon
