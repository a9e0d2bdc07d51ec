import Reckon.Check
import Reckon.Proofs.Check.Validity

/-!
# `Proofs.Check.Conversion` — looking over an expression with conditionals made

Making conditionals loses nothing but the spelling of `if_then`. `spelledOut` puts calls back in the place of
conditionals; `respelled` writes `if_then` in one way wherever it is called. With both, an expression comes
out the same whether conditionals were made in it or not (`respelled_spelledOut_lazy`).

Looking over does not tell a conditional from the call that it stands for (`validate_spelledOut`), and another
spelling of `if_then` shows in the answer only if that name is reported (`validate_respelled`). So the answer
stays what it was.

Main statement: `conversion_undone`.
-/

namespace Reckon

/-- The name, or `if_then` if it is that in another letter case. -/
def oneSpelling (name : String) : String :=
  if Text.lower name = conditionalName then conditionalName else name

/-- The problem with `if_then` in one letter case, if that is the function it is about. -/
def Problem.respelled : Problem → Problem
  | missingVariable name => .missingVariable name
  | missingFunction name => .missingFunction (oneSpelling name)
  | wrongCount name expected found => .wrongCount (oneSpelling name) expected found

theorem oneSpelling_of_lower {name : String} (h : Text.lower name = conditionalName) :
    oneSpelling name = conditionalName :=
  if_pos h

/-- Both spellings are one name to a scope. -/
theorem Scope.callable?_oneSpelling (scope : Scope) (name : String) :
    scope.callable? (oneSpelling name) = scope.callable? name := by
  unfold oneSpelling
  split
  · next h =>
    rw [Scope.callable?, Scope.callable?, h]
    rfl
  · rfl

namespace Expr

mutual

/-- The expression with calls of `if_then` in place of conditionals. -/
def spelledOut : Expr → Expr
  | literal value => literal value
  | .variable name => .variable name
  | call name params => call name (spelledOutAll params)
  | unary op operand => unary op operand.spelledOut
  | binary op left right => binary op left.spelledOut right.spelledOut
  | array elements => array (spelledOutAll elements)
  | ternary _ condition thenBranch elseBranch =>
    call conditionalName [condition.spelledOut, thenBranch.spelledOut, elseBranch.spelledOut]

/-- Expressions with calls of `if_then` in place of conditionals. -/
def spelledOutAll : List Expr → List Expr
  | [] => []
  | e :: rest => e.spelledOut :: spelledOutAll rest

end

mutual

/-- The expression with `if_then` in one letter case wherever it is called. -/
def respelled : Expr → Expr
  | literal value => literal value
  | .variable name => .variable name
  | call name params => call (oneSpelling name) (respelledAll params)
  | unary op operand => unary op operand.respelled
  | binary op left right => binary op left.respelled right.respelled
  | array elements => array (respelledAll elements)
  | ternary op condition thenBranch elseBranch =>
    ternary op condition.respelled thenBranch.respelled elseBranch.respelled

/-- Expressions with `if_then` in one letter case wherever it is called. -/
def respelledAll : List Expr → List Expr
  | [] => []
  | e :: rest => e.respelled :: respelledAll rest

end

theorem length_spelledOutAll (es : List Expr) : (spelledOutAll es).length = es.length := by
  induction es with
  | nil => rfl
  | cons e rest ih => rw [spelledOutAll, List.length_cons, List.length_cons, ih]

theorem length_respelledAll (es : List Expr) : (respelledAll es).length = es.length := by
  induction es with
  | nil => rfl
  | cons e rest ih => rw [respelledAll, List.length_cons, List.length_cons, ih]

/-! ## Calls in place of conditionals -/

theorem respelled_spelledOut_conditionalOf (name : String) (params : List Expr) :
    (conditionalOf name params).spelledOut.respelled = (call name params).spelledOut.respelled := by
  unfold conditionalOf
  split
  · next condition thenBranch elseBranch =>
    split
    · next hname =>
      have hspelling : oneSpelling conditionalName = oneSpelling name := by
        rw [oneSpelling_of_lower hname]
        exact oneSpelling_of_lower rfl
      rw [spelledOut, spelledOut, respelled, respelled, hspelling]
      rfl
    · rfl
  · rfl

mutual

/-- **Making conditionals is undone by putting calls in their place**, up to the spelling of `if_then`. -/
theorem respelled_spelledOut_lazy : (e : Expr) →
    e.lazy.spelledOut.respelled = e.spelledOut.respelled
  | literal _ | .variable _ => rfl
  | .call name params => by
    rw [lazy, respelled_spelledOut_conditionalOf, spelledOut, spelledOut, respelled, respelled,
      respelledAll_spelledOutAll_lazyAll params]
  | .unary op operand => by
    rw [lazy, spelledOut, spelledOut, respelled, respelled, respelled_spelledOut_lazy operand]
  | .binary op left right => by
    rw [lazy, spelledOut, spelledOut, respelled, respelled, respelled_spelledOut_lazy left,
      respelled_spelledOut_lazy right]
  | .array elements => by
    rw [lazy, spelledOut, spelledOut, respelled, respelled,
      respelledAll_spelledOutAll_lazyAll elements]
  | .ternary op condition thenBranch elseBranch => by
    rw [lazy, spelledOut, spelledOut, respelled, respelled]
    simp only [respelledAll, respelled_spelledOut_lazy condition,
      respelled_spelledOut_lazy thenBranch, respelled_spelledOut_lazy elseBranch]

theorem respelledAll_spelledOutAll_lazyAll : (es : List Expr) →
    respelledAll (spelledOutAll (lazyAll es)) = respelledAll (spelledOutAll es)
  | [] => rfl
  | e :: rest => by
    rw [lazyAll, spelledOutAll, spelledOutAll, respelledAll, respelledAll,
      respelled_spelledOut_lazy e, respelledAll_spelledOutAll_lazyAll rest]

end

/-! ## Looking over -/

variable {scope : Scope}

mutual

/-- A conditional is looked over like the call that it stands for. -/
theorem validate_spelledOut : (e : Expr) → validate scope e.spelledOut = validate scope e
  | literal _ | .variable _ => rfl
  | .call name params => by
    rw [spelledOut, validate, validate, length_spelledOutAll, validateAll_spelledOutAll params]
  | .unary _ operand => by
    rw [spelledOut, validate, validate, validate_spelledOut operand]
  | .binary _ left right => by
    rw [spelledOut, validate, validate, validate_spelledOut left, validate_spelledOut right]
  | .array elements => by
    rw [spelledOut, validate, validate, validateAll_spelledOutAll elements]
  | .ternary _ condition thenBranch elseBranch => by
    rw [spelledOut, validate, validate]
    simp only [validateAll, Option.or_none, validate_spelledOut condition,
      validate_spelledOut thenBranch, validate_spelledOut elseBranch]
    rfl

theorem validateAll_spelledOutAll : (es : List Expr) →
    validateAll scope (spelledOutAll es) = validateAll scope es
  | [] => rfl
  | e :: rest => by
    rw [spelledOutAll, validateAll, validateAll, validate_spelledOut e,
      validateAll_spelledOutAll rest]

end

theorem checkCall_oneSpelling (name : String) (count : Nat) :
    checkCall scope (oneSpelling name) count = (checkCall scope name count).map Problem.respelled := by
  unfold checkCall
  rw [scope.callable?_oneSpelling]
  cases scope.callable? name with
  | none => rfl
  | some f =>
    dsimp only
    split
    · rfl
    · rfl

mutual

/-- Spelling `if_then` in one way shows in the answer only where that name is reported. -/
theorem validate_respelled : (e : Expr) →
    validate scope e.respelled = (validate scope e).map Problem.respelled
  | literal _ => rfl
  | .variable name => by
    rw [respelled, validate]
    cases scope.value? name <;> rfl
  | .call name params => by
    rw [respelled, validate, validate, length_respelledAll, checkCall_oneSpelling,
      validateAll_respelledAll params, Option.map_or]
  | .unary _ operand => by
    rw [respelled, validate, validate, validate_respelled operand]
  | .binary _ left right => by
    rw [respelled, validate, validate, validate_respelled left, validate_respelled right,
      Option.map_or]
  | .array elements => by
    rw [respelled, validate, validate, validateAll_respelledAll elements]
  | .ternary _ condition thenBranch elseBranch => by
    have hcall : checkCall scope conditionalName 3 =
        (checkCall scope conditionalName 3).map Problem.respelled :=
      checkCall_oneSpelling conditionalName 3
    rw [respelled, validate, validate, Option.map_or, Option.map_or, Option.map_or, ← hcall,
      validate_respelled condition, validate_respelled thenBranch, validate_respelled elseBranch]

theorem validateAll_respelledAll : (es : List Expr) →
    validateAll scope (respelledAll es) = (validateAll scope es).map Problem.respelled
  | [] => rfl
  | e :: rest => by
    rw [respelledAll, validateAll, validateAll, validate_respelled e,
      validateAll_respelledAll rest, Option.map_or]

end

/-- **Main theorem.** With conditionals made, looking over an expression gives the same answer as before, the
letter case of `if_then` left aside: it is in order, or the same is missing, or the same function with the
same arity has the same wrong number of parameters. And with calls of `if_then` in place of all conditionals,
made or not, the two expressions are the same up to the letter case in which `if_then` is called. -/
theorem conversion_undone (scope : Scope) (e : Expr) :
    (validate scope e.lazy).map Problem.respelled = (validate scope e).map Problem.respelled ∧
      e.lazy.spelledOut.respelled = e.spelledOut.respelled := by
  refine ⟨?_, respelled_spelledOut_lazy e⟩
  calc (validate scope e.lazy).map Problem.respelled
      = validate scope e.lazy.spelledOut.respelled := by
        rw [validate_respelled, validate_spelledOut]
    _ = validate scope e.spelledOut.respelled := by rw [respelled_spelledOut_lazy]
    _ = (validate scope e).map Problem.respelled := by
        rw [validate_respelled, validate_spelledOut]

end Expr

end Reckon
