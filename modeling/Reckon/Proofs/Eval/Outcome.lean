import Reckon.Proofs.Eval.Refinement

/-!
# `Proofs.Eval.Outcome` — what an evaluation comes to

`outcome` is the value or the error of an expression, without a bound on nesting and without the trace.
It is given node by node here, so that later proofs need not unfold the evaluator.
-/

namespace Reckon

namespace Traced

variable {α β : Type}

theorem result_bind (t : Traced α) (next : α → Traced β) :
    (t.bind next).result = t.result.bind fun a => (next a).result := by
  unfold Traced.bind
  cases t.result <;> rfl

theorem result_map (f : α → β) (t : Traced α) : (t.map f).result = t.result.map f := by
  unfold Traced.map
  rw [result_bind]
  cases t.result <;> rfl

end Traced

/-! ## How operators read their operands -/

/-- How an operator with two operands reads them. -/
inductive Reading where
  /-- the left one as a truth value; this one decides, and the right one is not looked at -/
  | short (decider : Bool)
  /-- both; an unknown variable is no failure -/
  | tolerant
  /-- both -/
  | strict
deriving DecidableEq

/-- How an operator with two operands reads them. -/
def Operator.reading : Operator → Reading
  | .and => .short false
  | .or => .short true
  | .equal | .notEqual => .tolerant
  | _ => .strict

namespace Expr

variable {scope : Scope}

/-- The value or the error of an expression. -/
def outcome (scope : Scope) (e : Expr) : Except EvalError Value :=
  (eval scope none e).result

/-- The values of expressions, or the first error from left to right. -/
def outcomes (scope : Scope) (es : List Expr) : Except EvalError (List Value) :=
  (evalAll scope none es).result

/-- An operand that must be a truth value. -/
def truthOutcome (scope : Scope) (op : Operator) (e : Expr) : Except EvalError Bool :=
  (outcome scope e).bind fun v => (requireTruth op v).result

/-- A direct operand of an equality: nothing when it is an unknown variable. -/
def operandOutcome (scope : Scope) (e : Expr) : Except EvalError (Option Value) :=
  match e with
  | .variable name => .ok (scope.value? name)
  | e => (outcome scope e).map some

theorem truth_result (op : Operator) (e : Expr) :
    ((eval scope none e).bind (requireTruth op)).result = truthOutcome scope op e :=
  Traced.result_bind _ _

theorem tolerant_result (e : Expr) :
    (tolerant scope e (eval scope none e)).result = operandOutcome scope e := by
  cases e with
  | «variable» name => rfl
  | _ => exact Traced.result_map _ _

/-- An operand that is no variable. -/
theorem operandOutcome_of_ne {e : Expr} (h : ∀ name, e ≠ .variable name) :
    operandOutcome scope e = (outcome scope e).map some := by
  cases e with
  | «variable» name => exact absurd rfl (h name)
  | _ => rfl

/-! ## Node by node -/

theorem outcome_literal (v : Value) : outcome scope (literal v) = .ok v := by
  rw [outcome, eval_literal]
  rfl

theorem outcome_variable (name : String) :
    outcome scope (.variable name) =
      match scope.value? name with
      | some v => .ok v
      | none => .error (.undefinedVariable name) := by
  rw [outcome, eval_variable]
  show Traced.result (match scope.value? name with | some v => _ | none => _) = _
  cases scope.value? name <;> rfl

theorem outcome_unary (op : Operator) (e : Expr) :
    outcome scope (unary op e) = (outcome scope e).bind fun v => (applyUnary op v).result := by
  rw [outcome, eval_unary]
  exact Traced.result_bind _ _

theorem outcome_short {op : Operator} {decider : Bool} (h : op.reading = .short decider)
    (left right : Expr) :
    outcome scope (binary op left right) =
      (truthOutcome scope op left).bind fun holds =>
        if holds = decider then .ok (.boolean decider)
        else (truthOutcome scope op right).map .boolean := by
  cases op with
  | and =>
    cases h
    rw [outcome, eval]
    show (Traced.bind (Traced.bind _ _) _).result = _
    rw [Traced.result_bind, truth_result]
    congr 1
    funext holds
    cases holds with
    | true => exact (Traced.result_map _ _).trans (congrArg _ (truth_result _ _))
    | false => rfl
  | or =>
    cases h
    rw [outcome, eval]
    show (Traced.bind (Traced.bind _ _) _).result = _
    rw [Traced.result_bind, truth_result]
    congr 1
    funext holds
    cases holds with
    | true => rfl
    | false => exact (Traced.result_map _ _).trans (congrArg _ (truth_result _ _))
  | _ => cases h

theorem outcome_tolerant {op : Operator} (h : op.reading = .tolerant) (left right : Expr) :
    outcome scope (binary op left right) =
      (operandOutcome scope left).bind fun a =>
        (operandOutcome scope right).map fun b =>
          .boolean (if op = .equal then operandsEqual a b else !operandsEqual a b) := by
  cases op with
  | equal | notEqual =>
    rw [outcome, eval]
    show (Traced.bind _ _).result = _
    rw [Traced.result_bind, tolerant_result]
    congr 1
    funext a
    rw [Traced.result_map, tolerant_result]
    rfl
  | _ => cases h

theorem outcome_strict {op : Operator} (h : op.reading = .strict) (left right : Expr) :
    outcome scope (binary op left right) =
      (outcome scope left).bind fun v =>
        (outcome scope right).bind fun w => (applyBinary op v w).result := by
  cases op with
  | and | or | equal | notEqual => cases h
  | _ =>
    rw [outcome, eval]
    show (Traced.bind _ _).result = _
    rw [Traced.result_bind]
    congr 1
    funext v
    exact Traced.result_bind _ _

theorem outcome_conditional (condition thenBranch elseBranch : Expr) :
    outcome scope (ternary .conditional condition thenBranch elseBranch) =
      (truthOutcome scope .conditional condition).bind fun holds =>
        if holds then outcome scope thenBranch else outcome scope elseBranch := by
  rw [outcome, eval_conditional]
  show (Traced.bind (Traced.bind _ _) _).result = _
  rw [Traced.result_bind, truth_result]
  congr 1
  funext holds
  cases holds <;> rfl

theorem outcome_array (es : List Expr) :
    outcome scope (array es) = (outcomes scope es).map .array := by
  rw [outcome, eval_array]
  exact Traced.result_map _ _

theorem outcome_call (name : String) (params : List Expr) :
    outcome scope (call name params) =
      match scope.callable? name with
      | none => .error (.unknownFunction name)
      | some f =>
        if f.arity.accepts params.length then
          (outcomes scope params).bind fun vs => (invoke f name vs).result
        else .error (.wrongCount name f.arity params.length) := by
  rw [outcome, eval_call]
  show Traced.result (match scope.callable? name with | none => _ | some f => _) = _
  cases scope.callable? name with
  | none => rfl
  | some f =>
    show Traced.result (ite _ _ _) = ite _ _ _
    split
    · exact Traced.result_bind _ _
    · rfl

theorem outcomes_cons (e : Expr) (rest : List Expr) :
    outcomes scope (e :: rest) =
      (outcome scope e).bind fun v => (outcomes scope rest).map fun vs => v :: vs := by
  rw [outcomes, evalAll, Traced.result_bind]
  congr 1
  funext v
  exact Traced.result_map _ _

/-! ## Operators and their operands -/

/-- Evaluation goes on from the left operand to the right one. -/
def RightIsRead (scope : Scope) (op : Operator) (left : Expr) : Prop :=
  match op.reading with
  | .short decider => truthOutcome scope op left = .ok !decider
  | .tolerant => ∃ a, operandOutcome scope left = .ok a
  | .strict => ∃ v, outcome scope left = .ok v

theorem truthOutcome_congr {op : Operator} {e' e : Expr}
    (h : outcome scope e' = outcome scope e) :
    truthOutcome scope op e' = truthOutcome scope op e := by
  rw [truthOutcome, truthOutcome, h]

/-- An operator keeps its outcome when its left operand does, and its right one where it is read. -/
theorem outcome_binary_congr {op : Operator} {left' left right' right : Expr}
    (hl : outcome scope left' = outcome scope left)
    (hlt : op.reading = .tolerant → operandOutcome scope left' = operandOutcome scope left)
    (hr : RightIsRead scope op left → outcome scope right' = outcome scope right)
    (hrt : RightIsRead scope op left → op.reading = .tolerant →
      operandOutcome scope right' = operandOutcome scope right) :
    outcome scope (binary op left' right') = outcome scope (binary op left right) := by
  -- in each reading the left operand decides whether the right one counts
  cases hop : op.reading with
  | short decider =>
    rw [outcome_short hop, outcome_short hop, truthOutcome_congr hl]
    cases ht : truthOutcome scope op left with
    | error err => rfl
    | ok holds =>
      show ite _ _ _ = ite _ _ _
      by_cases hd : holds = decider
      · rw [if_pos hd, if_pos hd]
      · have hread : RightIsRead scope op left := by
          rw [RightIsRead, hop, ht]
          exact congrArg Except.ok (Bool.eq_not.mpr hd)
        rw [if_neg hd, if_neg hd, truthOutcome_congr (hr hread)]
  | tolerant =>
    rw [outcome_tolerant hop, outcome_tolerant hop, hlt hop]
    cases ha : operandOutcome scope left with
    | error err => rfl
    | ok a =>
      have hread : RightIsRead scope op left := by
        rw [RightIsRead, hop]
        exact ⟨a, ha⟩
      rw [hrt hread hop]
  | strict =>
    rw [outcome_strict hop, outcome_strict hop, hl]
    cases hv : outcome scope left with
    | error err => rfl
    | ok v =>
      have hread : RightIsRead scope op left := by
        rw [RightIsRead, hop]
        exact ⟨v, hv⟩
      rw [hr hread]

/-- An operator fails with its left operand. -/
theorem outcome_binary_of_left {op : Operator} {left right : Expr} {err : EvalError}
    (hne : ∀ name, left ≠ .variable name) (h : outcome scope left = .error err) :
    outcome scope (binary op left right) = .error err := by
  cases hop : op.reading with
  | short decider => rw [outcome_short hop, truthOutcome, h]; rfl
  | tolerant => rw [outcome_tolerant hop, operandOutcome_of_ne hne, h]; rfl
  | strict => rw [outcome_strict hop, h]; rfl

/-- An operator fails with its right operand when it reads that one. -/
theorem outcome_binary_of_right {op : Operator} {left right : Expr} {err : EvalError}
    (hread : RightIsRead scope op left) (hne : ∀ name, right ≠ .variable name)
    (h : outcome scope right = .error err) :
    outcome scope (binary op left right) = .error err := by
  rw [RightIsRead] at hread
  cases hop : op.reading with
  | short decider =>
    rw [hop] at hread
    rw [outcome_short hop, hread, truthOutcome, h]
    cases decider <;> rfl
  | tolerant =>
    rw [hop] at hread
    obtain ⟨a, ha⟩ := hread
    rw [outcome_tolerant hop, ha, operandOutcome_of_ne hne, h]
    rfl
  | strict =>
    rw [hop] at hread
    obtain ⟨v, hv⟩ := hread
    rw [outcome_strict hop, hv, h]
    rfl

end Expr

end Reckon
