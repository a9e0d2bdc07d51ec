import Reckon.Optimize.Fold
import Reckon.Proofs.Eval.Outcome

/-!
# `Proofs.Optimize.FoldOutcome` — what folding keeps of an outcome, and what it does not

Folding replaces a conditional on a literal truth value by the chosen branch. As a rule that keeps the
outcome, value or error. There is one exception: an equality tolerates an unknown variable as its direct
operand, and a conditional whose chosen branch is an unknown variable is no such operand before folding
but is one afterwards (`Loosened`). Before, its evaluation fails; afterwards the equality takes the
variable for empty.

Main statement: the outcome changes exactly when evaluation reaches such an operand and nothing else is
undefined afterwards (`fold_sameOutcome_iff`).
-/

namespace Reckon.Expr

/-! ## Conditionals only -/

mutual

/-- Every node with three parts is a conditional, as in all expressions that conversion makes. -/
def Proper : Expr → Prop
  | literal _ | .variable _ => True
  | call _ params => ProperAll params
  | unary _ operand => operand.Proper
  | binary _ left right => left.Proper ∧ right.Proper
  | array elements => ProperAll elements
  | ternary op condition thenBranch elseBranch =>
    op = .conditional ∧ condition.Proper ∧ thenBranch.Proper ∧ elseBranch.Proper

/-- Every expression is proper. -/
def ProperAll : List Expr → Prop
  | [] => True
  | e :: rest => e.Proper ∧ ProperAll rest

end

/-! ## Operands that come loose -/

/-- Folding turns the expression, which is no variable, into a variable that is unknown. -/
def Loosened (scope : Scope) (allowance : Allowance) (e : Expr) : Prop :=
  (∀ name, e ≠ .variable name) ∧
    ∃ name, (fold scope allowance e).result = .variable name ∧ scope.value? name = none

mutual

/-- Evaluation gets to an equality with an operand that folding loosens. -/
def ReachesLoosened (scope : Scope) (allowance : Allowance) : Expr → Prop
  | literal _ | .variable _ => False
  | unary _ operand => ReachesLoosened scope allowance operand
  | binary op left right =>
    ReachesLoosened scope allowance left ∨
      (op.reading = .tolerant ∧ Loosened scope allowance left) ∨
      RightIsRead scope op left ∧
        (ReachesLoosened scope allowance right ∨
          (op.reading = .tolerant ∧ Loosened scope allowance right))
  | ternary _ condition thenBranch elseBranch =>
    ReachesLoosened scope allowance condition ∨
      (truthOutcome scope .conditional condition = .ok true ∧
        ReachesLoosened scope allowance thenBranch) ∨
      (truthOutcome scope .conditional condition = .ok false ∧
        ReachesLoosened scope allowance elseBranch)
  | array elements => ReachesLoosenedAmong scope allowance elements
  | call name params =>
    (∃ f, scope.callable? name = some f ∧ f.arity.accepts params.length = true) ∧
      ReachesLoosenedAmong scope allowance params

/-- The same for expressions evaluated from left to right. -/
def ReachesLoosenedAmong (scope : Scope) (allowance : Allowance) : List Expr → Prop
  | [] => False
  | e :: rest =>
    ReachesLoosened scope allowance e ∨
      (∃ v, outcome scope e = .ok v) ∧ ReachesLoosenedAmong scope allowance rest

end

variable {scope : Scope} {allowance : Allowance}

/-! ## Folding node by node -/

theorem fold_unary (op : Operator) (e : Expr) :
    (fold scope allowance (unary op e)).result =
      (attempt scope allowance (unary op (fold scope allowance e).result)
        [(fold scope allowance e).result]).result := by
  rw [fold]
  rfl

theorem fold_binary (op : Operator) (left right : Expr) :
    (fold scope allowance (binary op left right)).result =
      (attempt scope allowance
        (binary op (fold scope allowance left).result (fold scope allowance right).result)
        [(fold scope allowance left).result, (fold scope allowance right).result]).result := by
  rw [fold]
  rfl

theorem fold_ternary (op : Operator) (condition thenBranch elseBranch : Expr) :
    (fold scope allowance (ternary op condition thenBranch elseBranch)).result =
      (chooseBranch op (fold scope allowance condition).result
        (fold scope allowance thenBranch).result
        (fold scope allowance elseBranch).result).result := by
  rw [fold]
  rfl

theorem fold_array (es : List Expr) :
    (fold scope allowance (array es)).result =
      (attempt scope allowance (array (foldAll scope allowance es).result)
        (foldAll scope allowance es).result).result := by
  rw [fold]
  rfl

theorem fold_call (name : String) (params : List Expr) :
    (fold scope allowance (call name params)).result =
      (attemptCall scope allowance name (foldAll scope allowance params).result).result := by
  rw [fold]
  rfl

theorem foldAll_cons (e : Expr) (rest : List Expr) :
    (foldAll scope allowance (e :: rest)).result =
      (fold scope allowance e).result :: (foldAll scope allowance rest).result := by
  rw [foldAll]
  rfl

theorem length_foldAll (es : List Expr) :
    (foldAll scope allowance es).result.length = es.length := by
  induction es with
  | nil => rw [foldAll]; rfl
  | cons e rest ih => rw [foldAll_cons, List.length_cons, List.length_cons, ih]

/-- An attempt leaves the expression or gives its value. -/
theorem attempt_result (scope : Scope) (allowance : Allowance) (e : Expr) (operands : List Expr) :
    (attempt scope allowance e operands).result = e ∨
      ∃ v, (eval scope allowance e).result = .ok v ∧
        (attempt scope allowance e operands).result = literal v := by
  unfold attempt
  split
  · dsimp only
    split
    · next v hv => exact Or.inr ⟨v, hv, rfl⟩
    · exact Or.inl rfl
  · exact Or.inl rfl

/-- An attempt keeps the outcome. -/
theorem outcome_attempt (e : Expr) (operands : List Expr) :
    outcome scope (attempt scope allowance e operands).result = outcome scope e := by
  rcases attempt_result scope allowance e operands with h | ⟨v, hv, h⟩
  · rw [h]
  · rw [h, outcome_literal]
    exact (eval_unbounded hv).symm

theorem outcome_attemptCall (name : String) (params : List Expr) :
    outcome scope (attemptCall scope allowance name params).result =
      outcome scope (call name params) := by
  unfold attemptCall
  cases scope.callable? name with
  | none => rfl
  | some f =>
    dsimp only
    split
    · exact outcome_attempt _ _
    · rfl

/-- The branch chosen ahead of time is the one that evaluation chooses. -/
theorem outcome_chooseBranch (condition thenBranch elseBranch : Expr) :
    outcome scope (chooseBranch .conditional condition thenBranch elseBranch).result =
      outcome scope (ternary .conditional condition thenBranch elseBranch) := by
  unfold chooseBranch
  split
  · rw [outcome_conditional, truthOutcome, outcome_literal]
    rfl
  · rw [outcome_conditional, truthOutcome, outcome_literal]
    rfl
  · rfl

/-! ## Nothing loosened, nothing changed -/

/-- What an equality reads of an operand is kept, unless the operand comes loose. -/
theorem operandOutcome_fold {e : Expr}
    (he : outcome scope (fold scope allowance e).result = outcome scope e)
    (hl : ¬ Loosened scope allowance e) :
    operandOutcome scope (fold scope allowance e).result = operandOutcome scope e := by
  by_cases hv : ∃ name, e = .variable name
  · obtain ⟨name, rfl⟩ := hv
    rw [fold]
    rfl
  · have hne : ∀ name, e ≠ .variable name := fun name h => hv ⟨name, h⟩
    rw [operandOutcome_of_ne hne, ← he]
    cases hf : (fold scope allowance e).result with
    | «variable» name =>
      -- the operand is a variable now, so its value must be known
      rw [outcome_variable, operandOutcome]
      cases hx : scope.value? name with
      | none => exact absurd ⟨hne, name, hf, hx⟩ hl
      | some v => rfl
    | _ => rfl

mutual

/-- Folding keeps the outcome of an evaluation that reaches no loosened operand. -/
theorem outcome_fold : (e : Expr) → e.Proper → ¬ ReachesLoosened scope allowance e →
    outcome scope (fold scope allowance e).result = outcome scope e
  | literal _, _, _ | .variable _, _, _ => by rw [fold]; rfl
  | unary op operand, hp, hn => by
    rw [fold_unary, outcome_attempt, outcome_unary, outcome_unary, outcome_fold operand hp hn]
  | binary op left right, hp, hn => by
    rw [fold_binary, outcome_attempt]
    rw [ReachesLoosened] at hn
    have hl := outcome_fold left hp.1 fun h => hn (Or.inl h)
    have hr : RightIsRead scope op left →
        outcome scope (fold scope allowance right).result = outcome scope right := by
      intro hread
      exact outcome_fold right hp.2 fun h => hn (Or.inr (Or.inr ⟨hread, Or.inl h⟩))
    -- an equality reads more of its operands than their outcomes
    refine outcome_binary_congr hl ?_ hr ?_
    · intro hop
      exact operandOutcome_fold hl fun h => hn (Or.inr (Or.inl ⟨hop, h⟩))
    · intro hread hop
      exact operandOutcome_fold (hr hread) fun h =>
        hn (Or.inr (Or.inr ⟨hread, Or.inr ⟨hop, h⟩⟩))
  | ternary op condition thenBranch elseBranch, hp, hn => by
    rw [ReachesLoosened] at hn
    obtain ⟨rfl, hc, ht, hf⟩ := hp
    rw [fold_ternary, outcome_chooseBranch, outcome_conditional, outcome_conditional,
      truthOutcome_congr (outcome_fold condition hc fun h => hn (Or.inl h))]
    cases hv : truthOutcome scope .conditional condition with
    | error err => rfl
    | ok holds =>
      cases holds with
      | true => exact outcome_fold thenBranch ht fun h => hn (Or.inr (Or.inl ⟨hv, h⟩))
      | false => exact outcome_fold elseBranch hf fun h => hn (Or.inr (Or.inr ⟨hv, h⟩))
  | array elements, hp, hn => by
    rw [fold_array, outcome_attempt, outcome_array, outcome_array,
      outcomes_foldAll elements hp hn]
  | call name params, hp, hn => by
    rw [fold_call, outcome_attemptCall, outcome_call, outcome_call, length_foldAll]
    cases hf : scope.callable? name with
    | none => rfl
    | some f =>
      show ite _ _ _ = ite _ _ _
      by_cases ha : f.arity.accepts params.length = true
      · rw [if_pos ha, if_pos ha, outcomes_foldAll params hp fun h => hn ⟨⟨f, hf, ha⟩, h⟩]
      · rw [if_neg ha, if_neg ha]

theorem outcomes_foldAll : (es : List Expr) → ProperAll es →
    ¬ ReachesLoosenedAmong scope allowance es →
    outcomes scope (foldAll scope allowance es).result = outcomes scope es
  | [], _, _ => by rw [foldAll]; rfl
  | e :: rest, hp, hn => by
    rw [ReachesLoosenedAmong] at hn
    rw [foldAll_cons, outcomes_cons, outcomes_cons,
      outcome_fold e hp.1 fun h => hn (Or.inl h)]
    cases hv : outcome scope e with
    | error err => rfl
    | ok v =>
      rw [outcomes_foldAll rest hp.2 fun h => hn (Or.inr ⟨⟨v, hv⟩, h⟩)]

end

/-! ## A loosened operand fails before folding -/

/-- A literal or a variable. -/
def IsLeaf : Expr → Prop
  | literal _ | .variable _ => True
  | _ => False

theorem literals?_cons_eq_some {e : Expr} {rest : List Expr} {vs : List Value}
    (h : literals? (e :: rest) = some vs) :
    (∃ v, e = literal v) ∧ ∃ ws, literals? rest = some ws := by
  rw [literals?] at h
  cases e with
  | literal v =>
    cases hr : literals? rest with
    | none => rw [hr] at h; cases h
    | some ws => exact ⟨⟨v, rfl⟩, ws, rfl⟩
  | _ => cases h

theorem literals?_isSome_iff {es : List Expr} :
    (literals? es).isSome = true ↔ ∀ e ∈ es, ∃ v, e = literal v := by
  induction es with
  | nil => exact ⟨fun _ => nofun, fun _ => rfl⟩
  | cons e rest ih =>
    rw [List.forall_mem_cons, ← ih]
    constructor
    · intro h
      obtain ⟨vs, hvs⟩ := Option.isSome_iff_exists.mp h
      obtain ⟨he, ws, hws⟩ := literals?_cons_eq_some hvs
      exact ⟨he, Option.isSome_iff_exists.mpr ⟨ws, hws⟩⟩
    · rintro ⟨⟨v, rfl⟩, hrest⟩
      obtain ⟨ws, hws⟩ := Option.isSome_iff_exists.mp hrest
      rw [literals?, hws]
      rfl

/-- An attempt that gives a leaf for a node found literals only. -/
theorem literals_of_attempt {e : Expr} {operands : List Expr} (he : ¬ e.IsLeaf)
    (h : (attempt scope allowance e operands).result.IsLeaf) :
    ∃ vs, literals? operands = some vs := by
  unfold attempt at h
  split at h
  · next hs => exact Option.isSome_iff_exists.mp hs
  · exact absurd h he

theorem literals_of_attemptCall {name : String} {params : List Expr}
    (h : (attemptCall scope allowance name params).result.IsLeaf) :
    ∃ vs, literals? params = some vs := by
  unfold attemptCall at h
  split at h
  · exact absurd h id
  · split at h
    · exact literals_of_attempt id h
    · exact absurd h id

theorem leaf_of_chooseBranch {op : Operator} {condition thenBranch elseBranch : Expr}
    (h : (chooseBranch op condition thenBranch elseBranch).result.IsLeaf) :
    (condition = literal (.boolean true) ∧ thenBranch.IsLeaf) ∨
      (condition = literal (.boolean false) ∧ elseBranch.IsLeaf) := by
  unfold chooseBranch at h
  split at h
  · exact Or.inl ⟨rfl, h⟩
  · exact Or.inr ⟨rfl, h⟩
  · exact absurd h id

/-- What folds to a literal is not loosened. -/
theorem not_loosened_of_literal {e : Expr} {v : Value}
    (h : (fold scope allowance e).result = literal v) : ¬ Loosened scope allowance e := by
  rintro ⟨_, name, hn, _⟩
  rw [h] at hn
  cases hn

mutual

/-- Folding to a leaf leaves nothing behind that could have come loose. -/
theorem not_reachesLoosened_of_leaf : (e : Expr) → e.Proper →
    (fold scope allowance e).result.IsLeaf → ¬ ReachesLoosened scope allowance e
  | literal _, _, _ | .variable _, _, _ => fun h => h
  | unary op operand, hp, hf => by
    -- an operation folds to a leaf only if its operands fold to literals
    rw [fold_unary] at hf
    obtain ⟨vs, hvs⟩ := literals_of_attempt id hf
    obtain ⟨⟨v, hv⟩, _⟩ := literals?_cons_eq_some hvs
    exact not_reachesLoosened_of_leaf operand hp (by rw [hv]; trivial)
  | binary op left right, hp, hf => by
    rw [fold_binary] at hf
    obtain ⟨vs, hvs⟩ := literals_of_attempt id hf
    obtain ⟨⟨v, hv⟩, ws, hws⟩ := literals?_cons_eq_some hvs
    obtain ⟨⟨w, hw⟩, _⟩ := literals?_cons_eq_some hws
    rintro (h | ⟨_, h⟩ | ⟨_, h | ⟨_, h⟩⟩)
    · exact not_reachesLoosened_of_leaf left hp.1 (by rw [hv]; trivial) h
    · exact not_loosened_of_literal hv h
    · exact not_reachesLoosened_of_leaf right hp.2 (by rw [hw]; trivial) h
    · exact not_loosened_of_literal hw h
  | ternary op condition thenBranch elseBranch, hp, hf => by
    obtain ⟨rfl, hc, ht, he⟩ := hp
    rw [fold_ternary] at hf
    -- the condition folds to a truth value, which is also what it evaluates to
    have hcond : ∀ b, (fold scope allowance condition).result = literal (.boolean b) →
        ¬ ReachesLoosened scope allowance condition ∧
          truthOutcome scope .conditional condition = .ok b := by
      intro b hb
      have hn := not_reachesLoosened_of_leaf condition hc (by rw [hb]; trivial)
      refine ⟨hn, ?_⟩
      rw [truthOutcome, ← outcome_fold condition hc hn, hb, outcome_literal]
      rfl
    rcases leaf_of_chooseBranch hf with ⟨hb, hleaf⟩ | ⟨hb, hleaf⟩
    · obtain ⟨hn, htrue⟩ := hcond true hb
      rintro (h | ⟨_, h⟩ | ⟨hfalse, _⟩)
      · exact hn h
      · exact not_reachesLoosened_of_leaf thenBranch ht hleaf h
      · rw [htrue] at hfalse
        cases hfalse
    · obtain ⟨hn, hfalse⟩ := hcond false hb
      rintro (h | ⟨htrue, _⟩ | ⟨_, h⟩)
      · exact hn h
      · rw [hfalse] at htrue
        cases htrue
      · exact not_reachesLoosened_of_leaf elseBranch he hleaf h
  | array elements, hp, hf => by
    rw [fold_array] at hf
    obtain ⟨vs, hvs⟩ := literals_of_attempt id hf
    exact not_reachesLoosenedAmong_of_literals elements hp hvs
  | call name params, hp, hf => by
    rw [fold_call] at hf
    obtain ⟨vs, hvs⟩ := literals_of_attemptCall hf
    rintro ⟨_, h⟩
    exact not_reachesLoosenedAmong_of_literals params hp hvs h

theorem not_reachesLoosenedAmong_of_literals : (es : List Expr) → ProperAll es →
    ∀ {vs : List Value}, literals? (foldAll scope allowance es).result = some vs →
    ¬ ReachesLoosenedAmong scope allowance es
  | [], _, _, _ => fun h => h
  | e :: rest, hp, vs, hvs => by
    rw [foldAll_cons] at hvs
    obtain ⟨⟨v, hv⟩, ws, hws⟩ := literals?_cons_eq_some hvs
    rintro (h | ⟨_, h⟩)
    · exact not_reachesLoosened_of_leaf e hp.1 (by rw [hv]; trivial) h
    · exact not_reachesLoosenedAmong_of_literals rest hp.2 hws h

end

/-- A loosened operand is an undefined variable when it is evaluated. -/
theorem outcome_of_loosened {e : Expr} (hp : e.Proper) (h : Loosened scope allowance e) :
    ∃ name, outcome scope e = .error (.undefinedVariable name) := by
  obtain ⟨_, name, hf, hx⟩ := h
  have hn := not_reachesLoosened_of_leaf e hp (by rw [hf]; trivial)
  refine ⟨name, ?_⟩
  rw [← outcome_fold e hp hn, hf, outcome_variable, hx]

/-! ## Where the outcome changes -/

theorem ne_variable_of_reachesLoosened {e : Expr} (h : ReachesLoosened scope allowance e) :
    ∀ name, e ≠ .variable name := by
  rintro name rfl
  exact h

mutual

/-- An evaluation that reaches a loosened operand ends there. -/
theorem outcome_of_reachesLoosened : (e : Expr) → e.Proper →
    ReachesLoosened scope allowance e →
    ∃ name, outcome scope e = .error (.undefinedVariable name)
  | literal _, _, h | .variable _, _, h => False.elim h
  | unary op operand, hp, h => by
    obtain ⟨name, hn⟩ := outcome_of_reachesLoosened operand hp h
    exact ⟨name, by rw [outcome_unary, hn]; rfl⟩
  | binary op left right, hp, h => by
    -- below the left operand, the left operand itself, and the same on the right
    rcases h with h | ⟨_, h⟩ | ⟨hread, h | ⟨_, h⟩⟩
    · obtain ⟨name, hn⟩ := outcome_of_reachesLoosened left hp.1 h
      exact ⟨name, outcome_binary_of_left (ne_variable_of_reachesLoosened h) hn⟩
    · obtain ⟨name, hn⟩ := outcome_of_loosened hp.1 h
      exact ⟨name, outcome_binary_of_left h.1 hn⟩
    · obtain ⟨name, hn⟩ := outcome_of_reachesLoosened right hp.2 h
      exact ⟨name, outcome_binary_of_right hread (ne_variable_of_reachesLoosened h) hn⟩
    · obtain ⟨name, hn⟩ := outcome_of_loosened hp.2 h
      exact ⟨name, outcome_binary_of_right hread h.1 hn⟩
  | ternary op condition thenBranch elseBranch, hp, h => by
    obtain ⟨rfl, hc, ht, hf⟩ := hp
    rw [outcome_conditional]
    rcases h with h | ⟨hv, h⟩ | ⟨hv, h⟩
    · obtain ⟨name, hn⟩ := outcome_of_reachesLoosened condition hc h
      exact ⟨name, by rw [truthOutcome, hn]; rfl⟩
    · rw [hv]
      exact outcome_of_reachesLoosened thenBranch ht h
    · rw [hv]
      exact outcome_of_reachesLoosened elseBranch hf h
  | array elements, hp, h => by
    obtain ⟨name, hn⟩ := outcomes_of_reachesLoosened elements hp h
    exact ⟨name, by rw [outcome_array, hn]; rfl⟩
  | call name params, hp, h => by
    obtain ⟨⟨f, hf, ha⟩, h⟩ := h
    obtain ⟨x, hx⟩ := outcomes_of_reachesLoosened params hp h
    refine ⟨x, ?_⟩
    rw [outcome_call, hf]
    show ite _ _ _ = _
    rw [if_pos ha, hx]
    rfl

theorem outcomes_of_reachesLoosened : (es : List Expr) → ProperAll es →
    ReachesLoosenedAmong scope allowance es →
    ∃ name, outcomes scope es = .error (.undefinedVariable name)
  | [], _, h => False.elim h
  | e :: rest, hp, h => by
    rw [outcomes_cons]
    rcases h with h | ⟨⟨v, hv⟩, h⟩
    · obtain ⟨name, hn⟩ := outcome_of_reachesLoosened e hp.1 h
      exact ⟨name, by rw [hn]; rfl⟩
    · obtain ⟨name, hn⟩ := outcomes_of_reachesLoosened rest hp.2 h
      exact ⟨name, by rw [hv, hn]; rfl⟩

end

/-- The same value, or errors of the same kind. -/
def SameOutcome : Except EvalError Value → Except EvalError Value → Prop
  | .ok v, .ok w => v = w
  | .error err, .error err' => err.kind = err'.kind
  | _, _ => False

theorem SameOutcome.refl (r : Except EvalError Value) : SameOutcome r r := by
  cases r <;> rfl

/-- **Folding and outcomes.** The outcome is the very same as long as evaluation reaches no loosened
operand. Otherwise a variable is undefined before folding, and the outcome stays of the same kind exactly
when one is undefined afterwards as well. -/
theorem fold_sameOutcome_iff (e : Expr) (hp : e.Proper) :
    (¬ ReachesLoosened scope allowance e →
      outcome scope (fold scope allowance e).result = outcome scope e) ∧
    (ReachesLoosened scope allowance e →
      ∃ name, outcome scope e = .error (.undefinedVariable name)) ∧
    (SameOutcome (outcome scope (fold scope allowance e).result) (outcome scope e) ↔
      (ReachesLoosened scope allowance e →
        ∃ err, outcome scope (fold scope allowance e).result = .error err ∧
          err.kind = .undefinedVariable)) := by
  refine ⟨outcome_fold e hp, outcome_of_reachesLoosened e hp, ?_⟩
  by_cases hr : ReachesLoosened scope allowance e
  · obtain ⟨name, hn⟩ := outcome_of_reachesLoosened e hp hr
    rw [hn]
    constructor
    · intro hs _
      cases ho : outcome scope (fold scope allowance e).result with
      | ok v => rw [ho] at hs; exact absurd hs id
      | error err => rw [ho] at hs; exact ⟨err, rfl, hs⟩
    · intro h
      obtain ⟨err, ho, hk⟩ := h hr
      rw [ho]
      exact hk
  · rw [outcome_fold e hp hr]
    exact ⟨fun _ h => absurd h hr, fun _ => SameOutcome.refl _⟩

/-- A decided conditional as an operand: `x` if true, otherwise the empty text, equals the empty text. -/
def decidedEquality : Expr :=
  binary .equal
    (ternary .conditional (literal (.boolean true)) (.variable "x") (literal (.string "")))
    (literal (.string ""))

theorem decidedEquality_proper : decidedEquality.Proper :=
  ⟨⟨rfl, trivial, trivial, trivial⟩, trivial⟩

/-- The loosened operand is behind `and` here, and evaluation stops before it. -/
theorem fold_sameOutcome_unread :
    (binary .and (literal (.boolean false)) decidedEquality).Proper ∧
      ¬ ReachesLoosened Scope.empty none
        (binary .and (literal (.boolean false)) decidedEquality) ∧
      outcome Scope.empty
          (fold Scope.empty none (binary .and (literal (.boolean false)) decidedEquality)).result =
        outcome Scope.empty (binary .and (literal (.boolean false)) decidedEquality) := by
  have hp : (binary .and (literal (.boolean false)) decidedEquality).Proper :=
    ⟨trivial, decidedEquality_proper⟩
  have hn : ¬ ReachesLoosened Scope.empty none
      (binary .and (literal (.boolean false)) decidedEquality) := by
    rintro (h | ⟨h, _⟩ | ⟨h, _⟩)
    · exact h
    · cases h
    · cases h
  exact ⟨hp, hn, (fold_sameOutcome_iff _ hp).1 hn⟩

/-- Without variables, folding turns this failure into a value. -/
theorem fold_changes_outcome :
    decidedEquality.Proper ∧
      outcome Scope.empty decidedEquality = .error (.undefinedVariable "x") ∧
      outcome Scope.empty (fold Scope.empty none decidedEquality).result = .ok (.boolean true) ∧
      ¬ SameOutcome (outcome Scope.empty (fold Scope.empty none decidedEquality).result)
        (outcome Scope.empty decidedEquality) :=
  ⟨decidedEquality_proper, rfl, rfl, id⟩

end Reckon.Expr
