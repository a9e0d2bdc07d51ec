import Reckon.Proofs.Check.Validity

/-!
# `Proofs.Check.References` — the first problem, and where evaluation stops

`references` lists what an expression refers to in the scope, each call before its parameters and all from
left to right. Two walks go by that list.

  * `validate` reports the problem of the first reference on it that does not resolve
    (`validate_eq_some_iff`), so it is silent exactly if all of them do (`validate_eq_none_iff`).
  * Evaluation comes to the references in the same order, whatever the functions do that are called, as long
    as nothing in the expression is skipped or tolerated (`Eager`). What it got past is in order, so when it
    fails over a reference, that is the first problem (`follow_meets`).

Main statement: `first_problem_reported`.
-/

namespace Reckon

/-- What an expression refers to: a variable, or a function with so many parameters. -/
inductive Reference where
  | value (name : String)
  | call (name : String) (count : Nat)

namespace Reference

/-- The scope has what is referred to, and a function of it takes that many parameters. -/
def Resolves (scope : Scope) : Reference → Prop
  | value name => ∃ v, scope.value? name = some v
  | call name count => ∃ f, scope.callable? name = some f ∧ f.arity.accepts count = true

/-- The reference does not resolve, and the problem says why. -/
inductive Fails (scope : Scope) : Reference → Problem → Prop where
  | missingVariable {name : String} (missing : scope.value? name = none) :
      Fails scope (value name) (.missingVariable name)
  | missingFunction {name : String} {count : Nat} (missing : scope.callable? name = none) :
      Fails scope (call name count) (.missingFunction name)
  | wrongCount {name : String} {count : Nat} {f : Callable} (found : scope.callable? name = some f)
      (refused : f.arity.accepts count = false) :
      Fails scope (call name count) (.wrongCount name f.arity count)

/-- The problem with a reference. -/
def problem? (scope : Scope) : Reference → Option Problem
  | value name => (Expr.variable name).validate scope
  | call name count => checkCall scope name count

theorem problem?_eq_none_iff {scope : Scope} {r : Reference} :
    r.problem? scope = none ↔ r.Resolves scope := by
  cases r with
  | value name => exact Expr.validate_variable
  | call name count => exact Expr.checkCall_eq_none

theorem problem?_eq_some_iff {scope : Scope} {r : Reference} {problem : Problem} :
    r.problem? scope = some problem ↔ r.Fails scope problem := by
  constructor
  · intro h
    cases r with
    | value name =>
      rw [problem?, Expr.validate] at h
      cases hvalue : scope.value? name with
      | some v =>
        rw [hvalue] at h
        cases h
      | none =>
        rw [hvalue] at h
        cases h
        exact .missingVariable hvalue
    | call name count =>
      rw [problem?, checkCall] at h
      cases hf : scope.callable? name with
      | none =>
        rw [hf] at h
        cases h
        exact .missingFunction hf
      | some f =>
        rw [hf] at h
        dsimp only at h
        split at h
        · cases h
        · next hrefused =>
          cases h
          exact .wrongCount hf (eq_false_of_ne_true hrefused)
  · intro h
    cases h with
    | missingVariable missing => rw [problem?, Expr.validate, missing]
    | missingFunction missing => rw [problem?, checkCall, missing]
    | wrongCount found refused =>
      rw [problem?, checkCall, found]
      dsimp only
      rw [refused, if_neg Bool.false_ne_true]

end Reference

namespace Expr

variable {scope : Scope}

/-! ## Looking over the references -/

mutual

/-- What an expression refers to, a call before its parameters and all from left to right. A conditional
refers to the function of the call that it comes from. -/
def references : Expr → List Reference
  | literal _ => []
  | .variable name => [.value name]
  | call name params => .call name params.length :: referencesAll params
  | unary _ operand => operand.references
  | binary _ left right => left.references ++ right.references
  | array elements => referencesAll elements
  | ternary _ condition thenBranch elseBranch =>
    .call conditionalName 3 ::
      (condition.references ++ (thenBranch.references ++ elseBranch.references))

/-- What expressions refer to, from left to right. -/
def referencesAll : List Expr → List Reference
  | [] => []
  | e :: rest => e.references ++ referencesAll rest

end

mutual

/-- The first problem is the problem of the first reference that has one. -/
theorem validate_eq_findSome? : (e : Expr) →
    validate scope e = e.references.findSome? (Reference.problem? scope)
  | literal _ => rfl
  | .variable name => by
    rw [references, List.findSome?_singleton]
    rfl
  | .call name params => by
    rw [validate, references, List.findSome?_cons, validateAll_eq_findSome? params,
      Reference.problem?]
    cases checkCall scope name params.length <;> rfl
  | .unary _ operand => by
    rw [validate, references]
    exact validate_eq_findSome? operand
  | .binary _ left right => by
    rw [validate, references, List.findSome?_append, validate_eq_findSome? left,
      validate_eq_findSome? right]
  | .array elements => by
    rw [validate, references]
    exact validateAll_eq_findSome? elements
  | .ternary _ condition thenBranch elseBranch => by
    rw [validate, references, List.findSome?_cons, List.findSome?_append, List.findSome?_append,
      validate_eq_findSome? condition, validate_eq_findSome? thenBranch,
      validate_eq_findSome? elseBranch, Reference.problem?]
    cases checkCall scope conditionalName 3 <;> rfl

theorem validateAll_eq_findSome? : (es : List Expr) →
    validateAll scope es = (referencesAll es).findSome? (Reference.problem? scope)
  | [] => rfl
  | e :: rest => by
    rw [validateAll, referencesAll, List.findSome?_append, validate_eq_findSome? e,
      validateAll_eq_findSome? rest]

end

/-- An expression is valid exactly if all its references resolve. -/
theorem validate_eq_none_iff {e : Expr} :
    validate scope e = none ↔ ∀ r ∈ e.references, r.Resolves scope := by
  rw [validate_eq_findSome?, List.findSome?_eq_none_iff]
  exact forall₂_congr fun _ _ => Reference.problem?_eq_none_iff

/-- The reference fails with the problem, and those before it resolve. -/
def FirstFailing (scope : Scope) (references : List Reference) (r : Reference)
    (problem : Problem) : Prop :=
  ∃ before after, references = before ++ r :: after ∧ (∀ q ∈ before, q.Resolves scope) ∧
    r.Fails scope problem

/-- What is reported is the problem of the first reference that does not resolve. -/
theorem validate_eq_some_iff {e : Expr} {problem : Problem} :
    validate scope e = some problem ↔ ∃ r, FirstFailing scope e.references r problem := by
  rw [validate_eq_findSome?, List.findSome?_eq_some_iff]
  constructor
  · rintro ⟨before, r, after, hlist, hr, hbefore⟩
    exact ⟨r, before, after, hlist, fun q hq => Reference.problem?_eq_none_iff.mp (hbefore q hq),
      Reference.problem?_eq_some_iff.mp hr⟩
  · rintro ⟨r, before, after, hlist, hbefore, hr⟩
    exact ⟨before, r, after, hlist, Reference.problem?_eq_some_iff.mpr hr,
      fun q hq => Reference.problem?_eq_none_iff.mpr (hbefore q hq)⟩

/-! ## Evaluating -/

mutual

/-- Evaluating skips no part of the expression and tolerates no unknown variable: none of `and`, `or`, `=`
and `<>` occurs in it, and no conditional. -/
def Eager : Expr → Prop
  | literal _ | .variable _ => True
  | call _ params => EagerAll params
  | unary _ operand => operand.Eager
  | binary op left right =>
    op ∉ [Operator.and, .or, .equal, .notEqual] ∧ left.Eager ∧ right.Eager
  | array elements => EagerAll elements
  | ternary .. => False

def EagerAll : List Expr → Prop
  | [] => True
  | e :: rest => e.Eager ∧ EagerAll rest

end

end Expr

/-- The error of an evaluation that comes to the problem. -/
def Problem.stop : Problem → EvalError
  | missingVariable name => .undefinedVariable name
  | missingFunction name => .unknownFunction name
  | wrongCount name expected found => .wrongCount name expected found

namespace Following

variable {α β : Type} {w : Following α} {problem? : Option Problem}

/-- An evaluation of parts with this first problem, if any: whatever was called before, it has a value only
if there is none, and fails over a reference only with that problem. -/
structure Meets (problem? : Option Problem) (w : Following α) : Prop where
  value : ∀ past a, (w.after past).result = .ok a → problem? = none
  error : ∀ past err, (w.after past).result = .error err → err.kind.ofReference = true →
    ∃ p, problem? = some p ∧ err = p.stop

theorem Meets.done (a : α) : Meets none (still (.done a)) where
  value _ _ _ := rfl
  error _ _ h := by cases h

theorem Meets.stop (p : Problem) : Meets (some p) (still (.fail p.stop : Traced α)) where
  value _ _ h := by cases h
  error _ _ h _ := ⟨p, rfl, (Except.error.inj h).symm⟩

theorem Resolved.meets (h : w.Resolved) : Meets none w where
  value _ _ _ := rfl
  error past err herr hreference := by
    rw [h past err herr] at hreference
    cases hreference

/-- What comes second is met only if the first part got past its references. -/
theorem Meets.bind {next : α → Following β} {first? second? : Option Problem} (h : Meets first? w)
    (hn : ∀ a, Meets second? (next a)) : Meets (first?.or second?) (w.bind next) where
  value past b hb := by
    obtain ⟨a, past', ha, hb⟩ := exists_of_bind_ok hb
    rw [h.value past a ha, (hn a).value past' b hb]
    rfl
  error past err herr hreference := by
    cases hr : (w.after past).result with
    | ok a =>
      rw [after_bind_of_ok hr] at herr
      rw [h.value past a hr]
      exact (hn a).error _ err herr hreference
    | error e =>
      rw [after_bind_of_error hr] at herr
      cases herr
      obtain ⟨p, rfl, hstop⟩ := h.error past err hr hreference
      exact ⟨p, rfl, hstop⟩

/-- A step that does not fail over a reference meets nothing. -/
theorem Meets.bind_resolved {next : α → Following β} (h : Meets problem? w)
    (hn : ∀ a, (next a).Resolved) : Meets problem? (w.bind next) := by
  rw [← Option.or_none (o := problem?)]
  exact h.bind fun a => (hn a).meets

theorem Meets.map (h : Meets problem? w) (f : α → β) : Meets problem? (w.map f) :=
  h.bind_resolved fun _ => .done _

theorem Meets.under (i : Nat) (h : Meets problem? w) : Meets problem? (w.under i) where
  value := h.value
  error := h.error

theorem Meets.within {body : Allowance → Following α} (a : Allowance)
    (h : ∀ inner, Meets problem? (body inner)) : Meets problem? (within a body) := by
  unfold Following.within
  cases a.descend with
  | none =>
    constructor
    · intro past v hv
      cases hv
    · intro past err herr hreference
      cases herr
      cases hreference
  | some inner => exact h inner

end Following

/-- An operator that skips and tolerates nothing reads both its operands. -/
theorem Operator.reading_strict {op : Operator} (h : op ∉ [Operator.and, .or, .equal, .notEqual]) :
    op.reading = .strict := by
  cases op with
  | and | or | equal | notEqual => simp at h
  | _ => rfl

namespace Expr

open Following (Meets)

variable {scope : Scope} {host : Host}

mutual

/-- **Evaluation meets the first problem**, whatever the functions do. -/
theorem follow_meets : (e : Expr) → e.Eager → ∀ a, Meets (validate scope e) (follow scope host a e)
  | literal v, _, a => by
    rw [follow_literal]
    exact .within a fun _ => .done v
  | .variable name, _, a => by
    rw [follow_variable, validate]
    refine .within a ?_
    intro inner
    cases scope.value? name with
    | none => exact .stop (.missingVariable name)
    | some v => exact .done v
  | .unary op operand, h, a => by
    rw [follow_unary, validate]
    refine .within a ?_
    intro inner
    have ho := (follow_meets operand h inner).under 0
    exact ho.bind_resolved fun v => .still (applyUnary_resolved op v)
  | .binary op left right, h, a => by
    obtain ⟨hop, hleft, hright⟩ := h
    rw [follow_binary, validate]
    refine .within a ?_
    intro inner
    rw [Operator.reading_strict hop]
    have hl := (follow_meets left hleft inner).under 0
    have hr := (follow_meets right hright inner).under 1
    exact hl.bind fun v => hr.bind_resolved fun w => .still (applyBinary_resolved op v w)
  | .array elements, h, a => by
    rw [follow_array, validate]
    exact .within a fun inner => (followFrom_meets elements h inner 0).map _
  | .call name params, h, a => by
    rw [follow_call, validate, checkCall]
    refine .within a ?_
    intro inner
    cases scope.callable? name with
    | none => exact .stop (.missingFunction name)
    | some f =>
      dsimp only
      split
      · have hparams := followFrom_meets params h inner 0
        exact hparams.bind_resolved (.invoke host f name params.length)
      · exact .stop (.wrongCount name f.arity params.length)

theorem followFrom_meets : (es : List Expr) → EagerAll es →
    ∀ a i, Meets (validateAll scope es) (followFrom scope host a i es)
  | [], _, _, _ => by
    rw [followFrom]
    exact .done []
  | e :: rest, h, a, i => by
    rw [followFrom, validateAll]
    have he := (follow_meets e h.1 a).under i
    exact he.bind fun _ => (followFrom_meets rest h.2 a (i + 1)).map _

end

/-- **Main theorem.** `validate` is silent exactly if every reference resolves, and otherwise reports the
first that does not. And where nothing is skipped or tolerated, evaluation that fails over a reference, at
whatever nesting is granted, whatever the functions do and whatever was called before, has stopped at that
same reference. Evaluation in a scope is the case of functions that stand by their bodies. -/
theorem first_problem_reported (scope : Scope) :
    (∀ e : Expr, validate scope e = none ↔ ∀ r ∈ e.references, r.Resolves scope) ∧
      (∀ (e : Expr) (problem : Problem), validate scope e = some problem ↔
        ∃ r, FirstFailing scope e.references r problem) ∧
      (∀ (host : Host) (e : Expr) (a : Allowance) (past : List (Callable × List Value)) (err : EvalError),
        e.Eager → ((follow scope host a e).after past).result = .error err →
        err.kind.ofReference = true →
        ∃ r problem, FirstFailing scope e.references r problem ∧ err = problem.stop ∧
          validate scope e = some problem) ∧
      ∀ e a past, ((follow scope .standing a e).after past).traced = eval scope a e := by
  refine ⟨fun _ => validate_eq_none_iff, fun _ _ => validate_eq_some_iff, ?_, follow_standing⟩
  intro host e a past err heager hfails hreference
  have hmeets : Meets (validate scope e) (follow scope host a e) := follow_meets e heager a
  obtain ⟨problem, hproblem, hstop⟩ := hmeets.error past err hfails hreference
  obtain ⟨r, hfirst⟩ := validate_eq_some_iff.mp hproblem
  exact ⟨r, problem, hfirst, hstop, hproblem⟩

/-- `if_then(-x, Rate) + tax()`. -/
def taxed : Expr :=
  binary .plus (call "if_then" [unary .minus (.variable "x"), .variable "Rate"]) (call "tax" [])

/-- `x` is `1`, and there is no rate and no tax. -/
def untaxed : Scope := choosingText.addVariable "x" (.number 1.0)

/-- Whatever the functions do, evaluation gets past `x`, and stops at the rate before it comes to the tax. -/
theorem first_problem_reported_untaxed :
    taxed.Eager ∧
      ((follow untaxed climbing none taxed).after []).result = .error (.undefinedVariable "Rate") ∧
      (EvalError.undefinedVariable "Rate").kind.ofReference = true ∧
      validate untaxed taxed = some (.missingVariable "Rate") := by
  have heager : taxed.Eager := by simp [taxed, Eager, EagerAll]
  have hfails : ((follow untaxed climbing none taxed).after []).result =
      .error (.undefinedVariable "Rate") := rfl
  obtain ⟨-, -, hevaluation, -⟩ := first_problem_reported untaxed
  obtain ⟨r, problem, -, hstop, hproblem⟩ := hevaluation climbing taxed none [] _ heager hfails rfl
  cases problem with
  | missingVariable name =>
    cases hstop
    exact ⟨heager, hfails, rfl, hproblem⟩
  | missingFunction name => cases hstop
  | wrongCount name expected found => cases hstop

end Expr

end Reckon
