import Reckon.Proofs.Eval.Following

/-!
# `Proofs.Scope.Missing` — a variable that the scope does not know

An unknown variable is no failure as a direct operand of `=` or `<>`, so these can tell whether it is there.
Nothing else can. To show this, an evaluation is run twice, without the variable and with it. As long as no
equality asks for the variable directly (`Uncompared`), the two runs do the same, call by call, up to the
point where the first one needs the value of the variable and stops.

`Following.SameUnless` relates the two runs. Everything that an evaluation is made of hands it on
(`SameUnless.bind`). An operand of an equality does so too, unless it is that variable
(`SameUnless.tolerant`).

Main statement: `missing_unseen`.
-/

namespace Reckon

/-- The error says that a variable of that name is unknown, in whatever letter case it was written. -/
def EvalError.Misses (x : String) (err : EvalError) : Prop :=
  ∃ name, Text.lower name = Text.lower x ∧ err = .undefinedVariable name

namespace Following

variable {α β : Type} {x : String} {w w' : Following α}

/-- Both evaluations do the same, unless the first one stops because a variable of that name is unknown. -/
def SameUnless (x : String) (w w' : Following α) : Prop :=
  ∀ past, w'.after past = w.after past ∨ ∃ err, (w.after past).result = .error err ∧ err.Misses x

theorem SameUnless.refl (w : Following α) : SameUnless x w w :=
  fun _ => Or.inl rfl

theorem SameUnless.bind {next next' : α → Following β} (h : SameUnless x w w')
    (hn : ∀ a, SameUnless x (next a) (next' a)) : SameUnless x (w.bind next) (w'.bind next') := by
  intro past
  rcases h past with hsame | ⟨err, herr, hmisses⟩
  · cases hr : (w.after past).result with
    | error err =>
      have hr' : (w'.after past).result = .error err := by rw [hsame, hr]
      rw [after_bind_of_error hr, after_bind_of_error hr', hsame]
      exact Or.inl rfl
    | ok a =>
      have hr' : (w'.after past).result = .ok a := by rw [hsame, hr]
      rw [after_bind_of_ok hr, after_bind_of_ok hr', hsame]
      -- the calls so far are the same, so both go on from the same point
      rcases hn a (past ++ (w.after past).calls.map Invocation.step) with hnext | hstop
      · rw [hnext]
        exact Or.inl rfl
      · exact Or.inr hstop
  · rw [after_bind_of_error herr]
    exact Or.inr ⟨err, rfl, hmisses⟩

theorem SameUnless.map (f : α → β) (h : SameUnless x w w') : SameUnless x (w.map f) (w'.map f) :=
  h.bind fun _ => .refl _

theorem SameUnless.under (i : Nat) (h : SameUnless x w w') : SameUnless x (w.under i) (w'.under i) := by
  intro past
  rcases h past with hsame | hstop
  · unfold Following.under
    dsimp only
    rw [hsame]
    exact Or.inl rfl
  · exact Or.inr hstop

theorem SameUnless.within (a : Allowance) {body body' : Allowance → Following α}
    (h : ∀ inner, SameUnless x (body inner) (body' inner)) :
    SameUnless x (.within a body) (.within a body') := by
  unfold Following.within
  cases a.descend with
  | none => exact .refl _
  | some inner => exact h inner

/-- An operand of an equality lets an unknown variable through; if it is not the one in question, both scopes
know it or neither does. -/
theorem SameUnless.tolerant {w w' : Following Value} {scope scope' : Scope} (h : SameUnless x w w')
    {operand : Expr} (hoperand : ∀ name, operand = .variable name → scope'.value? name = scope.value? name) :
    SameUnless x (w.tolerant scope operand) (w'.tolerant scope' operand) := by
  cases operand with
  | «variable» name =>
    unfold Following.tolerant
    dsimp only
    rw [hoperand name rfl]
    exact .refl _
  | _ => exact h.map some

end Following

namespace Expr

open Following (SameUnless)

variable {scope : Scope} {host : Host} {x : String} {v : Value}

/-- The expression is a variable of that name, in whatever letter case. -/
def IsVariable (x : String) (e : Expr) : Prop :=
  ∃ name, Text.lower name = Text.lower x ∧ e = .variable name

mutual

/-- Nowhere in the expression a variable of that name is a direct operand of `=` or `<>`. -/
def Uncompared (x : String) : Expr → Prop
  | literal _ | .variable _ => True
  | call _ params => UncomparedAll x params
  | unary _ operand => operand.Uncompared x
  | binary op left right =>
    (op ∈ [Operator.equal, .notEqual] → ¬ left.IsVariable x ∧ ¬ right.IsVariable x) ∧
      left.Uncompared x ∧ right.Uncompared x
  | array elements => UncomparedAll x elements
  | ternary _ condition thenBranch elseBranch =>
    condition.Uncompared x ∧ thenBranch.Uncompared x ∧ elseBranch.Uncompared x

def UncomparedAll (x : String) : List Expr → Prop
  | [] => True
  | e :: rest => e.Uncompared x ∧ UncomparedAll x rest

end

/-- Adding a variable changes no other. -/
theorem value?_of_not_isVariable (scope : Scope) (v : Value) {e : Expr} (h : ¬ e.IsVariable x)
    (name : String) (he : e = .variable name) : (scope.addVariable x v).value? name = scope.value? name := by
  rw [Scope.value?_addVariable, if_neg]
  intro hname
  exact h ⟨name, hname, he⟩

mutual

/-- **Two runs, without the variable and with it.** -/
theorem follow_sameUnless (hx : scope.value? x = none) : (e : Expr) → e.Uncompared x → ∀ a,
    SameUnless x (follow scope host a e) (follow (scope.addVariable x v) host a e)
  | literal value, _, a => by
    rw [follow_literal, follow_literal]
    exact .refl _
  | .variable name, _, a => by
    rw [follow_variable, follow_variable]
    refine SameUnless.within a ?_
    intro inner
    by_cases hname : Text.lower name = Text.lower x
    · -- it is the variable in question, and the first run stops here
      have hmissing : scope.value? name = none := by
        rw [Scope.value?, hname]
        exact hx
      rw [hmissing]
      exact fun past => Or.inr ⟨_, rfl, name, hname, rfl⟩
    · rw [Scope.value?_addVariable, if_neg hname]
      exact .refl _
  | unary op operand, he, a => by
    rw [follow_unary, follow_unary]
    refine SameUnless.within a ?_
    intro inner
    exact ((follow_sameUnless hx operand he inner).under 0).bind fun _ => .refl _
  | .binary op left right, he, a => by
    obtain ⟨hdirect, hleft, hright⟩ := he
    rw [follow_binary, follow_binary]
    refine SameUnless.within a ?_
    intro inner
    have hl := (follow_sameUnless hx left hleft inner).under 0
    have hr := (follow_sameUnless hx right hright inner).under 1
    cases hop : op.reading with
    | short decider =>
      refine (hl.bind fun _ => .refl _).bind ?_
      intro holds
      split
      · exact .refl _
      · exact (hr.bind fun _ => .refl _).map _
    | tolerant =>
      have hequality : op ∈ [Operator.equal, .notEqual] := by
        cases op with
        | equal | notEqual => simp
        | _ => cases hop
      obtain ⟨hnotLeft, hnotRight⟩ := hdirect hequality
      have hl' := hl.tolerant (value?_of_not_isVariable scope v hnotLeft)
      have hr' := hr.tolerant (value?_of_not_isVariable scope v hnotRight)
      exact hl'.bind fun _ => hr'.map _
    | strict => exact hl.bind fun _ => hr.bind fun _ => .refl _
  | .ternary op condition thenBranch elseBranch, he, a => by
    obtain ⟨hcondition, hthen, helse⟩ := he
    cases op with
    | conditional =>
      rw [follow_conditional, follow_conditional]
      refine SameUnless.within a ?_
      intro inner
      have hc := (follow_sameUnless hx condition hcondition inner).under 0
      refine (hc.bind fun _ => .refl _).bind ?_
      intro holds
      cases holds with
      | true => exact (follow_sameUnless hx thenBranch hthen inner).under 1
      | false => exact (follow_sameUnless hx elseBranch helse inner).under 2
    | _ =>
      rw [follow, follow]
      exact .refl _
  | .array elements, he, a => by
    rw [follow_array, follow_array]
    exact .within a fun inner => (followFrom_sameUnless hx elements he inner 0).map _
  | .call name params, he, a => by
    rw [follow_call, follow_call]
    refine SameUnless.within a ?_
    intro inner
    -- functions are not touched, so the same one is called, with the same parameters
    show SameUnless x (match scope.callable? name with | none => _ | some f => _)
      (match scope.callable? name with | none => _ | some f => _)
    cases scope.callable? name with
    | none => exact .refl _
    | some f =>
      dsimp only
      split
      · exact (followFrom_sameUnless hx params he inner 0).bind fun _ => .refl _
      · exact .refl _

theorem followFrom_sameUnless (hx : scope.value? x = none) : (es : List Expr) → UncomparedAll x es → ∀ a i,
    SameUnless x (followFrom scope host a i es) (followFrom (scope.addVariable x v) host a i es)
  | [], _, a, i => by
    rw [followFrom, followFrom]
    exact .refl _
  | e :: rest, hes, a, i => by
    rw [followFrom, followFrom]
    have hfirst := (follow_sameUnless hx e hes.1 a).under i
    exact hfirst.bind fun _ => (followFrom_sameUnless hx rest hes.2 a (i + 1)).map _

end

/-- **Main theorem.** Of a variable that the scope does not know, `=` and `<>` alone can tell that it is
missing. If none of them has it as a direct operand, an expression with a value has the same value once the
variable is added. And in any case the variable has no influence at all, on the outcome and on the calls that
are carried out, or the evaluation without it fails because it is unknown. So it is also with functions that
may do something else each time they are called. -/
theorem missing_unseen (scope : Scope) (e : Expr) (x : String) (v : Value) (hx : scope.value? x = none)
    (he : e.Uncompared x) :
    (∀ a w, (eval scope a e).result = .ok w → (eval (scope.addVariable x v) a e).result = .ok w) ∧
      (∀ a, eval (scope.addVariable x v) a e = eval scope a e ∨
        ∃ err, (eval scope a e).result = .error err ∧ err.Misses x) ∧
      ∀ host a past, (follow (scope.addVariable x v) host a e).after past = (follow scope host a e).after past ∨
        ∃ err, ((follow scope host a e).after past).result = .error err ∧ err.Misses x := by
  have hruns : ∀ host a, SameUnless x (follow scope host a e) (follow (scope.addVariable x v) host a e) :=
    fun host a => follow_sameUnless hx e he a
  have heval : ∀ a, eval (scope.addVariable x v) a e = eval scope a e ∨
      ∃ err, (eval scope a e).result = .error err ∧ err.Misses x := by
    intro a
    rw [← follow_standing e a [], ← follow_standing e a []]
    rcases hruns .standing a [] with hsame | hstop
    · rw [hsame]
      exact Or.inl rfl
    · exact Or.inr hstop
  refine ⟨?_, heval, hruns⟩
  intro a w hw
  rcases heval a with hsame | ⟨err, herr, -⟩
  · rw [hsame]
    exact hw
  · rw [herr] at hw
    cases hw

/-- `if_then(Y = '', 5, X)` as a conditional: `Y` is unknown and compared, `X` is unknown and not looked at. -/
def bothUnknown : Expr :=
  ternary .conditional (binary .equal (.variable "Y") (literal (.string ""))) (literal (.number 5.0))
    (.variable "X")

theorem missing_unseen_branch :
    Scope.empty.value? "x" = none ∧ bothUnknown.Uncompared "x" ∧
      (eval Scope.empty none bothUnknown).result = .ok (.number 5.0) ∧
      (eval (Scope.empty.addVariable "x" (.boolean true)) none bothUnknown).result = .ok (.number 5.0) := by
  have hmissing : Scope.empty.value? "x" = none := rfl
  have huncompared : bothUnknown.Uncompared "x" := by
    refine ⟨⟨fun _ => ⟨?_, ?_⟩, trivial, trivial⟩, trivial, trivial⟩
    · rintro ⟨name, hlower, hname⟩
      cases hname
      exact absurd hlower (by decide)
    · rintro ⟨name, -, hname⟩
      cases hname
  have hvalue : (eval Scope.empty none bothUnknown).result = .ok (.number 5.0) := rfl
  obtain ⟨hkept, -, -⟩ := missing_unseen Scope.empty bothUnknown "x" (.boolean true) hmissing huncompared
  exact ⟨hmissing, huncompared, hvalue, hkept none _ hvalue⟩

end Expr

end Reckon
