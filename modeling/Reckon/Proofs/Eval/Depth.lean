import Reckon.Proofs.Eval.Following
import Reckon.Proofs.Nesting

/-!
# `Proofs.Eval.Depth` — how deep evaluation goes

Evaluating an expression takes as many levels as it is deep, and no more. With fewer levels granted the
outcome may still be what it is without a bound, since not every operand is always looked at; otherwise it
is the error that says so. This holds whatever the functions do that are called, and after any calls.

Main statement: `Expr.follow_cutShort`.
-/

namespace Reckon

namespace Following

variable {α β : Type} {granted : Bool} {w w' : Following α}

/-- After any calls, what happens is what happens in `w'`, or else not enough is granted and the failure is
just that. -/
def CutShort (granted : Bool) (w w' : Following α) : Prop :=
  ∀ past, w.after past = w'.after past ∨
    granted = false ∧ (w.after past).result = .error .nestedTooDeeply

theorem CutShort.refl (w : Following α) : CutShort granted w w := fun _ => .inl rfl

theorem CutShort.deeper {a : Allowance} {m n : Nat} (h : CutShort (a.grants m) w w') (hle : m ≤ n) :
    CutShort (a.grants n) w w' := by
  intro past
  rcases h past with hsame | ⟨hrefused, hdeep⟩
  · exact .inl hsame
  · exact .inr ⟨Allowance.refuses_of_le hle hrefused, hdeep⟩

theorem CutShort.bind {next next' : α → Following β} (h : CutShort granted w w')
    (hnext : ∀ a, CutShort granted (next a) (next' a)) :
    CutShort granted (w.bind next) (w'.bind next') := by
  intro past
  rcases h past with hsame | ⟨hrefused, hdeep⟩
  · cases hr : (w'.after past).result with
    | error err =>
      rw [after_bind_of_error (hsame ▸ hr), after_bind_of_error hr, hsame]
      exact .inl rfl
    | ok a =>
      -- both go on after the same calls
      rw [after_bind_of_ok (hsame ▸ hr), after_bind_of_ok hr, hsame]
      rcases hnext a (past ++ (w'.after past).calls.map Invocation.step) with hmore | ⟨hrefused, hdeep⟩
      · rw [hmore]
        exact .inl rfl
      · exact .inr ⟨hrefused, hdeep⟩
  · rw [after_bind_of_error hdeep]
    exact .inr ⟨hrefused, rfl⟩

theorem CutShort.map (h : CutShort granted w w') (f : α → β) : CutShort granted (w.map f) (w'.map f) :=
  h.bind fun _ => .refl _

theorem CutShort.under (i : Nat) (h : CutShort granted w w') :
    CutShort granted (w.under i) (w'.under i) := by
  intro past
  rcases h past with hsame | hdeep
  · unfold Following.under
    dsimp only
    rw [hsame]
    exact .inl rfl
  · exact .inr hdeep

theorem CutShort.tolerant {scope : Scope} {w w' : Following Value} (h : CutShort granted w w')
    (e : Expr) : CutShort granted (w.tolerant scope e) (w'.tolerant scope e) := by
  cases e with
  | «variable» name => exact .refl _
  | _ => exact h.map _

/-- A level further down takes one more. -/
theorem CutShort.descend {a : Allowance} {n : Nat} {body body' : Allowance → Following α}
    (h : ∀ inner, CutShort (inner.grants n) (body inner) (body' none)) :
    CutShort (a.grants (n + 1)) (within a body) (within none body') := by
  rw [Allowance.grants_succ]
  unfold within
  cases a.descend with
  | none => exact fun past => .inr ⟨rfl, rfl⟩
  | some inner => exact h inner

end Following

namespace Expr

open Following (CutShort)

variable {scope : Scope} {host : Host}

mutual

/-- **An allowance makes no difference to evaluation but that nesting may be too deep for it.** -/
theorem follow_cutShort : (e : Expr) → (a : Allowance) →
    CutShort (a.grants e.depth) (follow scope host a e) (follow scope host none e)
  | literal v, a => by
    rw [follow_literal, follow_literal]
    exact .descend (n := 0) fun inner => .refl _
  | .variable name, a => by
    rw [follow_variable, follow_variable]
    exact .descend (n := 0) fun inner => .refl _
  | unary op operand, a => by
    rw [follow_unary, follow_unary]
    exact .descend fun inner => ((follow_cutShort operand inner).under 0).bind fun v => .refl _
  | .binary op left right, a => by
    rw [follow_binary, follow_binary]
    refine CutShort.descend (n := max left.depth right.depth) ?_
    intro inner
    -- what the deeper operand takes is enough for both
    have hl := ((follow_cutShort left inner).deeper (Nat.le_max_left _ right.depth)).under 0
    have hr := ((follow_cutShort right inner).deeper (Nat.le_max_right left.depth _)).under 1
    cases op.reading with
    | short decider =>
      refine (hl.bind fun v => .refl _).bind ?_
      intro holds
      split
      · exact .refl _
      · exact (hr.bind fun v => .refl _).map _
    | tolerant =>
      -- a direct variable is looked up on the level of the equality, so no level is missing for it
      exact (hl.tolerant left).bind fun x => (hr.tolerant right).map _
    | strict => exact hl.bind fun v => hr.bind fun w => .refl _
  | .ternary op condition thenBranch elseBranch, a => by
    by_cases hop : op = .conditional
    · rw [hop, follow_conditional, follow_conditional]
      refine CutShort.descend (n := max condition.depth (max thenBranch.depth elseBranch.depth)) ?_
      intro inner
      have hbranches := Nat.le_max_right condition.depth (max thenBranch.depth elseBranch.depth)
      have hc := (follow_cutShort condition inner).deeper
        (Nat.le_max_left _ (max thenBranch.depth elseBranch.depth))
      have ht := (follow_cutShort thenBranch inner).deeper (Nat.le_trans (Nat.le_max_left _ _) hbranches)
      have hf := (follow_cutShort elseBranch inner).deeper (Nat.le_trans (Nat.le_max_right _ _) hbranches)
      refine ((hc.under 0).bind fun v => .refl _).bind ?_
      intro holds
      cases holds with
      | true => exact ht.under 1
      | false => exact hf.under 2
    · rw [follow_unfit hop, follow_unfit hop]
      exact .descend (n := max condition.depth (max thenBranch.depth elseBranch.depth)) fun inner => .refl _
  | .array elements, a => by
    rw [follow_array, follow_array]
    exact .descend fun inner => (followFrom_cutShort elements inner 0).map _
  | .call name params, a => by
    rw [follow_call, follow_call]
    refine CutShort.descend (n := depthAll params) ?_
    intro inner
    cases scope.callable? name with
    | none => exact .refl _
    | some f =>
      dsimp only
      split
      · exact (followFrom_cutShort params inner 0).bind fun vs => .refl _
      · exact .refl _

theorem followFrom_cutShort : (es : List Expr) → (a : Allowance) → (i : Nat) →
    CutShort (a.grants (depthAll es)) (followFrom scope host a i es) (followFrom scope host none i es)
  | [], a, i => by
    rw [followFrom, followFrom]
    exact .refl _
  | e :: rest, a, i => by
    have he := ((follow_cutShort e a).deeper (Nat.le_max_left _ (depthAll rest))).under i
    have hrest := (followFrom_cutShort rest a (i + 1)).deeper (Nat.le_max_right e.depth _)
    rw [followFrom, followFrom]
    exact he.bind fun v => hrest.map _

end

end Expr

end Reckon
