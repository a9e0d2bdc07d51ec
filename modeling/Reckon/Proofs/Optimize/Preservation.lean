import Reckon.Library.General
import Reckon.Optimize.Settle
import Reckon.Proofs.Eval.Refinement
import Reckon.Proofs.Optimize.FoldOutcome

/-!
# `Proofs.Optimize.Preservation` — optimizing keeps values and calls no new functions

Making conditionals, folding, and repeating both until nothing changes all refine the expression
(`lazy_refines`, `fold_refines`, `optimize_refines`): where the expression has a value, the optimized one
has the same, at any level of nesting that is granted, and the functions it calls are among those that
the expression calls, in their order.

Making conditionals needs that `if_then` is the function of the library, if it is known at all: a call
evaluates all parameters and then picks one, which is why skipping the other changes no value.
-/

namespace Reckon

/-- The functions that were called, by the names they are registered under, with their parameters. -/
def Traced.calls {α : Type} (t : Traced α) : List (String × List Value) :=
  t.trace.filterMap fun
    | .called name params => some (name, params)
    | _ => none

theorem Traced.Refines.calls_sublist {α : Type} {t' t : Traced α} {a : α} (h : t'.Refines t)
    (ha : t.result = .ok a) : t'.calls.Sublist t.calls :=
  (h a ha).2.filterMap _

/-- If `if_then` is known, it is the conditional function of the library. -/
def Scope.StandardConditional (scope : Scope) : Prop :=
  ∀ f, scope.callable? conditionalName = some f →
    f.arity = .withOptional 2 1 ∧ f.body = Library.binaryOptional Library.ifThen

namespace Expr

variable {scope : Scope} {allowance : Allowance}

/-! ## Conditionals for calls -/

/-- Of three parameters of which the first is a truth value, the second or the third is the value of the
call, so evaluating the other can be left out. -/
theorem choice_refines (c t f : Traced Value) {g : Callable} (name : String)
    (hg : g.body = Library.binaryOptional Library.ifThen) :
    Traced.Refines
      ((c.bind (requireTruth .conditional)).bind fun holds => if holds then t else f)
      ((c.bind fun x => (t.bind fun y => (f.bind fun z => .done [z]).map fun vs => y :: vs).map
        fun vs => x :: vs).bind (invoke g name)) := by
  intro v hv
  -- the call has a value, so all three parameters have one
  obtain ⟨vs, hvs, hcall⟩ := Traced.exists_of_bind_ok hv
  obtain ⟨x, hx, hvs⟩ := Traced.exists_of_bind_ok hvs
  obtain ⟨ws, hws, rfl⟩ := Traced.exists_of_map_ok hvs
  obtain ⟨y, hy, hws⟩ := Traced.exists_of_bind_ok hws
  obtain ⟨us, hus, rfl⟩ := Traced.exists_of_map_ok hws
  obtain ⟨z, hz, hus⟩ := Traced.exists_of_bind_ok hus
  cases hus
  have hall : ((c.bind fun x => (t.bind fun y => (f.bind fun z => .done [z]).map
      fun vs => y :: vs).map fun vs => x :: vs) : Traced (List Value)) =
      ⟨c.trace ++ (t.trace ++ f.trace), .ok [x, y, z]⟩ := by
    simp [Traced.bind, Traced.map, Traced.done, hx, hy, hz]
  rw [hall]
  rw [invoke, hg] at hcall
  cases x with
  | boolean b =>
    have hpick : ((c.bind (requireTruth .conditional)).bind fun holds => if holds then t else f) =
        ⟨c.trace ++ (if b then t else f).trace, (if b then t else f).result⟩ := by
      simp [Traced.bind, requireTruth, Traced.done, hx]
    rw [hpick]
    cases b with
    | true =>
      cases hcall
      exact ⟨hy, ((List.Sublist.refl _).append (List.sublist_append_left _ _)).trans
        (List.sublist_append_left _ _)⟩
    | false =>
      cases hcall
      exact ⟨hz, ((List.Sublist.refl _).append (List.sublist_append_right _ _)).trans
        (List.sublist_append_left _ _)⟩
  | _ => cases hcall

/-- A call of `if_then` with three parameters may be replaced by a conditional. -/
theorem conditionalOf_refines (hs : scope.StandardConditional) (name : String)
    (params : List Expr) :
    Refines scope (conditionalOf name params) (.call name params) := by
  unfold conditionalOf
  split
  · next condition thenBranch elseBranch =>
    split
    · next hname =>
      refine ⟨nofun, fun a b hab => ?_⟩
      -- first more levels for the conditional, then the call in its place at the old level
      have hmore : Refines scope (ternary .conditional condition thenBranch elseBranch) _ := .refl _
      refine (hmore.value a b hab).trans ?_
      rw [eval_conditional, eval_call]
      refine Traced.refines_within_same a ?_
      intro inner
      cases hf : scope.callable? name with
      | none => exact Traced.refines_fail _ _
      | some g =>
        have hg : scope.callable? conditionalName = some g := by
          rw [← hf, Scope.callable?, Scope.callable?, hname]
          rfl
        obtain ⟨harity, hbody⟩ := hs g hg
        have haccepts :
            g.arity.accepts [condition, thenBranch, elseBranch].length = true := by
          rw [harity]
          rfl
        show Traced.Refines _ (ite _ _ _)
        rw [if_pos haccepts]
        exact choice_refines _ _ _ name hbody
    · exact .refl _
  · exact .refl _

mutual

/-- **Making conditionals refines an expression.** -/
theorem lazy_refines (hs : scope.StandardConditional) : (e : Expr) → Refines scope e.lazy e
  | literal _ | .variable _ => .refl _
  | .call name params =>
    (conditionalOf_refines hs name (lazyAll params)).trans (.call (lazyAll_refines hs params) name)
  | .unary op operand => (lazy_refines hs operand).unary op
  | .binary op left right => (lazy_refines hs left).binary (lazy_refines hs right) op
  | .array elements => .array (lazyAll_refines hs elements)
  | .ternary op condition thenBranch elseBranch =>
    (lazy_refines hs condition).ternary (lazy_refines hs thenBranch) (lazy_refines hs elseBranch) op

theorem lazyAll_refines (hs : scope.StandardConditional) :
    (es : List Expr) → RefinesAll scope (lazyAll es) es
  | [] => .nil
  | e :: rest => .cons (lazy_refines hs e) (lazyAll_refines hs rest)

end

/-! ## Constants for operations -/

/-- A literal may stand for an expression that has its value. -/
theorem literal_refines {e : Expr} {v : Value} (hne : ∀ name, e ≠ .variable name)
    (hv : (eval scope allowance e).result = .ok v) : Refines scope (literal v) e where
  ofVariable name he := absurd he (hne name)
  value a b hab := by
    intro w hw
    have hvw : v = w := by
      have h := eval_unbounded hv
      rw [eval_unbounded hw] at h
      exact (Except.ok.inj h).symm
    obtain ⟨inner, ha⟩ := descend_of_value hw
    obtain ⟨inner', hb, _⟩ := Allowance.descend_of_atMost hab ha
    rw [eval_literal, Allowance.within_of_descend hb, hvw]
    exact ⟨rfl, List.nil_sublist _⟩

theorem attempt_refines {e : Expr} (he : ¬ e.IsLeaf) (operands : List Expr) :
    Refines scope (attempt scope allowance e operands).result e := by
  rcases attempt_result scope allowance e operands with h | ⟨v, hv, h⟩
  · rw [h]
    exact .refl e
  · rw [h]
    refine literal_refines (fun name hn => he ?_) hv
    rw [hn]
    trivial

theorem attemptCall_refines (name : String) (params : List Expr) :
    Refines scope (attemptCall scope allowance name params).result (.call name params) := by
  unfold attemptCall
  split
  · exact .refl _
  · split
    · exact attempt_refines id _
    · exact .refl _

/-- The branch that a literal truth value chooses may stand for the conditional. -/
theorem branch_refines {op : Operator} {b : Bool} {thenBranch elseBranch branch : Expr}
    (hb : (if b then thenBranch else elseBranch) = branch) :
    Refines scope branch (ternary op (literal (.boolean b)) thenBranch elseBranch) where
  ofVariable := nofun
  value a a' hab := by
    intro v hv
    obtain ⟨inner, ha⟩ := descend_of_value hv
    cases op with
    | conditional =>
      rw [eval_conditional, Allowance.within_of_descend ha] at hv ⊢
      obtain ⟨holds, hholds, hbranch⟩ := Traced.exists_of_bind_ok hv
      obtain ⟨x, hx, hreq⟩ := Traced.exists_of_bind_ok hholds
      -- the condition is a literal, so its value is the literal's
      cases eval_unbounded hx
      cases hreq
      have hpick : (if b = true then eval scope inner thenBranch else eval scope inner elseBranch) =
          eval scope inner branch := by
        rw [← hb]
        cases b <;> rfl
      rw [hpick] at hbranch
      have hinner := (Allowance.atMost_of_descend ha).trans hab
      obtain ⟨hr, hs⟩ := (Refines.refl branch).value inner a' hinner v hbranch
      rw [Traced.bind_of_ok hholds, hpick]
      exact ⟨hr, hs.trans (List.sublist_append_right _ _)⟩
    | _ =>
      rw [eval, ha] at hv
      cases hv

theorem chooseBranch_refines (op : Operator) (condition thenBranch elseBranch : Expr) :
    Refines scope (chooseBranch op condition thenBranch elseBranch).result
      (ternary op condition thenBranch elseBranch) := by
  unfold chooseBranch
  split
  · exact branch_refines rfl
  · exact branch_refines rfl
  · exact .refl _

mutual

/-- **Folding refines an expression.** -/
theorem fold_refines : (e : Expr) → Refines scope (fold scope allowance e).result e
  | literal _ | .variable _ => by rw [fold]; exact .refl _
  | .unary op operand => by
    rw [fold_unary]
    exact (attempt_refines id _).trans ((fold_refines operand).unary op)
  | .binary op left right => by
    rw [fold_binary]
    exact (attempt_refines id _).trans ((fold_refines left).binary (fold_refines right) op)
  | .ternary op condition thenBranch elseBranch => by
    rw [fold_ternary]
    exact (chooseBranch_refines _ _ _ _).trans
      ((fold_refines condition).ternary (fold_refines thenBranch) (fold_refines elseBranch) op)
  | .array elements => by
    rw [fold_array]
    exact (attempt_refines id _).trans (.array (foldAll_refines elements))
  | .call name params => by
    rw [fold_call]
    exact (attemptCall_refines _ _).trans (.call (foldAll_refines params) name)

theorem foldAll_refines :
    (es : List Expr) → RefinesAll scope (foldAll scope allowance es).result es
  | [] => by rw [foldAll]; exact .nil
  | e :: rest => by
    rw [foldAll_cons]
    exact .cons (fold_refines e) (foldAll_refines rest)

end

/-! ## Both in turn -/

theorem settle_refines (hs : scope.StandardConditional) (allowance : Allowance) (e : Expr) :
    Refines scope (settle scope allowance e).1 e := by
  fun_induction settle scope allowance e with
  | case1 e pass events h result more hrec ih =>
    have hsettled : Refines scope result pass.result.lazy := by
      rw [hrec] at ih
      exact ih
    exact hsettled.trans ((lazy_refines hs _).trans (fold_refines e))
  | case2 e pass events h =>
    exact (lazy_refines hs _).trans (fold_refines e)

/-- **Optimizing refines an expression.** -/
theorem optimize_refines (hs : scope.StandardConditional) (allowance : Allowance) (e : Expr) :
    Refines scope (optimize scope allowance e).1 e :=
  (settle_refines hs allowance e.lazy).trans (lazy_refines hs e)

/-- **Optimizing keeps values.** Where an expression has a value, it has the same one with conditionals
made, and with constants folded besides until nothing changes; the functions called on the way are some
of those called before, in the same order and with the same parameters. -/
theorem optimize_preserves_value (hs : scope.StandardConditional) (allowance : Allowance)
    {a : Allowance} {e : Expr} {v : Value} (hv : (eval scope a e).result = .ok v) :
    (eval scope a e.lazy).result = .ok v ∧
      (eval scope a (optimize scope allowance e).1).result = .ok v ∧
      (eval scope a e.lazy).calls.Sublist (eval scope a e).calls ∧
      (eval scope a (optimize scope allowance e).1).calls.Sublist (eval scope a e).calls := by
  have hlazy := (lazy_refines hs e).value a a (.refl a)
  have hopt := (optimize_refines hs allowance e).value a a (.refl a)
  exact ⟨(hlazy v hv).1, (hopt v hv).1, hlazy.calls_sublist hv, hopt.calls_sublist hv⟩

/-- `if_then` as in the library, and a function `note` that returns its first parameter. -/
def choosing : Scope :=
  Scope.empty.addFunctions [
    .bare "if_then" (.withOptional 2 1) true (Library.binaryOptional Library.ifThen),
    .bare "note" .any true fun params => .ok (params.headD (.string ""))]

theorem choosing_standard : choosing.StandardConditional := by
  intro f hf
  cases hf
  exact ⟨rfl, rfl⟩

/-- `IF_THEN(missing = '', note('a'), note('b'))`: an unknown variable under an equality decides. -/
def choice : Expr :=
  call "IF_THEN" [binary .equal (.variable "missing") (literal (.string "")),
    call "note" [literal (.string "a")], call "note" [literal (.string "b")]]

/-- The call evaluates both notes, the conditional one of them. -/
theorem optimize_preserves_value_choice :
    choosing.StandardConditional ∧
      (eval choosing none choice).result = .ok (.string "a") ∧
      (eval choosing none choice.lazy).result = .ok (.string "a") ∧
      (eval choosing none (optimize choosing none choice).1).result = .ok (.string "a") ∧
      (eval choosing none choice.lazy).calls.Sublist (eval choosing none choice).calls := by
  have hv : (eval choosing none choice).result = .ok (.string "a") := rfl
  obtain ⟨hlazy, hopt, hcalls, _⟩ := optimize_preserves_value choosing_standard none hv
  exact ⟨choosing_standard, hv, hlazy, hopt, hcalls⟩

/-- The value is needed for the calls to be among those of the expression: a call that fails at its second
parameter does not get to a function that the conditional in its place calls. -/
example :
    let failing := call "if_then" [literal (.boolean false), .variable "missing",
      call "note" [literal (.string "b")]]
    (eval choosing none failing).calls = [] ∧
      (eval choosing none failing.lazy).calls = [("note", [.string "b"])] :=
  ⟨rfl, rfl⟩

end Expr

end Reckon
