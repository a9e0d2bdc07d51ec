import Mathlib.Data.List.Forall2
import Reckon.Eval.Basic

/-!
# `Proofs.Eval.Refinement` — expressions that may stand for one another

Optimizing may skip work, so an optimized expression is compared with its original in one direction:
where the original has a value, the optimized one has the same value, and nothing happens on the way
that did not happen before (`Traced.Refines`, `Expr.Refines`). Every node hands this relation on from
its parts (`Refines.unary` up to `Refines.call`), so a rewriting has to be looked at only where it
rewrites.

The relation grants the optimized expression at least as many levels of nesting. `Refines.refl` is thus
a fact of its own: with more levels granted, an evaluation that had a value still has it.
-/

namespace Reckon

/-! ## Outcomes with traces -/

namespace Traced

variable {α β : Type}

/-- What comes after a value. -/
theorem bind_of_ok {t : Traced α} {a : α} (h : t.result = .ok a) (next : α → Traced β) :
    t.bind next = ⟨t.trace ++ (next a).trace, (next a).result⟩ := by
  unfold Traced.bind
  rw [h]

/-- A sequence has a value only if its first part has one. -/
theorem exists_of_bind_ok {t : Traced α} {next : α → Traced β} {b : β}
    (h : (t.bind next).result = .ok b) : ∃ a, t.result = .ok a ∧ (next a).result = .ok b := by
  cases ht : t.result with
  | error e =>
    unfold Traced.bind at h
    rw [ht] at h
    cases h
  | ok a =>
    rw [bind_of_ok ht] at h
    exact ⟨a, rfl, h⟩

theorem exists_of_map_ok {t : Traced α} {f : α → β} {b : β}
    (h : (t.map f).result = .ok b) : ∃ a, t.result = .ok a ∧ f a = b := by
  obtain ⟨a, ha, hb⟩ := exists_of_bind_ok h
  exact ⟨a, ha, Except.ok.inj hb⟩

/-- Where `t` has a value `t'` has the same one, and its trace leaves out at most some events. -/
def Refines (t' t : Traced α) : Prop :=
  ∀ a, t.result = .ok a → t'.result = .ok a ∧ t'.trace.Sublist t.trace

theorem Refines.refl (t : Traced α) : t.Refines t :=
  fun _ h => ⟨h, List.Sublist.refl _⟩

theorem Refines.trans {t'' t' t : Traced α} (h' : t''.Refines t') (h : t'.Refines t) :
    t''.Refines t := by
  intro a ha
  obtain ⟨ha', hs⟩ := h a ha
  obtain ⟨ha'', hs'⟩ := h' a ha'
  exact ⟨ha'', hs'.trans hs⟩

theorem refines_fail (t' : Traced α) (e : EvalError) : t'.Refines (fail e) := by
  intro a ha
  cases ha

theorem Refines.bind {t' t : Traced α} {next' next : α → Traced β} (h : t'.Refines t)
    (hn : ∀ a, (next' a).Refines (next a)) : (t'.bind next').Refines (t.bind next) := by
  intro b hb
  obtain ⟨a, ha, hab⟩ := exists_of_bind_ok hb
  obtain ⟨ha', hs⟩ := h a ha
  obtain ⟨hab', hs'⟩ := hn a b hab
  rw [bind_of_ok ha, bind_of_ok ha']
  exact ⟨hab', hs.append hs'⟩

theorem Refines.map {t' t : Traced α} (f : α → β) (h : t'.Refines t) :
    (t'.map f).Refines (t.map f) :=
  h.bind fun _ => .refl _

end Traced

/-! ## Levels of nesting -/

namespace Allowance

/-- `b` grants every level that `a` grants. -/
def AtMost : Allowance → Allowance → Prop
  | _, none => True
  | none, some _ => False
  | some m, some n => m ≤ n

theorem AtMost.refl (a : Allowance) : a.AtMost a := by
  cases a with
  | none => trivial
  | some n => exact Nat.le_refl n

theorem AtMost.trans {a b c : Allowance} (h : a.AtMost b) (h' : b.AtMost c) : a.AtMost c := by
  match a, b, c with
  | _, _, none => exact trivial
  | _, none, some _ => cases h'
  | none, some _, some _ => cases h
  | some _, some _, some _ => exact Nat.le_trans h h'

theorem atMost_none (a : Allowance) : a.AtMost none := by
  cases a <;> trivial

/-- Further down no more levels are left than above. -/
theorem atMost_of_descend {a inner : Allowance} (h : a.descend = some inner) : inner.AtMost a := by
  match a with
  | none => exact atMost_none _
  | some 0 => cases h
  | some (n + 1) => cases h; exact Nat.le_succ n

/-- What is granted one level down grows with what is granted above. -/
theorem descend_of_atMost {a b inner : Allowance} (hab : a.AtMost b) (h : a.descend = some inner) :
    ∃ inner', b.descend = some inner' ∧ inner.AtMost inner' := by
  match a, b with
  | _, none => exact ⟨none, rfl, atMost_none _⟩
  | none, some _ => cases hab
  | some 0, some _ => cases h
  | some (m + 1), some 0 => cases hab
  | some (m + 1), some (n + 1) =>
    cases h
    exact ⟨some n, rfl, Nat.le_of_succ_le_succ hab⟩

end Allowance

/-- An evaluation one level down, which fails when that level is not granted. -/
def Allowance.within {α : Type} (a : Allowance) (body : Allowance → Traced α) : Traced α :=
  match a.descend with
  | none => .fail .nestedTooDeeply
  | some inner => body inner

theorem Allowance.within_of_descend {α : Type} {a inner : Allowance} (h : a.descend = some inner)
    (body : Allowance → Traced α) : a.within body = body inner := by
  unfold Allowance.within
  rw [h]

theorem Traced.refines_within {α : Type} {a b : Allowance} {body' body : Allowance → Traced α}
    (hab : a.AtMost b)
    (h : ∀ inner inner', inner.AtMost inner' → (body' inner').Refines (body inner)) :
    (b.within body').Refines (a.within body) := by
  unfold Allowance.within
  cases ha : a.descend with
  | none => exact refines_fail _ _
  | some inner =>
    obtain ⟨inner', hb, hi⟩ := Allowance.descend_of_atMost hab ha
    rw [hb]
    exact h inner inner' hi

theorem Traced.refines_within_same {α : Type} (a : Allowance) {body' body : Allowance → Traced α}
    (h : ∀ inner, (body' inner).Refines (body inner)) : (a.within body').Refines (a.within body) := by
  unfold Allowance.within
  cases a.descend with
  | none => exact refines_fail _ _
  | some inner => exact h inner

namespace Expr

variable {scope : Scope}

/-! ## Expressions -/

/-- Where `e` has a value `e'` has the same one, with the same levels of nesting or more, and calls no
function that `e` does not call. An unknown variable has no value but is no failure for an equality,
so a variable is kept as it is. -/
structure Refines (scope : Scope) (e' e : Expr) : Prop where
  ofVariable : ∀ name, e = .variable name → e' = .variable name
  value : ∀ a b, a.AtMost b → (eval scope b e').Refines (eval scope a e)

/-- Expressions that stand for others, one by one. -/
abbrev RefinesAll (scope : Scope) : List Expr → List Expr → Prop :=
  List.Forall₂ (Refines scope)

theorem Refines.trans {e'' e' e : Expr} (h' : Refines scope e'' e') (h : Refines scope e' e) :
    Refines scope e'' e where
  ofVariable name he := h'.ofVariable name (h.ofVariable name he)
  value a b hab := (h'.value b b (.refl b)).trans (h.value a b hab)

theorem evalAll_refines {es' es : List Expr} (h : RefinesAll scope es' es) {a b : Allowance}
    (hab : a.AtMost b) : (evalAll scope b es').Refines (evalAll scope a es) := by
  induction h with
  | nil => exact .refl _
  | cons he _ ih =>
    rw [evalAll, evalAll]
    exact (he.value a b hab).bind fun v => ih.map _

/-! ### One node at a time -/

theorem eval_literal (a : Allowance) (value : Value) :
    eval scope a (literal value) = a.within fun _ => .done value := by
  rw [eval]
  rfl

theorem eval_variable (a : Allowance) (name : String) :
    eval scope a (.variable name) =
      a.within fun _ =>
        match scope.value? name with
        | some value => .done value
        | none => .fail (.undefinedVariable name) := by
  rw [eval]
  rfl

theorem eval_unary (a : Allowance) (op : Operator) (operand : Expr) :
    eval scope a (unary op operand) =
      a.within fun inner => (eval scope inner operand).bind (applyUnary op) := by
  rw [eval]
  rfl

theorem eval_call (a : Allowance) (name : String) (params : List Expr) :
    eval scope a (call name params) =
      a.within fun inner =>
        match scope.callable? name with
        | none => .fail (.unknownFunction name)
        | some f =>
          if f.arity.accepts params.length then
            (evalAll scope inner params).bind (invoke f name)
          else .fail (.wrongCount name f.arity params.length) := by
  rw [eval]
  rfl

theorem eval_array (a : Allowance) (elements : List Expr) :
    eval scope a (array elements) =
      a.within fun inner => (evalAll scope inner elements).map .array := by
  rw [eval]
  rfl

theorem eval_conditional (a : Allowance) (condition thenBranch elseBranch : Expr) :
    eval scope a (ternary .conditional condition thenBranch elseBranch) =
      a.within fun inner =>
        ((eval scope inner condition).bind (requireTruth .conditional)).bind fun holds =>
          if holds then eval scope inner thenBranch else eval scope inner elseBranch := by
  rw [eval]
  rfl

/-- Only an expression whose own level is granted has a value. -/
theorem descend_of_value {e : Expr} {a : Allowance} {v : Value}
    (h : (eval scope a e).result = .ok v) : ∃ inner, a.descend = some inner := by
  cases ha : a.descend with
  | none => rw [eval_of_descend_eq_none ha] at h; cases h
  | some inner => exact ⟨inner, rfl⟩

/-- An operand that has a value has it as a direct operand of an equality too. -/
theorem tolerant_refines (e : Expr) (a : Allowance) :
    (tolerant scope e (eval scope a e)).Refines ((eval scope a e).map some) := by
  cases e with
  | «variable» name =>
    -- where the variable has no value there is nothing to show, where it has one both give it
    rw [tolerant, eval_variable, Allowance.within]
    cases a.descend with
    | none => exact Traced.refines_fail _ _
    | some inner =>
      cases scope.value? name with
      | none => exact Traced.refines_fail _ _
      | some v => exact .refl _
  | _ => exact .refl _

/-- A direct operand of an equality: also where it is an unknown variable. -/
theorem Refines.tolerant {e' e : Expr} (h : Refines scope e' e) {a b : Allowance}
    (hab : a.AtMost b) :
    (tolerant scope e' (eval scope b e')).Refines (tolerant scope e (eval scope a e)) := by
  have hv := (tolerant_refines e' b).trans ((h.value a b hab).map some)
  cases e with
  | «variable» name => rw [h.ofVariable name rfl]; exact .refl _
  | _ => exact hv

/-! ### Nodes hand the relation on -/

theorem Refines.unary {e' e : Expr} (h : Refines scope e' e) (op : Operator) :
    Refines scope (.unary op e') (.unary op e) where
  ofVariable := nofun
  value a b hab := by
    rw [eval_unary, eval_unary]
    exact Traced.refines_within hab fun inner inner' hi =>
      (h.value inner inner' hi).bind fun v => .refl _

theorem Refines.binary {l' l r' r : Expr} (hl : Refines scope l' l) (hr : Refines scope r' r)
    (op : Operator) : Refines scope (.binary op l' r') (.binary op l r) where
  ofVariable := nofun
  value a b hab := by
    rw [eval, eval]
    refine Traced.refines_within hab ?_
    intro inner inner' hi
    have hl' := hl.value inner inner' hi
    have hr' := hr.value inner inner' hi
    cases op with
    | and =>
      refine (hl'.bind fun v => .refl _).bind ?_
      intro holds
      cases holds with
      | true => exact (hr'.bind fun v => .refl _).map _
      | false => exact .refl _
    | or =>
      refine (hl'.bind fun v => .refl _).bind ?_
      intro holds
      cases holds with
      | true => exact .refl _
      | false => exact (hr'.bind fun v => .refl _).map _
    | equal | notEqual =>
      -- an unknown variable is no failure here, so the operands are compared as such
      exact (hl.tolerant hi).bind fun x => (hr.tolerant hi).map _
    | _ => exact hl'.bind fun v => hr'.bind fun w => .refl _

theorem Refines.ternary {c' c t' t f' f : Expr} (hc : Refines scope c' c)
    (ht : Refines scope t' t) (hf : Refines scope f' f) (op : Operator) :
    Refines scope (.ternary op c' t' f') (.ternary op c t f) where
  ofVariable := nofun
  value a b hab := by
    rw [eval, eval]
    refine Traced.refines_within hab ?_
    intro inner inner' hi
    cases op with
    | conditional =>
      refine ((hc.value inner inner' hi).bind fun v => .refl _).bind ?_
      intro holds
      cases holds with
      | true => exact ht.value inner inner' hi
      | false => exact hf.value inner inner' hi
    | _ => exact .refl _

theorem Refines.array {es' es : List Expr} (h : RefinesAll scope es' es) :
    Refines scope (.array es') (.array es) where
  ofVariable := nofun
  value a b hab := by
    rw [eval_array, eval_array]
    exact Traced.refines_within hab fun inner inner' hi => (evalAll_refines h hi).map _

theorem Refines.call {es' es : List Expr} (h : RefinesAll scope es' es) (name : String) :
    Refines scope (.call name es') (.call name es) where
  ofVariable := nofun
  value a b hab := by
    rw [eval_call, eval_call, h.length_eq]
    refine Traced.refines_within hab ?_
    intro inner inner' hi
    cases scope.callable? name with
    | none => exact .refl _
    | some f =>
      by_cases ha : f.arity.accepts es.length = true
      · show Traced.Refines (ite _ _ _) (ite _ _ _)
        rw [if_pos ha, if_pos ha]
        exact (evalAll_refines h hi).bind fun vs => .refl _
      · show Traced.Refines (ite _ _ _) (ite _ _ _)
        rw [if_neg ha, if_neg ha]
        exact .refl _

theorem Refines.literal (v : Value) : Refines scope (.literal v) (.literal v) where
  ofVariable := nofun
  value a b hab := by
    rw [eval_literal, eval_literal]
    exact Traced.refines_within hab fun _ _ _ => .refl _

theorem Refines.variable (name : String) : Refines scope (.variable name) (.variable name) where
  ofVariable _ h := h
  value a b hab := by
    rw [eval_variable, eval_variable]
    exact Traced.refines_within hab fun _ _ _ => .refl _

mutual

/-- With more levels of nesting granted, an evaluation that had a value still has it. -/
theorem Refines.refl : (e : Expr) → Refines scope e e
  | .literal v => .literal v
  | .variable name => .variable name
  | .unary op operand => (Refines.refl operand).unary op
  | .binary op left right => (Refines.refl left).binary (Refines.refl right) op
  | .ternary op condition thenBranch elseBranch =>
    (Refines.refl condition).ternary (Refines.refl thenBranch) (Refines.refl elseBranch) op
  | .array elements => .array (Refines.reflAll elements)
  | .call name params => .call (Refines.reflAll params) name

theorem Refines.reflAll : (es : List Expr) → RefinesAll scope es es
  | [] => .nil
  | e :: rest => .cons (Refines.refl e) (Refines.reflAll rest)

end

/-- A value found with some levels of nesting granted is the value without a bound. -/
theorem eval_unbounded {e : Expr} {a : Allowance} {v : Value}
    (h : (eval scope a e).result = .ok v) : (eval scope none e).result = .ok v :=
  ((Refines.refl e).value a none (Allowance.atMost_none a) v h).1

end Expr

end Reckon
