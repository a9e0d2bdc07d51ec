import Reckon.Check
import Reckon.Proofs.Eval.Following

/-!
# `Proofs.Check.TruthValues` — whether an expression can give a truth value

`givesBoolean` looks at the outermost operation only. It is right because no operation gives a truth value at
one time and something else at another: what kind of value comes of it is in the operator alone, whatever the
operands are (`kind_of_operation`). Of variables and calls that cannot be said, so they pass.

A conditional gives what its chosen branch gives. `resultNodes` are the places that a value can come from, and
`Delivers` says which of them it does come from. All is shown for functions that may do something else each
time they are called.

Main statement: `givesBoolean_tells`.
-/

namespace Reckon

/-! ## What operations give -/

namespace Value

variable {a b v : Value}

theorem kind_add (h : a.add b = .ok v) : v.kind ≠ .boolean := by
  unfold add at h
  split at h <;> cases h <;> nofun

theorem kind_onNumbers {verb : Verb} {operation : Float → Float → Float}
    (h : onNumbers verb operation a b = .ok v) : v.kind = .number := by
  unfold onNumbers at h
  split at h <;> cases h
  rfl

theorem kind_exclusiveOr (h : a.exclusiveOr b = .ok v) : v.kind = .boolean := by
  unfold exclusiveOr at h
  split at h <;> cases h
  rfl

theorem kind_negate (h : a.negate = .ok v) : v.kind = .number := by
  unfold negate at h
  split at h <;> cases h
  rfl

theorem kind_complement (h : a.complement = .ok v) : v.kind = .boolean := by
  unfold complement at h
  split at h <;> cases h
  rfl

end Value

theorem ok_of_ofOperation {α : Type} {r : Except Mismatch α} {x : α}
    (h : (Traced.ofOperation r).result = .ok x) : r = .ok x := by
  cases r with
  | error cause => cases h
  | ok y => exact congrArg Except.ok (Except.ok.inj h)

/-- Of the prefix operators, `not` gives truth values and no other does. -/
theorem kind_applyUnary {op : Operator} {u v : Value} (h : (applyUnary op u).result = .ok v) :
    v.kind = .boolean ↔ op = .not := by
  cases op with
  | not => exact ⟨fun _ => rfl, fun _ => Value.kind_complement (ok_of_ofOperation h)⟩
  | minus =>
    have hkind := Value.kind_negate (ok_of_ofOperation h)
    rw [hkind]
    exact ⟨nofun, nofun⟩
  | _ => cases h

/-- An operator that evaluates both its operands gives truth values only, or none at all. -/
theorem kind_applyBinary {op : Operator} {u w v : Value} (h : (applyBinary op u w).result = .ok v) :
    v.kind = .boolean ↔ Expr.yieldsBoolean op = true := by
  cases op with
  | plus => exact ⟨fun hb => absurd hb (Value.kind_add (ok_of_ofOperation h)), nofun⟩
  | minus | times | divide | div | mod =>
    rw [Value.kind_onNumbers (ok_of_ofOperation h)]
    exact ⟨nofun, nofun⟩
  | xor => exact ⟨fun _ => rfl, fun _ => Value.kind_exclusiveOr (ok_of_ofOperation h)⟩
  | greater | greaterEqual | less | lessEqual =>
    cases h
    exact ⟨fun _ => rfl, fun _ => rfl⟩
  | _ => cases h

namespace Expr

variable {scope : Scope} {host : Host} {a : Allowance} {past : List (Callable × List Value)} {e node : Expr}
  {v : Value}

/-- The expression is a variable or a call. -/
def isReference : Expr → Bool
  | .variable _ | call _ _ => true
  | _ => false

/-- The expression is a conditional. -/
def isConditional : Expr → Bool
  | ternary .. => true
  | _ => false

/-- An operator that reads its operands in a way of its own gives truth values. -/
theorem yieldsBoolean_of_reading {op : Operator} (h : op.reading ≠ .strict) : yieldsBoolean op = true := by
  cases op with
  | and | or | equal | notEqual => rfl
  | _ => exact absurd rfl h

theorem kind_of_binary {op : Operator} {left right : Expr}
    (h : ((follow scope host a (binary op left right)).after past).result = .ok v) :
    v.kind = .boolean ↔ yieldsBoolean op = true := by
  rw [follow_binary, Following.within_ok_iff] at h
  obtain ⟨inner, -, h⟩ := h
  cases hop : op.reading with
  | short decider =>
    rw [hop] at h
    have hyields : yieldsBoolean op = true := yieldsBoolean_of_reading (by rw [hop]; nofun)
    obtain ⟨holds, -, h⟩ := Following.bind_ok_iff.mp h
    refine ⟨fun _ => hyields, fun _ => ?_⟩
    -- the left operand decides and is the value, or the right one is
    split at h
    · cases h
      rfl
    · obtain ⟨b, -, rfl⟩ := Following.map_ok_iff.mp h
      rfl
  | tolerant =>
    rw [hop] at h
    have hyields : yieldsBoolean op = true := yieldsBoolean_of_reading (by rw [hop]; nofun)
    obtain ⟨x, -, h⟩ := Following.bind_ok_iff.mp h
    obtain ⟨y, -, rfl⟩ := Following.map_ok_iff.mp h
    exact ⟨fun _ => hyields, fun _ => rfl⟩
  | strict =>
    rw [hop] at h
    obtain ⟨x, -, h⟩ := Following.bind_ok_iff.mp h
    obtain ⟨y, -, h⟩ := Following.bind_ok_iff.mp h
    exact kind_applyBinary h

/-- **The kind of value is in the operation.** -/
theorem kind_of_operation (hreference : e.isReference = false) (hconditional : e.isConditional = false)
    (h : ((follow scope host a e).after past).result = .ok v) :
    v.kind = .boolean ↔ e.givesBoolean = true := by
  cases e with
  | literal value =>
    rw [follow_literal, Following.within_ok_iff] at h
    obtain ⟨inner, -, h⟩ := h
    obtain rfl := Except.ok.inj h
    cases value with
    | boolean b => exact ⟨fun _ => rfl, fun _ => rfl⟩
    | _ => exact ⟨nofun, nofun⟩
  | «variable» name => cases hreference
  | call name params => cases hreference
  | ternary op condition thenBranch elseBranch => cases hconditional
  | unary op operand =>
    rw [follow_unary, Following.within_ok_iff] at h
    obtain ⟨inner, -, h⟩ := h
    obtain ⟨u, -, h⟩ := Following.bind_ok_iff.mp h
    rw [kind_applyUnary h, givesBoolean, beq_iff_eq]
  | array elements =>
    rw [follow_array, Following.within_ok_iff] at h
    obtain ⟨inner, -, h⟩ := h
    obtain ⟨items, -, rfl⟩ := Following.map_ok_iff.mp h
    exact ⟨nofun, nofun⟩
  | binary op left right => exact kind_of_binary h

/-- The expression has a truth value in no scope, on no host and at no time. -/
def NeverBoolean (e : Expr) : Prop :=
  ∀ (scope : Scope) (host : Host) (a : Allowance) (past : List (Callable × List Value)) (v : Value),
    ((follow scope host a e).after past).result = .ok v → v.kind ≠ .boolean

/-- References pass for truth values, so what does not pass and is no conditional is an operation. -/
theorem neverBoolean (hconditional : e.isConditional = false) (h : e.givesBoolean = false) :
    e.NeverBoolean := by
  intro scope host a past v hv hkind
  have hreference : e.isReference = false := by
    cases e with
    | «variable» name => cases h
    | call name params => cases h
    | _ => rfl
  rw [(kind_of_operation hreference hconditional hv).mp hkind] at h
  cases h

/-! ## Where a value comes from -/

/-- The places that the value of an expression can come from: those of both branches of a conditional; any
other expression is its only one. -/
def resultNodes : Expr → List Expr
  | ternary _ _ thenBranch elseBranch => thenBranch.resultNodes ++ elseBranch.resultNodes
  | e => [e]

theorem resultNodes_of_not_conditional (h : e.isConditional = false) : e.resultNodes = [e] := by
  cases e with
  | ternary op condition thenBranch elseBranch => cases h
  | _ => rfl

theorem not_conditional_of_mem_resultNodes {e : Expr} :
    node ∈ e.resultNodes → node.isConditional = false := by
  intro h
  match e with
  | ternary op condition thenBranch elseBranch =>
    rcases List.mem_append.mp h with h | h
    · exact not_conditional_of_mem_resultNodes h
    · exact not_conditional_of_mem_resultNodes h
  | literal _ | .variable _ | call _ _ | unary _ _ | binary _ _ _ | array _ =>
    obtain rfl := List.mem_singleton.mp h
    rfl

/-- An expression passes exactly if all its places do. -/
theorem givesBoolean_iff : (e : Expr) →
    (e.givesBoolean = true ↔ ∀ node ∈ e.resultNodes, node.givesBoolean = true)
  | ternary op condition thenBranch elseBranch => by
    rw [givesBoolean, Bool.and_eq_true, givesBoolean_iff thenBranch, givesBoolean_iff elseBranch,
      resultNodes, List.forall_mem_append]
  | literal _ | .variable _ | call _ _ | unary _ _ | binary _ _ _ | array _ => by
    rw [resultNodes_of_not_conditional rfl, List.forall_mem_singleton]

/-- If the expression does not pass, one of its places does not. -/
theorem exists_denied (h : e.givesBoolean = false) :
    ∃ node ∈ e.resultNodes, node.givesBoolean = false := by
  by_contra hnone
  have hall : ∀ node ∈ e.resultNodes, node.givesBoolean = true := by
    intro node hmem
    by_contra hdenied
    exact hnone ⟨node, hmem, Bool.eq_false_iff.mpr hdenied⟩
  rw [(givesBoolean_iff e).mpr hall] at h
  cases h

/-- The evaluation that starts after `past` has the value `v`, and this is the value of the place `node`: it
gets there through the branches that the conditions on the way choose. -/
inductive Delivers (scope : Scope) (host : Host) (node : Expr) (v : Value) :
    Allowance → List (Callable × List Value) → Expr → Prop where
  | itself {a : Allowance} {past : List (Callable × List Value)} (hconditional : node.isConditional = false)
      (hvalue : ((follow scope host a node).after past).result = .ok v) :
      Delivers scope host node v a past node
  | branch {a inner : Allowance} {past : List (Callable × List Value)} {holds : Bool}
      {condition thenBranch elseBranch : Expr} (hinner : a.descend = some inner)
      (hholds : ((follow scope host inner condition).after past).result = .ok (.boolean holds))
      (h : Delivers scope host node v inner
        (past ++ ((follow scope host inner condition).after past).calls.map Invocation.step)
        (if holds then thenBranch else elseBranch)) :
      Delivers scope host node v a past (ternary .conditional condition thenBranch elseBranch)

theorem truth_ok_iff {op : Operator} {u : Value} {holds : Bool} :
    (requireTruth op u).result = .ok holds ↔ u = .boolean holds := by
  cases u with
  | boolean b =>
    show Except.ok b = Except.ok holds ↔ _
    rw [Except.ok.injEq, Value.boolean.injEq]
  | _ =>
    constructor
    · intro h
      cases h
    · intro h
      cases h

/-- A conditional has the value of the branch that its condition chooses. -/
theorem follow_conditional_ok_iff {condition thenBranch elseBranch : Expr} :
    ((follow scope host a (ternary .conditional condition thenBranch elseBranch)).after past).result = .ok v ↔
      ∃ inner holds, a.descend = some inner ∧
        ((follow scope host inner condition).after past).result = .ok (.boolean holds) ∧
        ((follow scope host inner (if holds then thenBranch else elseBranch)).after
          (past ++ ((follow scope host inner condition).after past).calls.map Invocation.step)).result =
            .ok v := by
  rw [follow_conditional, Following.within_ok_iff]
  refine exists_congr fun inner => ?_
  rw [Following.bind_ok_iff]
  constructor
  · rintro ⟨ha, holds, hholds, h⟩
    obtain ⟨u, hu, htruth⟩ := Following.bind_ok_iff.mp hholds
    obtain rfl := truth_ok_iff.mp htruth
    rw [Following.calls_bind_still, Following.steps_under] at h
    refine ⟨holds, ha, hu, ?_⟩
    cases holds with
    | true => exact h
    | false => exact h
  · rintro ⟨holds, ha, hu, h⟩
    refine ⟨ha, holds, Following.bind_ok_iff.mpr ⟨_, hu, rfl⟩, ?_⟩
    rw [Following.calls_bind_still, Following.steps_under]
    cases holds with
    | true => exact h
    | false => exact h

theorem Delivers.value (h : Delivers scope host node v a past e) :
    ((follow scope host a e).after past).result = .ok v := by
  induction h with
  | itself _ hvalue => exact hvalue
  | branch hinner hholds _ ih => exact follow_conditional_ok_iff.mpr ⟨_, _, hinner, hholds, ih⟩

/-- What delivers a value has it, and is one of the places. -/
theorem Delivers.node_value (h : Delivers scope host node v a past e) :
    node ∈ e.resultNodes ∧ ∃ b later, ((follow scope host b node).after later).result = .ok v := by
  induction h with
  | itself hconditional hvalue =>
    rw [resultNodes_of_not_conditional hconditional]
    exact ⟨List.mem_singleton_self _, _, _, hvalue⟩
  | @branch a inner past holds condition thenBranch elseBranch _ _ _ ih =>
    refine ⟨?_, ih.2⟩
    rw [resultNodes, List.mem_append]
    cases holds with
    | true => exact Or.inl ih.1
    | false => exact Or.inr ih.1

/-- Every value is delivered by one of the places. -/
theorem exists_delivers : (e : Expr) → ∀ {a : Allowance} {past : List (Callable × List Value)},
    ((follow scope host a e).after past).result = .ok v → ∃ node, Delivers scope host node v a past e
  | ternary op condition thenBranch elseBranch, a, past, h => by
    cases op with
    | conditional =>
      obtain ⟨inner, holds, ha, hholds, h⟩ := follow_conditional_ok_iff.mp h
      cases holds with
      | true =>
        obtain ⟨node, hnode⟩ := exists_delivers thenBranch h
        exact ⟨node, .branch ha hholds hnode⟩
      | false =>
        obtain ⟨node, hnode⟩ := exists_delivers elseBranch h
        exact ⟨node, .branch ha hholds hnode⟩
    | _ =>
      rw [follow] at h
      obtain ⟨inner, -, h⟩ := Following.within_ok_iff.mp h
      cases h
  | literal _, _, _, h | .variable _, _, _, h | call _ _, _, _, h | unary _ _, _, _, h
  | binary _ _ _, _, _, h | array _, _, _, h => ⟨_, .itself rfl h⟩

/-- **Main theorem.** A value of an expression comes from one of its places, and from where the conditions
choose. If `givesBoolean` denies, one of the places never has a truth value, in no scope and whatever the
functions do; so an expression that is no conditional never has one. If it agrees, every value that is none
comes from a variable or a call. Evaluation is the case of functions that stand by their bodies. -/
theorem givesBoolean_tells (e : Expr) :
    (∀ scope host a past v, ((follow scope host a e).after past).result = .ok v ↔
        ∃ node ∈ e.resultNodes, Delivers scope host node v a past e) ∧
      (e.givesBoolean = false → ∃ node ∈ e.resultNodes, node.NeverBoolean) ∧
      (e.givesBoolean = false → e.isConditional = false → e.NeverBoolean) ∧
      (e.givesBoolean = true → ∀ scope host a past node v, Delivers scope host node v a past e →
        v.kind ≠ .boolean → node.isReference = true) ∧
      ∀ scope a past, ((follow scope .standing a e).after past).traced = eval scope a e := by
  refine ⟨?_, ?_, ?_, ?_, ?_⟩
  · intro scope host a past v
    constructor
    · intro h
      obtain ⟨node, hnode⟩ := exists_delivers e h
      exact ⟨node, hnode.node_value.1, hnode⟩
    · rintro ⟨node, -, hnode⟩
      exact hnode.value
  · intro h
    obtain ⟨node, hmem, hdenied⟩ := exists_denied h
    exact ⟨node, hmem, neverBoolean (not_conditional_of_mem_resultNodes hmem) hdenied⟩
  · intro h hconditional
    exact neverBoolean hconditional h
  · intro h scope host a past node v hnode hkind
    obtain ⟨hmem, b, later, hvalue⟩ := hnode.node_value
    have hgives : node.givesBoolean = true := (givesBoolean_iff e).mp h node hmem
    cases hreference : node.isReference with
    | true => rfl
    | false =>
      have hconditional := not_conditional_of_mem_resultNodes hmem
      exact absurd ((kind_of_operation hreference hconditional hvalue).mpr hgives) hkind
  · intro scope a past
    exact follow_standing e a past

/-- `if_then(true, x, y)` as a conditional. -/
def ifTrue (x y : Expr) : Expr :=
  ternary .conditional (literal (.boolean true)) x y

/-- With a variable in the branch that is chosen, the value need not be a truth value although both branches
pass. With a number in the branch that is not chosen, the expression does not pass although it has a truth
value. -/
theorem givesBoolean_tells_ifTrue :
    let passing := ifTrue (.variable "x") (literal (.boolean false))
    let denied := ifTrue (literal (.boolean true)) (literal (.number 5.0))
    let scope := Scope.empty.addVariable "x" (.number 5.0)
    (passing.givesBoolean = true ∧
        ((follow scope .standing none passing).after []).result = .ok (.number 5.0) ∧
        ∃ node ∈ passing.resultNodes,
          Delivers scope .standing node (.number 5.0) none [] passing ∧ node.isReference = true) ∧
      denied.givesBoolean = false ∧
        ((follow scope .standing none denied).after []).result = .ok (.boolean true) ∧
        ∃ node ∈ denied.resultNodes, node.NeverBoolean := by
  intro passing denied scope
  have hpassing : passing.givesBoolean = true := rfl
  have hdenied : denied.givesBoolean = false := rfl
  have hnumber : ((follow scope .standing none passing).after []).result = .ok (.number 5.0) := rfl
  have htruth : ((follow scope .standing none denied).after []).result = .ok (.boolean true) := rfl
  obtain ⟨hdelivered, -, -, hreference, -⟩ := givesBoolean_tells passing
  obtain ⟨-, hnever, -⟩ := givesBoolean_tells denied
  obtain ⟨node, hmem, hnode⟩ := (hdelivered scope .standing none [] _).mp hnumber
  refine ⟨⟨hpassing, hnumber, node, hmem, hnode, ?_⟩, hdenied, htruth, hnever hdenied⟩
  exact hreference hpassing scope .standing none [] node _ hnode nofun

end Expr

end Reckon
