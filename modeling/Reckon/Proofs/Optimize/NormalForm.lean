import Mathlib.Logic.Function.Iterate
import Reckon.Optimize.Settle
import Reckon.Proofs.Optimize.FoldOutcome

/-!
# `Proofs.Optimize.NormalForm` — nothing is left to optimize

Optimizing repeats a round, folding and then making conditionals, until folding reports that it changed
nothing. Three things are shown of that.

  * The report is right: folding says that it changed something exactly when its result differs from the
    expression (`fold_changed_iff`).
  * The loop ends after no more rounds than there are nodes that are no literals (`settle_rounds`).
  * Its result is settled (`settle_settled`): neither rewriting changes it, and so optimizing it once more
    does not either. A part of a settled expression is settled (`Settled.of_occurs`), which is why no node at
    any depth is one that a rewriting replaces (`Settled.not_reducible`).

Main statement: all of it together (`optimize_reaches_normalForm`).
-/

namespace Reckon

namespace Folded

variable {α β : Type}

/-- If it says that nothing changed, the result is `a`. -/
def Truthful (f : Folded α) (a : α) : Prop :=
  f.changed = false → f.result = a

theorem Truthful.same (a : α) : (same a).Truthful a :=
  fun _ => rfl

/-- One pass after another says that nothing changed if both say so. -/
theorem Truthful.bind_unchanged_iff {f : Folded α} {a : α} (h : f.Truthful a)
    {next : α → Folded β} :
    (f.bind next).changed = false ↔ f.changed = false ∧ (next a).changed = false := by
  show (f.changed || (next f.result).changed) = false ↔ _
  rw [Bool.or_eq_false_iff]
  constructor
  · rintro ⟨hf, hnext⟩
    rw [h hf] at hnext
    exact ⟨hf, hnext⟩
  · rintro ⟨hf, hnext⟩
    rw [h hf]
    exact ⟨hf, hnext⟩

theorem Truthful.bind {f : Folded α} {a : α} {next : α → Folded β} {b : β} (h : f.Truthful a)
    (hnext : (next a).Truthful b) : (f.bind next).Truthful b := by
  intro hunchanged
  obtain ⟨hf, hn⟩ := h.bind_unchanged_iff.mp hunchanged
  show (next f.result).result = b
  rw [h hf]
  exact hnext hn

theorem Truthful.map {f : Folded α} {a : α} (g : α → β) (h : f.Truthful a) :
    (f.map g).Truthful (g a) := by
  intro hunchanged
  exact congrArg g (h hunchanged)

end Folded

namespace Expr

open Reckon.Folded (Truthful)

variable {scope : Scope} {allowance : Allowance}

/-! ## Folding reports its changes -/

theorem attempt_truthful (e : Expr) (operands : List Expr) :
    (attempt scope allowance e operands).Truthful e := by
  unfold attempt
  split
  · dsimp only
    split
    · exact nofun
    · exact fun _ => rfl
  · exact .same e

theorem attemptCall_truthful (name : String) (params : List Expr) :
    (attemptCall scope allowance name params).Truthful (call name params) := by
  unfold attemptCall
  split
  · exact .same _
  · split
    · exact attempt_truthful _ _
    · exact .same _

theorem chooseBranch_truthful (op : Operator) (condition thenBranch elseBranch : Expr) :
    (chooseBranch op condition thenBranch elseBranch).Truthful
      (ternary op condition thenBranch elseBranch) := by
  unfold chooseBranch
  split
  · exact nofun
  · exact nofun
  · exact .same _

mutual

theorem fold_truthful : (e : Expr) → (fold scope allowance e).Truthful e
  | literal _ | .variable _ => by
    rw [fold]
    exact .same _
  | unary op operand => by
    rw [fold]
    exact (fold_truthful operand).bind (attempt_truthful _ _)
  | binary op left right => by
    rw [fold]
    exact (fold_truthful left).bind ((fold_truthful right).bind (attempt_truthful _ _))
  | ternary op condition thenBranch elseBranch => by
    rw [fold]
    exact (fold_truthful condition).bind ((fold_truthful thenBranch).bind
      ((fold_truthful elseBranch).bind (chooseBranch_truthful _ _ _ _)))
  | array elements => by
    rw [fold]
    exact (foldAll_truthful elements).bind (attempt_truthful _ _)
  | call name params => by
    rw [fold]
    exact (foldAll_truthful params).bind (attemptCall_truthful _ _)

theorem foldAll_truthful : (es : List Expr) → (foldAll scope allowance es).Truthful es
  | [] => by
    rw [foldAll]
    exact .same _
  | e :: rest => by
    rw [foldAll]
    exact (fold_truthful e).bind ((foldAll_truthful rest).map _)

end

/-- Folding says that it changed something exactly when it did. -/
theorem fold_changed_iff (e : Expr) :
    (fold scope allowance e).changed = true ↔ (fold scope allowance e).result ≠ e := by
  constructor
  · intro hchanged heq
    have hless := fold_work hchanged
    rw [heq] at hless
    exact Nat.lt_irrefl _ hless
  · intro hne
    cases hchanged : (fold scope allowance e).changed with
    | true => rfl
    | false => exact absurd (fold_truthful e hchanged) hne

/-! ### Node by node -/

theorem fold_unary_unchanged {op : Operator} {operand : Expr} :
    (fold scope allowance (unary op operand)).changed = false ↔
      (fold scope allowance operand).changed = false ∧
        (attempt scope allowance (unary op operand) [operand]).changed = false := by
  rw [fold, (fold_truthful operand).bind_unchanged_iff]

theorem fold_binary_unchanged {op : Operator} {left right : Expr} :
    (fold scope allowance (binary op left right)).changed = false ↔
      (fold scope allowance left).changed = false ∧
        (fold scope allowance right).changed = false ∧
          (attempt scope allowance (binary op left right) [left, right]).changed = false := by
  rw [fold, (fold_truthful left).bind_unchanged_iff, (fold_truthful right).bind_unchanged_iff]

theorem fold_ternary_unchanged {op : Operator} {condition thenBranch elseBranch : Expr} :
    (fold scope allowance (ternary op condition thenBranch elseBranch)).changed = false ↔
      (fold scope allowance condition).changed = false ∧
        (fold scope allowance thenBranch).changed = false ∧
          (fold scope allowance elseBranch).changed = false ∧
            (chooseBranch op condition thenBranch elseBranch).changed = false := by
  rw [fold, (fold_truthful condition).bind_unchanged_iff,
    (fold_truthful thenBranch).bind_unchanged_iff, (fold_truthful elseBranch).bind_unchanged_iff]

theorem fold_array_unchanged {elements : List Expr} :
    (fold scope allowance (array elements)).changed = false ↔
      (foldAll scope allowance elements).changed = false ∧
        (attempt scope allowance (array elements) elements).changed = false := by
  rw [fold, (foldAll_truthful elements).bind_unchanged_iff]

theorem fold_call_unchanged {name : String} {params : List Expr} :
    (fold scope allowance (call name params)).changed = false ↔
      (foldAll scope allowance params).changed = false ∧
        (attemptCall scope allowance name params).changed = false := by
  rw [fold, (foldAll_truthful params).bind_unchanged_iff]

theorem foldAll_unchanged {es : List Expr} :
    (foldAll scope allowance es).changed = false ↔
      ∀ e ∈ es, (fold scope allowance e).changed = false := by
  induction es with
  | nil =>
    rw [foldAll]
    exact ⟨fun _ => nofun, fun _ => rfl⟩
  | cons e rest ih =>
    rw [foldAll, (fold_truthful e).bind_unchanged_iff, List.forall_mem_cons, ← ih]
    rfl

/-! ## Settled expressions -/

/-- Making conditionals and folding both leave the expression as it is. -/
structure Settled (scope : Scope) (allowance : Allowance) (e : Expr) : Prop where
  lazy : e.lazy = e
  unchanged : (fold scope allowance e).changed = false

/-- The expression `p` is `e`, or stands somewhere inside it. -/
inductive Occurs (p : Expr) : Expr → Prop where
  | whole : Occurs p p
  | operand {op : Operator} {e : Expr} (h : Occurs p e) : Occurs p (unary op e)
  | left {op : Operator} {e right : Expr} (h : Occurs p e) : Occurs p (binary op e right)
  | right {op : Operator} {left e : Expr} (h : Occurs p e) : Occurs p (binary op left e)
  | condition {op : Operator} {e thenBranch elseBranch : Expr} (h : Occurs p e) :
      Occurs p (ternary op e thenBranch elseBranch)
  | thenBranch {op : Operator} {condition e elseBranch : Expr} (h : Occurs p e) :
      Occurs p (ternary op condition e elseBranch)
  | elseBranch {op : Operator} {condition thenBranch e : Expr} (h : Occurs p e) :
      Occurs p (ternary op condition thenBranch e)
  | element {e : Expr} {elements : List Expr} (he : e ∈ elements) (h : Occurs p e) :
      Occurs p (array elements)
  | param {name : String} {e : Expr} {params : List Expr} (he : e ∈ params) (h : Occurs p e) :
      Occurs p (call name params)

/-- Conversion keeps a list of expressions only if it keeps each of them. -/
theorem lazy_of_lazyAll {es : List Expr} (h : lazyAll es = es) : ∀ e ∈ es, e.lazy = e := by
  induction es with
  | nil => exact nofun
  | cons e rest ih =>
    rw [lazyAll] at h
    obtain ⟨he, hrest⟩ := List.cons.inj h
    exact List.forall_mem_cons.mpr ⟨he, ih hrest⟩

theorem eq_of_conditionalOf {name : String} {params params' : List Expr}
    (h : conditionalOf name params = call name params') : params = params' := by
  unfold conditionalOf at h
  split at h
  · split at h
    · cases h
    · exact (call.inj h).2
  · exact (call.inj h).2

/-- Of a call that conversion keeps it keeps the parameters, and the call is none of those that become
conditionals. -/
theorem lazy_call_kept {name : String} {params : List Expr}
    (h : (call name params).lazy = call name params) :
    lazyAll params = params ∧ conditionalOf name params = call name params := by
  rw [lazy] at h
  have hparams := eq_of_conditionalOf h
  rw [hparams] at h
  exact ⟨hparams, h⟩

/-- What occurs in a settled expression is settled. -/
theorem Settled.of_occurs {p e : Expr} (hp : Occurs p e) (he : Settled scope allowance e) :
    Settled scope allowance p := by
  induction hp with
  | whole => exact he
  | operand _ ih =>
    have hlazy := (unary.inj he.lazy).2
    exact ih ⟨hlazy, (fold_unary_unchanged.mp he.unchanged).1⟩
  | left _ ih =>
    have hlazy := (binary.inj he.lazy).2.1
    exact ih ⟨hlazy, (fold_binary_unchanged.mp he.unchanged).1⟩
  | right _ ih =>
    have hlazy := (binary.inj he.lazy).2.2
    exact ih ⟨hlazy, (fold_binary_unchanged.mp he.unchanged).2.1⟩
  | condition _ ih =>
    have hlazy := (ternary.inj he.lazy).2.1
    exact ih ⟨hlazy, (fold_ternary_unchanged.mp he.unchanged).1⟩
  | thenBranch _ ih =>
    have hlazy := (ternary.inj he.lazy).2.2.1
    exact ih ⟨hlazy, (fold_ternary_unchanged.mp he.unchanged).2.1⟩
  | elseBranch _ ih =>
    have hlazy := (ternary.inj he.lazy).2.2.2
    exact ih ⟨hlazy, (fold_ternary_unchanged.mp he.unchanged).2.2.1⟩
  | element hmem _ ih =>
    have hlazy := lazy_of_lazyAll (array.inj he.lazy)
    have hfold := foldAll_unchanged.mp (fold_array_unchanged.mp he.unchanged).1
    exact ih ⟨hlazy _ hmem, hfold _ hmem⟩
  | param hmem _ ih =>
    have hlazy := lazy_of_lazyAll (lazy_call_kept he.lazy).1
    have hfold := foldAll_unchanged.mp (fold_call_unchanged.mp he.unchanged).1
    exact ih ⟨hlazy _ hmem, hfold _ hmem⟩

/-! ## What settled expressions do not contain -/

/-- A node that one of the rewritings replaces. -/
inductive Reducible (scope : Scope) (allowance : Allowance) : Expr → Prop where
  /-- a call that conversion makes a conditional, whatever the letter case of its name -/
  | conditional {name : String} {condition thenBranch elseBranch : Expr}
      (h : Text.lower name = conditionalName) :
      Reducible scope allowance (call name [condition, thenBranch, elseBranch])
  /-- a conditional, of any operator, whose condition is a literal truth value -/
  | decided {op : Operator} {b : Bool} {thenBranch elseBranch : Expr} :
      Reducible scope allowance (ternary op (literal (.boolean b)) thenBranch elseBranch)
  | unary {op : Operator} {v w : Value}
      (h : (eval scope allowance (unary op (literal v))).result = .ok w) :
      Reducible scope allowance (unary op (literal v))
  | binary {op : Operator} {v v' w : Value}
      (h : (eval scope allowance (binary op (literal v) (literal v'))).result = .ok w) :
      Reducible scope allowance (binary op (literal v) (literal v'))
  | array {vs : List Value} {w : Value}
      (h : (eval scope allowance (array (vs.map literal))).result = .ok w) :
      Reducible scope allowance (array (vs.map literal))
  | call {name : String} {f : Callable} {vs : List Value} {w : Value}
      (hf : scope.callable? name = some f) (hpure : f.pure = true)
      (haccepts : f.arity.accepts vs.length = true)
      (h : (eval scope allowance (call name (vs.map literal))).result = .ok w) :
      Reducible scope allowance (call name (vs.map literal))

theorem literals?_map (vs : List Value) : literals? (vs.map literal) = some vs := by
  induction vs with
  | nil => rfl
  | cons v rest ih =>
    rw [List.map_cons, literals?, ih]
    rfl

/-- An attempt on literal operands changes an expression that has a value. -/
theorem attempt_changed {e : Expr} {w : Value} (vs : List Value)
    (h : (eval scope allowance e).result = .ok w) :
    (attempt scope allowance e (vs.map literal)).changed = true := by
  unfold attempt
  rw [literals?_map]
  dsimp only
  rw [h]
  rfl

/-- **Nothing in a settled expression can be rewritten.** -/
theorem Settled.not_reducible {e : Expr} (he : Settled scope allowance e) :
    ¬ Reducible scope allowance e := by
  intro hred
  have hunchanged := he.unchanged
  cases hred with
  | @conditional name condition thenBranch elseBranch hname =>
    have hkept := (lazy_call_kept he.lazy).2
    have hconverted : conditionalOf name [condition, thenBranch, elseBranch] =
        ternary .conditional condition thenBranch elseBranch := if_pos hname
    rw [hconverted] at hkept
    cases hkept
  | @decided op b =>
    have hchosen := (fold_ternary_unchanged.mp hunchanged).2.2.2
    unfold chooseBranch at hchosen
    cases b <;> cases hchosen
  | @unary op v w h =>
    have hattempt := (fold_unary_unchanged.mp hunchanged).2
    exact Bool.eq_false_iff.mp hattempt (attempt_changed [v] h)
  | @binary op v v' w h =>
    have hattempt := (fold_binary_unchanged.mp hunchanged).2.2
    exact Bool.eq_false_iff.mp hattempt (attempt_changed [v, v'] h)
  | @array vs w h =>
    have hattempt := (fold_array_unchanged.mp hunchanged).2
    exact Bool.eq_false_iff.mp hattempt (attempt_changed vs h)
  | @call name f vs w hf hpure haccepts h =>
    have hattempt := (fold_call_unchanged.mp hunchanged).2
    -- the function is known, pure, and takes the parameters, so the call is attempted
    unfold attemptCall at hattempt
    rw [hf] at hattempt
    dsimp only at hattempt
    rw [List.length_map, hpure, haccepts, Bool.and_self, if_pos rfl] at hattempt
    exact Bool.eq_false_iff.mp hattempt (attempt_changed vs h)

/-! ## The loop -/

theorem conditionalOf_lazy (name : String) {params : List Expr} (h : lazyAll params = params) :
    (conditionalOf name params).lazy = conditionalOf name params := by
  unfold conditionalOf
  split
  · next condition thenBranch elseBranch =>
    have hparts := lazy_of_lazyAll h
    simp only [List.forall_mem_cons] at hparts
    obtain ⟨hc, ht, hf, -⟩ := hparts
    split
    · rw [lazy, hc, ht, hf]
    · next hname => rw [lazy, h, conditionalOf, if_neg hname]
  · next hcount =>
    rw [lazy, h]
    unfold conditionalOf
    split
    · exact absurd rfl (hcount _ _ _)
    · rfl

mutual

/-- Once conditionals are made there are none left to make. -/
theorem lazy_lazy : (e : Expr) → e.lazy.lazy = e.lazy
  | literal _ | .variable _ => rfl
  | call name params => by
    rw [lazy]
    exact conditionalOf_lazy name (lazyAll_lazyAll params)
  | unary op operand => by rw [lazy, lazy, lazy_lazy operand]
  | binary op left right => by rw [lazy, lazy, lazy_lazy left, lazy_lazy right]
  | array elements => by rw [lazy, lazy, lazyAll_lazyAll elements]
  | ternary op condition thenBranch elseBranch => by
    rw [lazy, lazy, lazy_lazy condition, lazy_lazy thenBranch, lazy_lazy elseBranch]

theorem lazyAll_lazyAll : (es : List Expr) → lazyAll (lazyAll es) = lazyAll es
  | [] => rfl
  | e :: rest => by rw [lazyAll, lazyAll, lazy_lazy e, lazyAll_lazyAll rest]

end

/-- One round of optimizing: constants, then conditionals. -/
def round (scope : Scope) (allowance : Allowance) (e : Expr) : Expr :=
  (fold scope allowance e).result.lazy

theorem settle_of_changed {e : Expr} (h : (fold scope allowance e).changed = true) :
    (settle scope allowance e).1 = (settle scope allowance (round scope allowance e)).1 := by
  rw [settle]
  dsimp only
  rw [dif_pos h]
  rfl

theorem settle_of_unchanged {e : Expr} (h : (fold scope allowance e).changed = false) :
    (settle scope allowance e).1 = round scope allowance e := by
  rw [settle]
  dsimp only
  rw [dif_neg (Bool.eq_false_iff.mp h)]
  rfl

/-- Settling does so many rounds after which folding changes something, and one more. -/
theorem settle_rounds (e : Expr) :
    ∃ n ≤ e.work,
      (∀ k < n, (fold scope allowance ((round scope allowance)^[k] e)).changed = true) ∧
        (fold scope allowance ((round scope allowance)^[n] e)).changed = false ∧
          (settle scope allowance e).1 = (round scope allowance)^[n + 1] e := by
  fun_induction settle scope allowance e with
  | case1 e pass events hchanged result more hrec ih =>
    obtain ⟨n, hn, hbefore, hlast, hresult⟩ := ih
    rw [hrec] at hresult
    -- the first round leaves less work, so there is one more round than for what it leaves
    have hless : n < e.work := by
      refine Nat.lt_of_le_of_lt hn ?_
      rw [work_lazy]
      exact fold_work hchanged
    refine ⟨n + 1, hless, ?_, hlast, hresult⟩
    intro k hk
    cases k with
    | zero => exact hchanged
    | succ k => exact hbefore k (Nat.lt_of_succ_lt_succ hk)
  | case2 e pass events hunchanged =>
    refine ⟨0, Nat.zero_le _, nofun, ?_, rfl⟩
    exact Bool.eq_false_iff.mpr hunchanged

/-- What settling ends in is settled, if there are no conditionals to make at first. -/
theorem settle_settled {e : Expr} (h : e.lazy = e) :
    Settled scope allowance (settle scope allowance e).1 := by
  fun_induction settle scope allowance e with
  | case1 e pass events hchanged result more hrec ih =>
    have hsettled := ih (lazy_lazy _)
    rw [hrec] at hsettled
    exact hsettled
  | case2 e pass events hunchanged =>
    have hunchanged : (fold scope allowance e).changed = false := Bool.eq_false_iff.mpr hunchanged
    have hkept : pass.result = e := fold_truthful e hunchanged
    show Settled scope allowance pass.result.lazy
    rw [hkept, h]
    exact ⟨h, hunchanged⟩

theorem optimize_settled (e : Expr) : Settled scope allowance (optimize scope allowance e).1 :=
  settle_settled (lazy_lazy e)

/-- Settling a settled expression takes one round, which changes nothing. -/
theorem Settled.optimize {e : Expr} (h : Settled scope allowance e) :
    (optimize scope allowance e).1 = e := by
  show (settle scope allowance e.lazy).1 = e
  rw [h.lazy, settle_of_unchanged h.unchanged, round, fold_truthful e h.unchanged]
  exact h.lazy

/-- **Main theorem.** Optimizing ends after no more rounds than the expression has nodes that are no
literals, and one. Its result is a fixed point of both rewritings and of optimizing, and at no depth is
there a node left that one of the rewritings replaces. That folding changed something, which keeps the loop
going, is said of an expression exactly when it is so. -/
theorem optimize_reaches_normalForm (scope : Scope) (allowance : Allowance) (e : Expr) :
    (∃ r, (optimize scope allowance e).1 = r ∧
      (∃ n ≤ e.work,
        (∀ k < n, (fold scope allowance ((round scope allowance)^[k] e.lazy)).changed = true) ∧
          (fold scope allowance ((round scope allowance)^[n] e.lazy)).changed = false ∧
            r = (round scope allowance)^[n + 1] e.lazy) ∧
      r.lazy = r ∧ (fold scope allowance r).result = r ∧ (fold scope allowance r).changed = false ∧
      (optimize scope allowance r).1 = r ∧
      ∀ p, Occurs p r → ¬ Reducible scope allowance p) ∧
    ((fold scope allowance e).changed = true ↔ (fold scope allowance e).result ≠ e) := by
  have hsettled : Settled scope allowance (optimize scope allowance e).1 := optimize_settled e
  obtain ⟨n, hn, hrounds⟩ := @settle_rounds scope allowance e.lazy
  rw [work_lazy] at hn
  refine ⟨⟨_, rfl, ⟨n, hn, hrounds⟩, hsettled.lazy, fold_truthful _ hsettled.unchanged,
    hsettled.unchanged, hsettled.optimize, ?_⟩, fold_changed_iff e⟩
  intro p hp
  exact (hsettled.of_occurs hp).not_reducible

/-- `[IF_THEN(not false, x, y), not 'a']` -/
def choiceBesideMismatch : Expr :=
  array [call "IF_THEN" [unary .not (literal (.boolean false)), .variable "x", .variable "y"],
    unary .not (literal (.string "a"))]

/-- The choice is made; the operation that fails stays, and it is no node to be replaced. -/
theorem optimize_reaches_normalForm_mismatch :
    (optimize Scope.empty none choiceBesideMismatch).1 =
        array [.variable "x", unary .not (literal (.string "a"))] ∧
      Occurs (unary .not (literal (.string "a")))
        (array [.variable "x", unary .not (literal (.string "a"))]) ∧
      ¬ Reducible Scope.empty none (unary .not (literal (.string "a"))) := by
  have hresult : (optimize Scope.empty none choiceBesideMismatch).1 =
      array [.variable "x", unary .not (literal (.string "a"))] := by
    show (settle Scope.empty none choiceBesideMismatch.lazy).1 = _
    rw [settle_of_changed rfl, settle_of_unchanged rfl]
    rfl
  have hoccurs : Occurs (unary .not (literal (.string "a")))
      (array [.variable "x", unary .not (literal (.string "a"))]) :=
    .element (List.mem_cons_of_mem _ List.mem_cons_self) .whole
  obtain ⟨⟨r, hr, -, -, -, -, -, hnormal⟩, -⟩ :=
    optimize_reaches_normalForm Scope.empty none choiceBesideMismatch
  rw [hresult] at hr
  subst hr
  exact ⟨hresult, hoccurs, hnormal _ hoccurs⟩

end Expr

end Reckon
