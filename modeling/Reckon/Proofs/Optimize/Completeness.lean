import Reckon.Proofs.Expr.CallSite
import Reckon.Proofs.Optimize.NormalForm
import Reckon.Proofs.Optimize.Preservation

/-!
# `Proofs.Optimize.Completeness` — what can be evaluated ahead of time is

A closed expression needs nothing of the scope but pure functions: it has no variables, its calls are of pure
functions, and every expression inside it has a value, whether evaluation gets to it or not (`Closed`).
Folding leaves nothing of it but its value.

The argument goes one node at a time. When all children of a node have become literals, the node with these
literals in their place has the value that it had before, since folding refines an expression; so the attempt
at the node succeeds, and a conditional finds a truth value to choose by (`fold_literal_of_children`). For
optimizing, conditionals are made first, which keeps an expression closed if `if_then` is the function of the
library (`Closed.lazy`).

Main statement: `closed_becomes_value`.
-/

namespace Reckon.Expr

variable {scope : Scope} {a : Allowance}

/-! ## Closed expressions -/

/-- The expression contains no variables and calls of pure functions only, and all that stands in it has a
value. -/
structure Closed (scope : Scope) (a : Allowance) (e : Expr) : Prop where
  noVariable : ∀ name, ¬ Occurs (.variable name) e
  pureCalls : ∀ name params, Occurs (call name params) e →
    ∃ f, scope.callable? name = some f ∧ f.pure = true
  values : ∀ p, Occurs p e → ∃ v, (eval scope a p).result = .ok v

/-- An expression that needs, apart from its children, no more of the scope than a pure function. -/
def Independent (scope : Scope) : Expr → Prop
  | .variable _ => False
  | call name _ => ∃ f, scope.callable? name = some f ∧ f.pure = true
  | _ => True

theorem Occurs.of_child {p child e : Expr} (hchild : child ∈ e.children) (h : Occurs p child) :
    Occurs p e := by
  cases e with
  | literal _ | «variable» _ => cases hchild
  | call name params => exact .param hchild h
  | array elements => exact .element hchild h
  | unary op operand =>
    obtain rfl := List.mem_singleton.mp hchild
    exact .operand h
  | binary op left right =>
    simp only [children, List.mem_cons, List.not_mem_nil, or_false] at hchild
    rcases hchild with rfl | rfl
    · exact .left h
    · exact .right h
  | ternary op condition thenBranch elseBranch =>
    simp only [children, List.mem_cons, List.not_mem_nil, or_false] at hchild
    rcases hchild with rfl | rfl | rfl
    · exact .condition h
    · exact .thenBranch h
    · exact .elseBranch h

/-- What occurs in an expression is the whole, or occurs in one of its children. -/
theorem Occurs.eq_or_in_child {p e : Expr} (h : Occurs p e) :
    p = e ∨ ∃ child ∈ e.children, Occurs p child := by
  cases h with
  | whole => exact Or.inl rfl
  | operand h => exact Or.inr ⟨_, List.mem_singleton_self _, h⟩
  | left h => exact Or.inr ⟨_, List.mem_cons_self, h⟩
  | right h => exact Or.inr ⟨_, List.mem_cons_of_mem _ List.mem_cons_self, h⟩
  | condition h => exact Or.inr ⟨_, List.mem_cons_self, h⟩
  | thenBranch h => exact Or.inr ⟨_, List.mem_cons_of_mem _ List.mem_cons_self, h⟩
  | elseBranch h =>
    exact Or.inr ⟨_, List.mem_cons_of_mem _ (List.mem_cons_of_mem _ List.mem_cons_self), h⟩
  | element he h => exact Or.inr ⟨_, he, h⟩
  | param he h => exact Or.inr ⟨_, he, h⟩

theorem Closed.child {child e : Expr} (h : Closed scope a e) (hchild : child ∈ e.children) :
    Closed scope a child where
  noVariable name hp := h.noVariable name (hp.of_child hchild)
  pureCalls name params hp := h.pureCalls name params (hp.of_child hchild)
  values p hp := h.values p (hp.of_child hchild)

theorem Closed.independent {e : Expr} (h : Closed scope a e) : Independent scope e := by
  cases e with
  | «variable» name => exact h.noVariable name .whole
  | call name params => exact h.pureCalls name params .whole
  | _ => trivial

/-- An expression with closed children is closed if it is independent and has a value. -/
theorem Closed.of_children {e : Expr} (hnode : Independent scope e)
    (hvalue : ∃ v, (eval scope a e).result = .ok v)
    (hchildren : ∀ child ∈ e.children, Closed scope a child) : Closed scope a e where
  noVariable name hp := by
    rcases hp.eq_or_in_child with rfl | ⟨child, hchild, hp⟩
    · exact hnode
    · exact (hchildren child hchild).noVariable name hp
  pureCalls name params hp := by
    rcases hp.eq_or_in_child with rfl | ⟨child, hchild, hp⟩
    · exact hnode
    · exact (hchildren child hchild).pureCalls name params hp
  values p hp := by
    rcases hp.eq_or_in_child with rfl | ⟨child, hchild, hp⟩
    · exact hvalue
    · exact (hchildren child hchild).values p hp

/-! ## Folding one node -/

/-- What may stand for an expression has its value. -/
theorem Refines.keeps_value {e' e : Expr} {w : Value} (h : Refines scope e' e)
    (hw : (eval scope a e).result = .ok w) : (eval scope a e').result = .ok w :=
  (h.value a a (.refl a) w hw).1

/-- A literal has no value but its own. -/
theorem value_of_literal {v w : Value} (h : (eval scope a (literal v)).result = .ok w) : v = w := by
  obtain ⟨inner, ha⟩ := descend_of_value h
  rw [eval_literal, Allowance.within_of_descend ha] at h
  exact Except.ok.inj h

/-- An attempt on literal operands gives the value, where there is one. -/
theorem attempt_literal {e : Expr} {operands : List Expr} {w : Value}
    (hliterals : ∀ operand ∈ operands, ∃ v, operand = literal v)
    (hw : (eval scope a e).result = .ok w) :
    (attempt scope a e operands).result = literal w := by
  unfold attempt
  rw [if_pos (literals?_isSome_iff.mpr hliterals)]
  dsimp only
  rw [hw]

/-- A call has a value only if its parameters are as many as the function takes. -/
theorem accepts_of_value {name : String} {params : List Expr} {f : Callable} {w : Value}
    (hf : scope.callable? name = some f) (hw : (eval scope a (call name params)).result = .ok w) :
    f.arity.accepts params.length = true := by
  obtain ⟨inner, ha⟩ := descend_of_value hw
  rw [eval_call, Allowance.within_of_descend ha, hf] at hw
  dsimp only at hw
  by_contra haccepts
  rw [if_neg haccepts] at hw
  cases hw

/-- A conditional on a literal has a value only if the literal is a truth value. -/
theorem truth_of_value {op : Operator} {v w : Value} {thenBranch elseBranch : Expr}
    (hw : (eval scope a (ternary op (literal v) thenBranch elseBranch)).result = .ok w) :
    ∃ b, v = .boolean b := by
  obtain ⟨inner, ha⟩ := descend_of_value hw
  cases op with
  | conditional =>
    rw [eval_conditional, Allowance.within_of_descend ha] at hw
    obtain ⟨holds, hholds, -⟩ := Traced.exists_of_bind_ok hw
    obtain ⟨x, hx, htruth⟩ := Traced.exists_of_bind_ok hholds
    obtain rfl := value_of_literal hx
    cases v with
    | boolean b => exact ⟨b, rfl⟩
    | _ => cases htruth
  | _ =>
    rw [eval, ha] at hw
    cases hw

theorem foldAll_literals {es : List Expr}
    (h : ∀ e ∈ es, ∃ v, (fold scope a e).result = literal v) :
    ∀ e ∈ (foldAll scope a es).result, ∃ v, e = literal v := by
  induction es with
  | nil =>
    rw [foldAll]
    exact nofun
  | cons e rest ih =>
    rw [foldAll_cons]
    obtain ⟨he, hrest⟩ := List.forall_mem_cons.mp h
    exact List.forall_mem_cons.mpr ⟨he, ih hrest⟩

/-- **Folding step.** An independent expression whose children all fold to literals folds to a literal, if it
has a value. -/
theorem fold_literal_of_children {e : Expr} {w : Value} (hnode : Independent scope e)
    (hw : (eval scope a e).result = .ok w)
    (hchildren : ∀ child ∈ e.children, ∃ v, (fold scope a child).result = literal v) :
    ∃ v, (fold scope a e).result = literal v := by
  -- With folded children the node keeps its value, so what is done with it is done on literals that have one.
  cases e with
  | literal v =>
    rw [fold]
    exact ⟨v, rfl⟩
  | «variable» name => cases hnode
  | unary op operand =>
    have hliterals := foldAll_literals hchildren
    rw [children, foldAll_cons, foldAll] at hliterals
    rw [fold_unary]
    exact ⟨w, attempt_literal hliterals (((fold_refines operand).unary op).keeps_value hw)⟩
  | binary op left right =>
    have hliterals := foldAll_literals hchildren
    rw [children, foldAll_cons, foldAll_cons, foldAll] at hliterals
    rw [fold_binary]
    exact ⟨w, attempt_literal hliterals
      (((fold_refines left).binary (fold_refines right) op).keeps_value hw)⟩
  | ternary op condition thenBranch elseBranch =>
    obtain ⟨hcondition, hbranches⟩ := List.forall_mem_cons.mp hchildren
    obtain ⟨hthen, helse⟩ := List.forall_mem_cons.mp hbranches
    obtain ⟨v, hv⟩ := hcondition
    have hrefines : Refines scope (literal v) condition := by
      rw [← hv]
      exact fold_refines condition
    obtain ⟨b, rfl⟩ := truth_of_value
      ((hrefines.ternary (.refl thenBranch) (.refl elseBranch) op).keeps_value hw)
    rw [fold_ternary, hv]
    cases b with
    | true => exact hthen
    | false => exact helse elseBranch List.mem_cons_self
  | array elements =>
    have hliterals := foldAll_literals hchildren
    rw [fold_array]
    exact ⟨w, attempt_literal hliterals
      ((Refines.array (foldAll_refines elements)).keeps_value hw)⟩
  | call name params =>
    obtain ⟨f, hf, hpure⟩ := hnode
    have hliterals := foldAll_literals hchildren
    have hkept : (eval scope a (call name (foldAll scope a params).result)).result = .ok w :=
      (Refines.call (foldAll_refines params) name).keeps_value hw
    have haccepts := accepts_of_value hf hkept
    rw [fold_call]
    unfold attemptCall
    rw [hf]
    dsimp only
    rw [hpure, haccepts, Bool.and_self, if_pos rfl]
    exact ⟨w, attempt_literal hliterals hkept⟩

/-! ## Folding closed expressions -/

theorem Closed.fold_literal (e : Expr) :
    Closed scope a e → ∃ v, (fold scope a e).result = literal v := by
  induction e using children_induction with
  | h e ih =>
    intro h
    obtain ⟨w, hw⟩ := h.values e .whole
    refine fold_literal_of_children h.independent hw ?_
    intro child hchild
    exact ih child hchild (h.child hchild)

/-- **A closed expression folds to its value.** -/
theorem Closed.fold_eq {e : Expr} {w : Value} (h : Closed scope a e)
    (hw : (eval scope a e).result = .ok w) : (fold scope a e).result = literal w := by
  obtain ⟨v, hv⟩ := h.fold_literal
  have hvalue : (eval scope a (fold scope a e).result).result = .ok w :=
    (fold_refines e).keeps_value hw
  rw [hv] at hvalue
  rw [hv, value_of_literal hvalue]

/-! ## With conditionals made -/

/-- There is nothing to make a conditional of: `if_then`, in any letter case, is not called with three
parameters. -/
def NoChoice (e : Expr) : Prop :=
  ∀ name params, Occurs (call name params) e → becomesConditional name params.length = false

theorem mem_lazyAll {x : Expr} {es : List Expr} (h : x ∈ lazyAll es) : ∃ e ∈ es, e.lazy = x := by
  induction es with
  | nil => cases h
  | cons e rest ih =>
    rw [lazyAll] at h
    rcases List.mem_cons.mp h with rfl | h
    · exact ⟨e, List.mem_cons_self, rfl⟩
    · obtain ⟨e', he', hlazy⟩ := ih h
      exact ⟨e', List.mem_cons_of_mem _ he', hlazy⟩

/-- A call keeps its parameters as the children when it becomes a conditional. -/
theorem children_conditionalOf (name : String) (params : List Expr) :
    (conditionalOf name params).children = params := by
  unfold conditionalOf
  split
  · split <;> rfl
  · rfl

theorem children_lazy (e : Expr) : e.lazy.children = lazyAll e.children := by
  cases e with
  | call name params =>
    rw [lazy]
    exact children_conditionalOf name (lazyAll params)
  | _ => rfl

theorem Independent.lazy {e : Expr} (h : Independent scope e) : Independent scope e.lazy := by
  cases e with
  | call name params =>
    rw [Expr.lazy]
    unfold conditionalOf
    split
    · split
      · trivial
      · exact h
    · exact h
  | _ => exact h

/-- Making conditionals keeps an expression closed. -/
theorem Closed.lazy (hs : scope.StandardConditional) (e : Expr) :
    Closed scope a e → Closed scope a e.lazy := by
  induction e using children_induction with
  | h e ih =>
    intro h
    refine .of_children h.independent.lazy ?_ ?_
    · obtain ⟨w, hw⟩ := h.values e .whole
      exact ⟨w, (lazy_refines hs e).keeps_value hw⟩
    · intro child hchild
      rw [children_lazy] at hchild
      obtain ⟨e', he', rfl⟩ := mem_lazyAll hchild
      exact ih e' he' (h.child he')

theorem NoChoice.child {child e : Expr} (h : NoChoice e) (hchild : child ∈ e.children) : NoChoice child :=
  fun name params hp => h name params (hp.of_child hchild)

theorem conditionalOf_eq_call {name : String} {params : List Expr}
    (h : becomesConditional name params.length = false) :
    conditionalOf name params = call name params := by
  unfold conditionalOf
  split
  · split
    · next hname =>
      simp [becomesConditional, hname] at h
    · rfl
  · rfl

theorem lazyAll_eq_self {es : List Expr} (h : ∀ e ∈ es, e.lazy = e) : lazyAll es = es := by
  induction es with
  | nil => rfl
  | cons e rest ih =>
    obtain ⟨he, hrest⟩ := List.forall_mem_cons.mp h
    rw [lazyAll, he, ih hrest]

/-- Where there is nothing to make a conditional of, making conditionals changes nothing. -/
theorem NoChoice.lazy_eq (e : Expr) : NoChoice e → e.lazy = e := by
  induction e using children_induction with
  | h e ih =>
    intro h
    have hchildren : lazyAll e.children = e.children :=
      lazyAll_eq_self fun child hchild => ih child hchild (h.child hchild)
    cases e with
    | literal _ | «variable» _ => rfl
    | call name params =>
      have hparams : lazyAll params = params := hchildren
      rw [lazy, hparams, conditionalOf_eq_call (h name params .whole)]
    | array elements =>
      have helements : lazyAll elements = elements := hchildren
      rw [lazy, helements]
    | unary op operand => simpa [children, lazyAll, lazy] using hchildren
    | binary op left right => simpa [children, lazyAll, lazy] using hchildren
    | ternary op condition thenBranch elseBranch => simpa [children, lazyAll, lazy] using hchildren

/-! ## Optimizing closed expressions -/

/-- Once an expression folds to a literal, settling ends there. -/
theorem settle_eq_literal {e : Expr} {w : Value} (h : (fold scope a e).result = literal w) :
    (settle scope a e).1 = literal w := by
  have hround : round scope a e = literal w := by
    unfold round
    rw [h]
    rfl
  cases hchanged : (fold scope a e).changed with
  | false => rw [settle_of_unchanged hchanged, hround]
  | true =>
    -- one more round, in which the literal stays as it is
    have hliteral : fold scope a (literal w) = .same (literal w) := by rw [fold]
    have hunchanged : (fold scope a (literal w)).changed = false := by
      rw [hliteral]
      rfl
    rw [settle_of_changed hchanged, hround, settle_of_unchanged hunchanged]
    unfold round
    rw [hliteral]
    rfl

/-- **Main theorem.** A closed expression folds to its value, in one pass. It is optimized to its value too,
if `if_then` is the function of the library, or is not called with three parameters. -/
theorem closed_becomes_value {e : Expr} (h : Closed scope a e) :
    ∃ w, (eval scope a e).result = .ok w ∧ (fold scope a e).result = literal w ∧
      (scope.StandardConditional ∨ NoChoice e → (optimize scope a e).1 = literal w) := by
  obtain ⟨w, hw⟩ := h.values e .whole
  refine ⟨w, hw, h.fold_eq hw, ?_⟩
  rintro (hs | hnone)
  · have hlazy : (eval scope a e.lazy).result = .ok w :=
      (lazy_refines hs e).keeps_value hw
    exact settle_eq_literal ((h.lazy hs).fold_eq hlazy)
  · show (settle scope a e.lazy).1 = literal w
    rw [hnone.lazy_eq]
    exact settle_eq_literal (h.fold_eq hw)

/-- `[IF_THEN(not false, note('a'), 'b'), false and true]` -/
def constantChoice : Expr :=
  array [
    call "IF_THEN" [unary .not (literal (.boolean false)), call "note" [literal (.string "a")],
      literal (.string "b")],
    binary .and (literal (.boolean false)) (literal (.boolean true))]

/-- The branch that is not taken and the operand that is not looked at leave nothing behind. -/
theorem closed_becomes_value_choice :
    Closed choosing none constantChoice ∧ choosing.StandardConditional ∧
      (fold choosing none constantChoice).result =
        literal (.array [.string "a", .boolean false]) ∧
      (optimize choosing none constantChoice).1 =
        literal (.array [.string "a", .boolean false]) := by
  have hliteral : ∀ v, Closed choosing none (literal v) := fun v =>
    .of_children trivial ⟨v, rfl⟩ (List.forall_mem_nil _)
  have hnot : Closed choosing none (unary .not (literal (.boolean false))) :=
    .of_children trivial ⟨_, rfl⟩ (List.forall_mem_singleton.mpr (hliteral _))
  have hnote : Closed choosing none (call "note" [literal (.string "a")]) :=
    .of_children ⟨_, rfl, rfl⟩ ⟨_, rfl⟩ (List.forall_mem_singleton.mpr (hliteral _))
  have hchoice : Closed choosing none (call "IF_THEN" [unary .not (literal (.boolean false)),
      call "note" [literal (.string "a")], literal (.string "b")]) := by
    refine .of_children ⟨_, rfl, rfl⟩ ⟨_, rfl⟩ ?_
    simp only [children, List.forall_mem_cons]
    exact ⟨hnot, hnote, hliteral _, List.forall_mem_nil _⟩
  have hand : Closed choosing none
      (binary .and (literal (.boolean false)) (literal (.boolean true))) := by
    refine .of_children trivial ⟨_, rfl⟩ ?_
    simp only [children, List.forall_mem_cons]
    exact ⟨hliteral _, hliteral _, List.forall_mem_nil _⟩
  have hclosed : Closed choosing none constantChoice := by
    refine .of_children trivial ⟨_, rfl⟩ ?_
    simp only [constantChoice, children, List.forall_mem_cons]
    exact ⟨hchoice, hand, List.forall_mem_nil _⟩
  obtain ⟨w, hw, hfold, hoptimize⟩ := closed_becomes_value hclosed
  obtain rfl : Value.array [.string "a", .boolean false] = w := Except.ok.inj hw
  exact ⟨hclosed, choosing_standard, hfold, hoptimize (Or.inl choosing_standard)⟩

end Reckon.Expr
