import Reckon.Proofs.Check.Validity
import Reckon.Proofs.Optimize.Completeness

/-!
# `Proofs.Optimize.SettleOutcome` — what settling keeps of an outcome

Settling folds and makes conditionals in turn. Folding brings in no nodes of its own but literals: whatever
else stands in a folded expression has a counterpart of the same head in the expression before
(`head_of_occurs_fold`). So once all conditionals are made, none are made later, and an expression without
conditionals never comes to have one.

What settling does to an outcome is therefore what its rounds of folding do to it. It is the very same unless
one of these rounds starts from an expression whose evaluation reaches a loosened operand (`Loosens`), and
then a variable is undefined at the start (`outcome_of_loosens`). Only conditionals come loose, so an
expression without them keeps its outcome (`Branchless.outcome_settle`).

Main statements: `outcome_settle`, `outcome_of_loosens`, `Branchless.outcome_settle`.
-/

namespace Reckon.Expr

variable {scope : Scope} {allowance : Allowance}

/-! ## Heads of nodes -/

/-- What a node is, its children aside. -/
inductive Head where
  | literal
  | variable (name : String)
  | call (name : String) (count : Nat)
  | unary (op : Operator)
  | binary (op : Operator)
  | array
  | ternary (op : Operator)

/-- What an expression is at its top. -/
def head : Expr → Head
  | literal _ => .literal
  | .variable name => .variable name
  | call name params => .call name params.length
  | unary op _ => .unary op
  | binary op _ _ => .binary op
  | array _ => .array
  | ternary op _ _ _ => .ternary op

theorem eq_call_of_head {e : Expr} {name : String} {count : Nat} (h : e.head = .call name count) :
    ∃ params, e = call name params ∧ params.length = count := by
  cases e with
  | call name' params =>
    obtain ⟨rfl, rfl⟩ := Head.call.inj h
    exact ⟨params, rfl, rfl⟩
  | _ => cases h

theorem eq_variable_of_head {e : Expr} {name : String} (h : e.head = .variable name) :
    e = .variable name := by
  cases e with
  | «variable» name' => rw [Head.variable.inj h]
  | _ => cases h

/-! ## Folding, seen from the heads -/

theorem mem_foldAll {x : Expr} {es : List Expr} (h : x ∈ (foldAll scope allowance es).result) :
    ∃ e ∈ es, (fold scope allowance e).result = x := by
  induction es with
  | nil =>
    rw [foldAll] at h
    cases h
  | cons e rest ih =>
    rw [foldAll_cons] at h
    rcases List.mem_cons.mp h with rfl | h
    · exact ⟨e, List.mem_cons_self, rfl⟩
    · obtain ⟨e', he', hfold⟩ := ih h
      exact ⟨e', List.mem_cons_of_mem _ he', hfold⟩

/-- A literal, or the node with its children folded. -/
def FoldedInPlace (scope : Scope) (allowance : Allowance) (e result : Expr) : Prop :=
  (∃ v, result = literal v) ∨
    (result.head = e.head ∧ result.children = (foldAll scope allowance e.children).result)

theorem attempt_inPlace {e node : Expr} {operands : List Expr} (hhead : node.head = e.head)
    (hchildren : node.children = (foldAll scope allowance e.children).result) :
    FoldedInPlace scope allowance e (attempt scope allowance node operands).result := by
  rcases attempt_result scope allowance node operands with h | ⟨v, -, h⟩
  · rw [h]
    exact Or.inr ⟨hhead, hchildren⟩
  · exact Or.inl ⟨v, h⟩

theorem attemptCall_inPlace (name : String) (params : List Expr) :
    FoldedInPlace scope allowance (call name params)
      (attemptCall scope allowance name (foldAll scope allowance params).result).result := by
  have hhead : (call name (foldAll scope allowance params).result).head = (call name params).head := by
    rw [head, head, length_foldAll]
  unfold attemptCall
  split
  · exact Or.inr ⟨hhead, rfl⟩
  · split
    · exact attempt_inPlace hhead rfl
    · exact Or.inr ⟨hhead, rfl⟩

/-- A node is folded in place, or it is a conditional and makes way for one of its children, folded. -/
theorem fold_cases (e : Expr) :
    FoldedInPlace scope allowance e (fold scope allowance e).result ∨
      ∃ op, e.head = .ternary op ∧
        ∃ child ∈ e.children, (fold scope allowance e).result = (fold scope allowance child).result := by
  have hnil : (foldAll scope allowance []).result = [] := by
    rw [foldAll]
    rfl
  cases e with
  | literal v =>
    rw [fold]
    exact Or.inl (Or.inl ⟨v, rfl⟩)
  | «variable» name =>
    rw [fold]
    exact Or.inl (Or.inr ⟨rfl, hnil.symm⟩)
  | unary op operand =>
    rw [fold_unary]
    exact Or.inl (attempt_inPlace rfl (by simp only [children, foldAll_cons, hnil]))
  | binary op left right =>
    rw [fold_binary]
    exact Or.inl (attempt_inPlace rfl (by simp only [children, foldAll_cons, hnil]))
  | array elements =>
    rw [fold_array]
    exact Or.inl (attempt_inPlace rfl rfl)
  | call name params =>
    rw [fold_call]
    exact Or.inl (attemptCall_inPlace name params)
  | ternary op condition thenBranch elseBranch =>
    rw [fold_ternary]
    unfold chooseBranch
    split
    · exact Or.inr ⟨op, rfl, thenBranch, by simp [children], rfl⟩
    · exact Or.inr ⟨op, rfl, elseBranch, by simp [children], rfl⟩
    · exact Or.inl (Or.inr ⟨rfl, by simp only [children, foldAll_cons, hnil, Folded.same]⟩)

/-- **Folding brings in nothing but literals.** -/
theorem head_of_occurs_fold {p : Expr} (e : Expr) :
    Occurs p (fold scope allowance e).result → p.head = .literal ∨ ∃ q, Occurs q e ∧ q.head = p.head := by
  induction e using children_induction with
  | h e ih =>
    intro h
    -- what stands in a folded child comes from the child
    have hlift : ∀ child ∈ e.children, Occurs p (fold scope allowance child).result →
        p.head = .literal ∨ ∃ q, Occurs q e ∧ q.head = p.head := by
      intro child hchild hp
      rcases ih child hchild hp with hliteral | ⟨q, hq, hhead⟩
      · exact Or.inl hliteral
      · exact Or.inr ⟨q, hq.of_child hchild, hhead⟩
    rcases @fold_cases scope allowance e with (⟨v, hv⟩ | ⟨hhead, hchildren⟩) | ⟨op, -, child, hchild, hfold⟩
    · rw [hv] at h
      cases h
      exact Or.inl rfl
    · rcases h.eq_or_in_child with rfl | ⟨x, hx, hp⟩
      · exact Or.inr ⟨e, .whole, hhead.symm⟩
      · rw [hchildren] at hx
        obtain ⟨child, hchild, rfl⟩ := mem_foldAll hx
        exact hlift child hchild hp
    · rw [hfold] at h
      exact hlift child hchild h

/-! ## What folding leaves absent -/

/-- The expression contains no conditional. -/
def Branchless (e : Expr) : Prop :=
  ∀ p op, Occurs p e → p.head ≠ .ternary op

theorem NoChoice.fold {e : Expr} (h : NoChoice e) : NoChoice (fold scope allowance e).result := by
  intro name params hp
  rcases head_of_occurs_fold e hp with hliteral | ⟨q, hq, hhead⟩
  · cases hliteral
  · obtain ⟨params', rfl, hcount⟩ := eq_call_of_head hhead
    rw [← hcount]
    exact h name params' hq

/-- A node with three parts in a folded expression has a counterpart in the expression. -/
theorem exists_ternary_of_fold {p e : Expr} {op : Operator} (hp : Occurs p (fold scope allowance e).result)
    (hternary : p.head = .ternary op) : ∃ q, Occurs q e ∧ q.head = .ternary op := by
  rcases head_of_occurs_fold e hp with hliteral | ⟨q, hq, hhead⟩
  · rw [hliteral] at hternary
    cases hternary
  · exact ⟨q, hq, hhead.trans hternary⟩

theorem Branchless.fold {e : Expr} (h : Branchless e) : Branchless (fold scope allowance e).result := by
  intro p op hp hternary
  obtain ⟨q, hq, hhead⟩ := exists_ternary_of_fold hp hternary
  exact h q op hq hhead

theorem Branchless.of_children {e : Expr} (hnode : ∀ op, e.head ≠ .ternary op)
    (hchildren : ∀ child ∈ e.children, Branchless child) : Branchless e := by
  intro p op hp
  rcases hp.eq_or_in_child with rfl | ⟨child, hchild, hp⟩
  · exact hnode op
  · exact hchildren child hchild p op hp

theorem properAll_iff {es : List Expr} : ProperAll es ↔ ∀ e ∈ es, e.Proper := by
  induction es with
  | nil => simp [ProperAll]
  | cons e rest ih => simp [ProperAll, ih]

theorem proper_iff_children (e : Expr) :
    e.Proper ↔ (∀ op, e.head = .ternary op → op = .conditional) ∧ ∀ child ∈ e.children, child.Proper := by
  cases e with
  | ternary op condition thenBranch elseBranch => simp [Proper, head, children]
  | _ => simp [Proper, head, children, properAll_iff]

/-- Every node with three parts is a conditional: said of the nodes one by one. -/
theorem proper_iff (e : Expr) :
    e.Proper ↔ ∀ p op, Occurs p e → p.head = .ternary op → op = .conditional := by
  induction e using children_induction with
  | h e ih =>
    rw [proper_iff_children]
    constructor
    · rintro ⟨hnode, hchildren⟩ p op hp
      rcases hp.eq_or_in_child with rfl | ⟨child, hchild, hp⟩
      · exact hnode op
      · exact (ih child hchild).mp (hchildren child hchild) p op hp
    · intro h
      refine ⟨fun op => h e op .whole, ?_⟩
      intro child hchild
      exact (ih child hchild).mpr fun p op hp => h p op (hp.of_child hchild)

theorem Branchless.proper {e : Expr} (h : Branchless e) : e.Proper :=
  (proper_iff e).mpr fun p op hp hhead => absurd hhead (h p op hp)

theorem Proper.fold {e : Expr} (h : e.Proper) : (fold scope allowance e).result.Proper := by
  rw [proper_iff] at h ⊢
  intro p op hp hternary
  obtain ⟨q, hq, hhead⟩ := exists_ternary_of_fold hp hternary
  exact h q op hq hhead

/-! ## Making conditionals -/

/-- Making a conditional of a node, or leaving it, adds no other node with three parts. -/
theorem head_lazy (e : Expr) : e.lazy.head = .ternary .conditional ∨ e.lazy.head = e.head := by
  cases e with
  | call name params =>
    have hkept : (call name (lazyAll params)).head = (call name params).head := by
      rw [head, head, length_lazyAll]
    rw [lazy]
    unfold conditionalOf
    split
    · split
      · exact Or.inl rfl
      · exact Or.inr hkept
    · exact Or.inr hkept
  | _ => exact Or.inr rfl

theorem Proper.lazy (e : Expr) : e.Proper → e.lazy.Proper := by
  induction e using children_induction with
  | h e ih =>
    intro h
    obtain ⟨hnode, hchildren⟩ := (proper_iff_children e).mp h
    refine (proper_iff_children _).mpr ⟨?_, ?_⟩
    · intro op hop
      rcases head_lazy e with hmade | hkept
      · rw [hmade] at hop
        exact (Head.ternary.inj hop).symm
      · exact hnode op (hkept.symm.trans hop)
    · intro child hchild
      rw [children_lazy] at hchild
      obtain ⟨e', he', rfl⟩ := mem_lazyAll hchild
      exact ih e' he' (hchildren e' he')

/-- Where making conditionals changes nothing, there is nothing to make one of. -/
theorem noChoice_of_lazy_eq (e : Expr) : e.lazy = e → NoChoice e := by
  induction e using children_induction with
  | h e ih =>
    intro h name params hp
    rcases hp.eq_or_in_child with rfl | ⟨child, hchild, hp⟩
    · have hkept := (lazy_call_kept h).2
      unfold conditionalOf at hkept
      split at hkept
      · split at hkept
        · cases hkept
        · next hname => simp [becomesConditional, hname]
      · next hcount =>
        rw [becomesConditional, Bool.and_eq_false_iff]
        left
        rw [beq_eq_false_iff_ne]
        intro hthree
        obtain ⟨condition, thenBranch, elseBranch, rfl⟩ := List.length_eq_three.mp hthree
        exact hcount _ _ _ rfl
    · have hall : lazyAll e.children = e.children := by rw [← children_lazy, h]
      exact ih child hchild (lazy_of_lazyAll hall child hchild) name params hp

/-- Once conditionals are made there is nothing left to make one of. -/
theorem noChoice_lazy (e : Expr) : NoChoice e.lazy :=
  noChoice_of_lazy_eq e.lazy (lazy_lazy e)

theorem round_of_noChoice {e : Expr} (h : NoChoice e) :
    round scope allowance e = (fold scope allowance e).result := by
  rw [round, h.fold.lazy_eq]

/-! ## Only conditionals come loose -/

theorem ternary_of_loosened {e : Expr} (h : Loosened scope allowance e) : ∃ op, e.head = .ternary op := by
  obtain ⟨hne, name, hfold, -⟩ := h
  rcases @fold_cases scope allowance e with (⟨v, hv⟩ | ⟨hhead, -⟩) | ⟨op, hop, -⟩
  · rw [hv] at hfold
    cases hfold
  · rw [hfold] at hhead
    exact absurd (eq_variable_of_head hhead.symm) (hne name)
  · exact ⟨op, hop⟩

mutual

/-- An operand that comes loose stands in the expression. -/
theorem exists_loosened : (e : Expr) → ReachesLoosened scope allowance e →
    ∃ q, Occurs q e ∧ Loosened scope allowance q
  | literal _, h | .variable _, h => False.elim h
  | unary op operand, h => by
    obtain ⟨q, hq, hloose⟩ := exists_loosened operand h
    exact ⟨q, .operand hq, hloose⟩
  | binary op left right, h => by
    rcases h with h | ⟨_, h⟩ | ⟨_, h | ⟨_, h⟩⟩
    · obtain ⟨q, hq, hloose⟩ := exists_loosened left h
      exact ⟨q, .left hq, hloose⟩
    · exact ⟨left, .left .whole, h⟩
    · obtain ⟨q, hq, hloose⟩ := exists_loosened right h
      exact ⟨q, .right hq, hloose⟩
    · exact ⟨right, .right .whole, h⟩
  | ternary op condition thenBranch elseBranch, h => by
    rcases h with h | ⟨_, h⟩ | ⟨_, h⟩
    · obtain ⟨q, hq, hloose⟩ := exists_loosened condition h
      exact ⟨q, .condition hq, hloose⟩
    · obtain ⟨q, hq, hloose⟩ := exists_loosened thenBranch h
      exact ⟨q, .thenBranch hq, hloose⟩
    · obtain ⟨q, hq, hloose⟩ := exists_loosened elseBranch h
      exact ⟨q, .elseBranch hq, hloose⟩
  | array elements, h => by
    obtain ⟨e, he, q, hq, hloose⟩ := exists_loosened_among elements h
    exact ⟨q, .element he hq, hloose⟩
  | call name params, h => by
    obtain ⟨e, he, q, hq, hloose⟩ := exists_loosened_among params h.2
    exact ⟨q, .param he hq, hloose⟩

theorem exists_loosened_among : (es : List Expr) → ReachesLoosenedAmong scope allowance es →
    ∃ e ∈ es, ∃ q, Occurs q e ∧ Loosened scope allowance q
  | [], h => False.elim h
  | e :: rest, h => by
    rcases h with h | ⟨_, h⟩
    · exact ⟨e, List.mem_cons_self, exists_loosened e h⟩
    · obtain ⟨e', he', hq⟩ := exists_loosened_among rest h
      exact ⟨e', List.mem_cons_of_mem _ he', hq⟩

end

theorem Branchless.not_reachesLoosened {e : Expr} (h : Branchless e) :
    ¬ ReachesLoosened scope allowance e := by
  intro hreaches
  obtain ⟨q, hq, hloose⟩ := exists_loosened e hreaches
  obtain ⟨op, hop⟩ := ternary_of_loosened hloose
  exact h q op hq hop

/-! ## Settling -/

/-- Settling comes to an expression whose evaluation reaches a loosened operand. -/
inductive Loosens (scope : Scope) (allowance : Allowance) : Expr → Prop where
  | now {e : Expr} (h : ReachesLoosened scope allowance e) : Loosens scope allowance e
  | later {e : Expr} (hchanged : (fold scope allowance e).changed = true)
      (h : Loosens scope allowance (round scope allowance e)) : Loosens scope allowance e

/-- **Settling keeps the outcome** of an expression whose conditionals are made, unless it loosens an operand
on the way. -/
theorem outcome_settle (e : Expr) (hp : e.Proper) (hc : NoChoice e) (hn : ¬ Loosens scope allowance e) :
    outcome scope (settle scope allowance e).1 = outcome scope e := by
  have hfold : outcome scope (round scope allowance e) = outcome scope e := by
    rw [round_of_noChoice hc]
    exact outcome_fold e hp fun h => hn (.now h)
  by_cases hchanged : (fold scope allowance e).changed = true
  · have hround : ¬ Loosens scope allowance (round scope allowance e) :=
      fun h => hn (.later hchanged h)
    rw [settle_of_changed hchanged, ← hfold]
    rw [round_of_noChoice hc] at hround ⊢
    exact outcome_settle _ hp.fold hc.fold hround
  · rw [settle_of_unchanged (Bool.eq_false_iff.mpr hchanged), hfold]
termination_by e.work
decreasing_by exact fold_work hchanged

/-- An evaluation of which settling loosens an operand is about an undefined variable. -/
theorem outcome_of_loosens {e : Expr} (h : Loosens scope allowance e) :
    e.Proper → NoChoice e → ∃ name, outcome scope e = .error (.undefinedVariable name) := by
  induction h with
  | now h => exact fun hp _ => outcome_of_reachesLoosened _ hp h
  | @later e hchanged _ ih =>
    intro hp hc
    by_cases hreaches : ReachesLoosened scope allowance e
    · exact outcome_of_reachesLoosened e hp hreaches
    · -- this round keeps the outcome, so it is the one that the next round starts from
      rw [round_of_noChoice hc, outcome_fold e hp hreaches] at ih
      exact ih hp.fold hc.fold

theorem Branchless.not_loosens {e : Expr} (h : Loosens scope allowance e) :
    NoChoice e → ¬ Branchless e := by
  induction h with
  | now h => exact fun _ hb => hb.not_reachesLoosened h
  | @later e hchanged _ ih =>
    intro hc hb
    rw [round_of_noChoice hc] at ih
    exact ih hc.fold hb.fold

/-- **Without conditionals, and nothing to make one of, the outcome stays.** -/
theorem Branchless.outcome_settle {e : Expr} (hb : Branchless e) (hc : NoChoice e) :
    outcome scope (settle scope allowance e).1 = outcome scope e :=
  Expr.outcome_settle e hb.proper hc fun h => Branchless.not_loosens h hc hb

end Reckon.Expr
