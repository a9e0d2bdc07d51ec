import Reckon.Eval.Basic
import Reckon.Optimize.Conditional

/-!
# `Optimize.Fold` — constants evaluated ahead of time

An operation, a list or a call of a pure function whose operands are all literals is replaced by its
value, from the inside out. If its evaluation fails it is left alone, so the error comes up when the
expression is evaluated. A conditional on a literal truth value is replaced by the chosen branch.

Main statement: when a pass changes something, less work is left (`Expr.fold_work`); that is why
repeating it ends.
-/

namespace Reckon

/-- A folded expression, whether anything changed, and what happened on the way. -/
structure Folded (α : Type) where
  result : α
  changed : Bool
  trace : List Event

namespace Folded

variable {α β : Type}

/-- Nothing changed, nothing happened. -/
def same (a : α) : Folded α := ⟨a, false, []⟩

/-- One pass after another. -/
def bind (f : Folded α) (next : α → Folded β) : Folded β :=
  let g := next f.result
  ⟨g.result, f.changed || g.changed, f.trace ++ g.trace⟩

/-- A function of the result. -/
def map (g : α → β) (f : Folded α) : Folded β :=
  ⟨g f.result, f.changed, f.trace⟩

end Folded

namespace Expr

/-- The value of an expression as a literal, if its operands are all literals and it has a value. -/
def attempt (scope : Scope) (allowance : Allowance) (e : Expr) (operands : List Expr) :
    Folded Expr :=
  if (literals? operands).isSome then
    let outcome := eval scope allowance e
    match outcome.result with
    | .ok value => ⟨literal value, true, outcome.trace⟩
    | .error cause => ⟨e, false, outcome.trace ++ [.kept cause]⟩
  else .same e

/-- A conditional with folded parts: the chosen branch when the condition is a literal truth value. -/
def chooseBranch (op : Operator) (condition thenBranch elseBranch : Expr) : Folded Expr :=
  match condition with
  | literal (.boolean true) => ⟨thenBranch, true, []⟩
  | literal (.boolean false) => ⟨elseBranch, true, []⟩
  | condition => .same (ternary op condition thenBranch elseBranch)

/-- A call with folded parameters: its value when the function is known, pure, and takes them. -/
def attemptCall (scope : Scope) (allowance : Allowance) (name : String) (params : List Expr) :
    Folded Expr :=
  match scope.callable? name with
  | none => .same (call name params)
  | some f =>
    if f.pure && f.arity.accepts params.length then
      attempt scope allowance (call name params) params
    else .same (call name params)

mutual

/-- The expression with constants evaluated, in one pass. -/
def fold (scope : Scope) (allowance : Allowance) : Expr → Folded Expr
  | literal value => .same (literal value)
  | .variable name => .same (.variable name)
  | unary op operand =>
    (fold scope allowance operand).bind fun operand =>
      attempt scope allowance (unary op operand) [operand]
  | binary op left right =>
    (fold scope allowance left).bind fun left =>
      (fold scope allowance right).bind fun right =>
        attempt scope allowance (binary op left right) [left, right]
  | ternary op condition thenBranch elseBranch =>
    (fold scope allowance condition).bind fun condition =>
      (fold scope allowance thenBranch).bind fun thenBranch =>
        (fold scope allowance elseBranch).bind fun elseBranch =>
          chooseBranch op condition thenBranch elseBranch
  | array elements =>
    (foldAll scope allowance elements).bind fun elements =>
      attempt scope allowance (array elements) elements
  | call name params =>
    (foldAll scope allowance params).bind fun params => attemptCall scope allowance name params

/-- Expressions with constants evaluated, from left to right. -/
def foldAll (scope : Scope) (allowance : Allowance) : List Expr → Folded (List Expr)
  | [] => .same []
  | e :: rest =>
    (fold scope allowance e).bind fun e =>
      (foldAll scope allowance rest).map fun rest => e :: rest

end

end Expr

/-! ## A change leaves less work -/

/-- At most `bound` is left, and less when something changed. -/
def Shrunk (left : Nat) (changed : Bool) (bound : Nat) : Prop :=
  left ≤ bound ∧ (changed = true → left < bound)

theorem Shrunk.same (n : Nat) : Shrunk n false n :=
  ⟨Nat.le_refl n, fun h => absurd h Bool.false_ne_true⟩

/-- What is left of one part goes into the bound of what comes after it. -/
theorem Shrunk.trans {m n bound rest : Nat} {changed changed' : Bool} (h : Shrunk m changed bound)
    (h' : Shrunk n changed' (m + rest)) : Shrunk n (changed || changed') (bound + rest) := by
  have hrest : m + rest ≤ bound + rest := Nat.add_le_add_right h.1 rest
  refine ⟨Nat.le_trans h'.1 hrest, ?_⟩
  intro hchanged
  rcases Bool.or_eq_true_iff.mp hchanged with hfirst | hsecond
  · exact Nat.lt_of_le_of_lt h'.1 (Nat.add_lt_add_right (h.2 hfirst) rest)
  · exact Nat.lt_of_lt_of_le (h'.2 hsecond) hrest

namespace Folded

variable {α β : Type} {size : α → Nat} {size' : β → Nat} {bound rest : Nat} {f : Folded α}

/-- The result of a pass is no larger than the bound, and smaller when something changed. -/
def Within (size : α → Nat) (f : Folded α) (bound : Nat) : Prop :=
  Shrunk (size f.result) f.changed bound

theorem Within.same (size : α → Nat) (a : α) : Within size (.same a) (size a) :=
  Shrunk.same (size a)

theorem Within.bind {next : α → Folded β} (h : Within size f bound)
    (hn : ∀ a, Within size' (next a) (size a + rest)) : Within size' (f.bind next) (bound + rest) :=
  h.trans (hn f.result)

theorem Within.map {g : α → β} (hsize : ∀ a, size' (g a) = size a + rest) (h : Within size f bound) :
    Within size' (f.map g) (bound + rest) := by
  have hsame : Shrunk (size' (g f.result)) false (size f.result + rest) := hsize f.result ▸ .same _
  have hboth := Shrunk.trans h hsame
  rw [Bool.or_false] at hboth
  exact hboth

end Folded

namespace Expr

open Folded (Within)

variable {scope : Scope} {allowance : Allowance}

/-- The work of an operation, with the operand that is folded last in front. -/
theorem work_binary (op : Operator) (left right : Expr) :
    (binary op left right).work = right.work + (left.work + 1) := by
  rw [work]
  omega

theorem work_ternary (op : Operator) (condition thenBranch elseBranch : Expr) :
    (ternary op condition thenBranch elseBranch).work =
      elseBranch.work + (thenBranch.work + (condition.work + 1)) := by
  rw [work]
  omega

theorem attempt_within {e : Expr} (operands : List Expr) (h : 0 < e.work) :
    Within work (attempt scope allowance e operands) e.work := by
  unfold attempt
  split
  · dsimp only
    split
    · exact ⟨Nat.zero_le _, fun _ => h⟩
    · exact .same work e
  · exact .same work e

theorem attemptCall_within (name : String) (params : List Expr) :
    Within work (attemptCall scope allowance name params) (workAll params + 1) := by
  unfold attemptCall
  split
  · exact .same work (call name params)
  · split
    · exact attempt_within params (Nat.succ_pos _)
    · exact .same work (call name params)

theorem chooseBranch_within (op : Operator) (condition thenBranch elseBranch : Expr) :
    Within work (chooseBranch op condition thenBranch elseBranch)
      (elseBranch.work + (thenBranch.work + (condition.work + 1))) := by
  have hchosen : ∀ branch : Expr, branch.work ≤ elseBranch.work + thenBranch.work →
      Within work ⟨branch, true, []⟩ (elseBranch.work + (thenBranch.work + (condition.work + 1))) :=
    fun branch hle => ⟨show branch.work ≤ _ by omega, fun _ => show branch.work < _ by omega⟩
  unfold chooseBranch
  split
  · exact hchosen thenBranch (Nat.le_add_left _ _)
  · exact hchosen elseBranch (Nat.le_add_right _ _)
  · rw [← work_ternary op]
    exact .same work _

mutual

/-- The parts are folded before the whole: what is left of one is in the bound of the next. -/
theorem fold_within : (e : Expr) → Within work (fold scope allowance e) e.work
  | literal v => by
    rw [fold]
    exact .same work (literal v)
  | .variable name => by
    rw [fold]
    exact .same work (.variable name)
  | unary op operand => by
    rw [fold]
    exact (fold_within operand).bind fun x => attempt_within _ (Nat.succ_pos _)
  | binary op left right => by
    -- the operand that is folded first stands first in the bound
    rw [fold, work, Nat.add_assoc]
    refine (fold_within left).bind fun x => ?_
    rw [Nat.add_left_comm]
    refine (fold_within right).bind fun y => ?_
    rw [← work_binary op]
    exact attempt_within [x, y] (Nat.succ_pos _)
  | ternary op condition thenBranch elseBranch => by
    rw [fold, work, Nat.add_assoc, Nat.add_assoc]
    refine (fold_within condition).bind fun x => ?_
    rw [Nat.add_left_comm]
    refine (fold_within thenBranch).bind fun y => ?_
    rw [Nat.add_left_comm x.work, Nat.add_left_comm y.work]
    exact (fold_within elseBranch).bind fun z => chooseBranch_within op x y z
  | array elements => by
    rw [fold]
    exact (foldAll_within elements).bind fun xs => attempt_within xs (Nat.succ_pos _)
  | call name params => by
    rw [fold]
    exact (foldAll_within params).bind fun xs => attemptCall_within name xs

theorem foldAll_within : (es : List Expr) → Within workAll (foldAll scope allowance es) (workAll es)
  | [] => by
    rw [foldAll]
    exact .same workAll []
  | e :: rest => by
    rw [foldAll, workAll]
    refine (fold_within e).bind fun x => ?_
    rw [Nat.add_comm]
    refine (foldAll_within rest).map fun xs => ?_
    rw [workAll, Nat.add_comm]

end

/-- A pass that changes something leaves less work. -/
theorem fold_work {e : Expr} (h : (fold scope allowance e).changed = true) :
    (fold scope allowance e).result.work < e.work :=
  (fold_within e).2 h

end Expr

end Reckon
