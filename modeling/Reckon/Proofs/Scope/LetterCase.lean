import Reckon.Check
import Reckon.Proofs.Eval.Outcome
import Reckon.Proofs.Optimize.NormalForm

/-!
# `Proofs.Scope.LetterCase` — the letter case of names is immaterial

Two expressions are compared that differ in the letter case of their names at most, in two scopes that
agree on these names. `Expr.Alike` relates such expressions; it carries what the scopes agree on, so that
no stage has to ask which names are left of an expression after rewriting it.

Every stage hands the relation on: evaluating ends in the same value or in errors of the same kind
(`eval_alike`), looking over finds the same problem (`validate_alike`), conversion, folding and optimizing
give expressions that are again alike (`lazy_alike`, `fold_alike`, `settle_alike`).

Main statement: `letterCase_immaterial`.
-/

namespace Reckon

/-- The names differ in letter case at most. -/
def SameName (m n : String) : Prop :=
  Text.lower m = Text.lower n

theorem SameName.of_lower {m n x : String} (h : Text.lower m = x) (h' : Text.lower n = x) :
    SameName m n :=
  h.trans h'.symm

namespace Scope

variable {s s' : Scope} {m n : String}

/-- The scopes give the name the same value and the same function, if any. -/
structure AgreeOn (s s' : Scope) (name : String) : Prop where
  value : s.value? name = s'.value? name
  callable : s.callable? name = s'.callable? name

theorem AgreeOn.of_eq {v : Option Value} {f : Option Callable} (hv : s.value? m = v)
    (hv' : s'.value? m = v) (hf : s.callable? m = f) (hf' : s'.callable? m = f) : s.AgreeOn s' m :=
  ⟨hv.trans hv'.symm, hf.trans hf'.symm⟩

theorem AgreeOn.value_eq (h : s.AgreeOn s' m) (hname : SameName m n) :
    s.value? m = s'.value? n := by
  rw [h.value, value?, value?, hname]

theorem AgreeOn.callable_eq (h : s.AgreeOn s' m) (hname : SameName m n) :
    s.callable? m = s'.callable? n := by
  rw [h.callable, callable?, callable?, hname]

end Scope

namespace Expr

/-! ## Expressions that are alike -/

mutual

/-- The expressions differ in the letter case of names at most, and `p` holds of the names of the first. -/
inductive Alike (p : String → Prop) : Expr → Expr → Prop where
  | literal (v : Value) : Alike p (literal v) (literal v)
  | variable {m n : String} (hname : SameName m n) (hp : p m) :
      Alike p (.variable m) (.variable n)
  | call {m n : String} {es es' : List Expr} (hname : SameName m n) (hp : p m)
      (params : AlikeAll p es es') : Alike p (call m es) (call n es')
  | unary {op : Operator} {e e' : Expr} (operand : Alike p e e') :
      Alike p (unary op e) (unary op e')
  | binary {op : Operator} {l l' r r' : Expr} (left : Alike p l l') (right : Alike p r r') :
      Alike p (binary op l r) (binary op l' r')
  | array {es es' : List Expr} (elements : AlikeAll p es es') : Alike p (array es) (array es')
  | ternary {op : Operator} {c c' t t' f f' : Expr} (condition : Alike p c c')
      (thenBranch : Alike p t t') (elseBranch : Alike p f f') :
      Alike p (ternary op c t f) (ternary op c' t' f')

/-- Expressions that are alike one by one. -/
inductive AlikeAll (p : String → Prop) : List Expr → List Expr → Prop where
  | nil : AlikeAll p [] []
  | cons {e e' : Expr} {es es' : List Expr} (first : Alike p e e') (rest : AlikeAll p es es') :
      AlikeAll p (e :: es) (e' :: es')

end

/-- The expressions differ in the letter case of names at most. -/
abbrev SameButCase : Expr → Expr → Prop :=
  Alike fun _ => True

mutual

/-- The names of variables and called functions in an expression. -/
def names : Expr → List String
  | literal _ => []
  | .variable name => [name]
  | call name params => name :: namesAll params
  | unary _ operand => operand.names
  | binary _ left right => left.names ++ right.names
  | array elements => namesAll elements
  | ternary _ condition thenBranch elseBranch =>
    condition.names ++ (thenBranch.names ++ elseBranch.names)

/-- The names in expressions. -/
def namesAll : List Expr → List String
  | [] => []
  | e :: rest => e.names ++ namesAll rest

end

variable {p q : String → Prop}

mutual

/-- What holds of the names of an expression may be carried by the relation. -/
theorem Alike.carrying {e e' : Expr} :
    Alike p e e' → (∀ name ∈ e.names, q name) → Alike q e e'
  | .literal v, _ => .literal v
  | .variable hname _, hq => .variable hname (hq _ List.mem_cons_self)
  | .call hname _ params, hq =>
    have hq := List.forall_mem_cons.mp hq
    .call hname hq.1 (params.carrying hq.2)
  | .unary operand, hq => .unary (operand.carrying hq)
  | .binary left right, hq =>
    have hq := List.forall_mem_append.mp hq
    .binary (left.carrying hq.1) (right.carrying hq.2)
  | .array elements, hq => .array (elements.carrying hq)
  | .ternary condition thenBranch elseBranch, hq =>
    have hq := List.forall_mem_append.mp hq
    have hq' := List.forall_mem_append.mp hq.2
    .ternary (condition.carrying hq.1) (thenBranch.carrying hq'.1) (elseBranch.carrying hq'.2)

theorem AlikeAll.carrying {es es' : List Expr} :
    AlikeAll p es es' → (∀ name ∈ namesAll es, q name) → AlikeAll q es es'
  | .nil, _ => .nil
  | .cons first rest, hq =>
    have hq := List.forall_mem_append.mp hq
    .cons (first.carrying hq.1) (rest.carrying hq.2)

end

theorem Alike.sameButCase {e e' : Expr} (h : Alike p e e') : SameButCase e e' :=
  h.carrying fun _ _ => trivial

theorem AlikeAll.length_eq {es es' : List Expr} : AlikeAll p es es' → es.length = es'.length
  | .nil => rfl
  | .cons _ rest => congrArg (· + 1) rest.length_eq

end Expr

/-! ## Evaluation -/

/-- The same value, or errors of the same kind. -/
inductive SameResult {α : Type} : Except EvalError α → Except EvalError α → Prop where
  | ok (a : α) : SameResult (.ok a) (.ok a)
  | error {err err' : EvalError} (h : err.kind = err'.kind) : SameResult (.error err) (.error err')

namespace Traced

variable {α β : Type} {t t' : Traced α}

/-- The evaluations end in the same value, or in errors of the same kind. -/
def Alike (t t' : Traced α) : Prop :=
  SameResult t.result t'.result

theorem Alike.refl (t : Traced α) : t.Alike t := by
  unfold Alike
  cases t.result with
  | ok a => exact .ok a
  | error err => exact .error rfl

theorem Alike.fail {err err' : EvalError} (h : err.kind = err'.kind) :
    (fail err : Traced α).Alike (fail err') :=
  .error h

theorem Alike.bind {next next' : α → Traced β} (h : t.Alike t')
    (hnext : ∀ a, (next a).Alike (next' a)) : (t.bind next).Alike (t'.bind next') := by
  unfold Alike at h ⊢
  rw [result_bind, result_bind]
  generalize t.result = r at h ⊢
  generalize t'.result = r' at h ⊢
  cases h with
  | ok a => exact hnext a
  | error hkind => exact .error hkind

theorem Alike.map (f : α → β) (h : t.Alike t') : (t.map f).Alike (t'.map f) :=
  h.bind fun _ => .refl _

theorem Alike.within (a : Allowance) {body body' : Allowance → Traced α}
    (h : ∀ inner, (body inner).Alike (body' inner)) : (a.within body).Alike (a.within body') := by
  unfold Allowance.within
  cases a.descend with
  | none => exact .refl _
  | some inner => exact h inner

end Traced

/-- A function on the same parameters, called by names that differ in letter case. -/
theorem invoke_alike (f : Callable) (m n : String) (params : List Value) :
    (invoke f m params).Alike (invoke f n params) := by
  unfold invoke Traced.Alike
  dsimp only
  cases f.body params with
  | ok v => exact .ok v
  | error cause => exact .error rfl

namespace Expr

variable {s s' : Scope} {p : String → Prop} {e e' : Expr} {es es' : List Expr}

theorem tolerant_alike (h : Alike (s.AgreeOn s') e e') {t t' : Traced Value} (ht : t.Alike t') :
    (tolerant s e t).Alike (tolerant s' e' t') := by
  cases h with
  | «variable» hname hp =>
    unfold tolerant
    dsimp only
    rw [hp.value_eq hname]
    exact .refl _
  | _ => exact ht.map some

mutual

/-- **Expressions that are alike evaluate to the same value, or fail in the same way.** -/
theorem eval_alike {e e' : Expr} :
    Alike (s.AgreeOn s') e e' → ∀ a, (eval s a e).Alike (eval s' a e')
  | .literal v, a => by
    rw [eval_literal, eval_literal]
    exact .refl _
  | .variable hname hp, a => by
    rw [eval_variable, eval_variable, hp.value_eq hname]
    refine Traced.Alike.within a ?_
    intro inner
    split
    · exact .refl _
    · exact .fail rfl
  | .unary operand, a => by
    rw [eval_unary, eval_unary]
    exact .within a fun inner => (eval_alike operand inner).bind fun _ => .refl _
  | @Alike.binary _ op _ _ _ _ left right, a => by
    rw [eval, eval]
    refine Traced.Alike.within a ?_
    intro inner
    have hl := eval_alike left inner
    have hr := eval_alike right inner
    cases op with
    | and =>
      refine (hl.bind fun _ => .refl _).bind ?_
      intro holds
      cases holds with
      | true => exact (hr.bind fun _ => .refl _).map _
      | false => exact .refl _
    | or =>
      refine (hl.bind fun _ => .refl _).bind ?_
      intro holds
      cases holds with
      | true => exact .refl _
      | false => exact (hr.bind fun _ => .refl _).map _
    | equal | notEqual =>
      exact (tolerant_alike left hl).bind fun _ => (tolerant_alike right hr).map _
    | _ => exact hl.bind fun _ => hr.bind fun _ => .refl _
  | .array elements, a => by
    rw [eval_array, eval_array]
    exact .within a fun inner => (evalAll_alike elements inner).map _
  | @Alike.ternary _ op _ _ _ _ _ _ condition thenBranch elseBranch, a => by
    rw [eval, eval]
    refine Traced.Alike.within a ?_
    intro inner
    cases op with
    | conditional =>
      refine ((eval_alike condition inner).bind fun _ => .refl _).bind ?_
      intro holds
      cases holds with
      | true => exact eval_alike thenBranch inner
      | false => exact eval_alike elseBranch inner
    | _ => exact .refl _
  | .call hname hp params, a => by
    rw [eval_call, eval_call, hp.callable_eq hname, params.length_eq]
    refine Traced.Alike.within a ?_
    intro inner
    split
    · exact .fail rfl
    · split
      · exact (evalAll_alike params inner).bind fun vs => invoke_alike _ _ _ vs
      · exact .fail rfl

theorem evalAll_alike {es es' : List Expr} :
    AlikeAll (s.AgreeOn s') es es' → ∀ a, (evalAll s a es).Alike (evalAll s' a es')
  | .nil, a => by
    rw [evalAll, evalAll]
    exact .refl _
  | .cons first rest, a => by
    rw [evalAll, evalAll]
    exact (eval_alike first a).bind fun _ => (evalAll_alike rest a).map _

end

/-! ## Looking over -/

end Expr

/-- The problems are of one kind and say the same, but for the letter case of the name. -/
inductive Problem.Alike : Problem → Problem → Prop where
  | missingVariable {m n : String} (h : SameName m n) :
      Alike (.missingVariable m) (.missingVariable n)
  | missingFunction {m n : String} (h : SameName m n) :
      Alike (.missingFunction m) (.missingFunction n)
  | wrongCount {m n : String} (h : SameName m n) (expected : Arity) (found : Nat) :
      Alike (.wrongCount m expected found) (.wrongCount n expected found)

/-- No problem in either place, or problems that are alike. -/
abbrev SameProblem : Option Problem → Option Problem → Prop :=
  Option.Rel Problem.Alike

theorem SameProblem.or {x x' y y' : Option Problem} (h : SameProblem x x') (h' : SameProblem y y') :
    SameProblem (x.or y) (x'.or y') := by
  cases h with
  | some hxx => exact .some hxx
  | none => exact h'

theorem checkCall_alike {s s' : Scope} {m n : String} (hp : s.AgreeOn s' m) (hname : SameName m n)
    (count : Nat) : SameProblem (checkCall s m count) (checkCall s' n count) := by
  unfold checkCall
  rw [hp.callable_eq hname]
  split
  · exact .some (.missingFunction hname)
  · split
    · exact .none
    · exact .some (.wrongCount hname _ _)

namespace Expr

variable {s s' : Scope} {p : String → Prop}

mutual

theorem validate_alike (hc : s.AgreeOn s' conditionalName) {e e' : Expr} :
    Alike (s.AgreeOn s') e e' → SameProblem (validate s e) (validate s' e')
  | .literal v => by
    rw [validate, validate]
    exact .none
  | .variable hname hp => by
    rw [validate, validate, hp.value_eq hname]
    split
    · exact .none
    · exact .some (.missingVariable hname)
  | .call hname hp params => by
    rw [validate, validate, params.length_eq]
    exact (checkCall_alike hp hname _).or (validateAll_alike hc params)
  | .unary operand => by
    rw [validate, validate]
    exact validate_alike hc operand
  | .binary left right => by
    rw [validate, validate]
    exact (validate_alike hc left).or (validate_alike hc right)
  | .array elements => by
    rw [validate, validate]
    exact validateAll_alike hc elements
  | .ternary condition thenBranch elseBranch => by
    rw [validate, validate]
    exact (checkCall_alike hc rfl 3).or ((validate_alike hc condition).or
      ((validate_alike hc thenBranch).or (validate_alike hc elseBranch)))

theorem validateAll_alike (hc : s.AgreeOn s' conditionalName) {es es' : List Expr} :
    AlikeAll (s.AgreeOn s') es es' → SameProblem (validateAll s es) (validateAll s' es')
  | .nil => by
    rw [validateAll, validateAll]
    exact .none
  | .cons first rest => by
    rw [validateAll, validateAll]
    exact (validate_alike hc first).or (validateAll_alike hc rest)

end

theorem givesBoolean_alike {e e' : Expr} : Alike p e e' → e.givesBoolean = e'.givesBoolean
  | .literal _ | .variable _ _ | .call _ _ _ | .unary _ | .binary _ _ | .array _ => rfl
  | .ternary _ thenBranch elseBranch => by
    rw [givesBoolean, givesBoolean, givesBoolean_alike thenBranch, givesBoolean_alike elseBranch]

/-! ## Optimizing -/

theorem conditionalOf_alike {m n : String} {es es' : List Expr} (hname : SameName m n) (hp : p m)
    (h : AlikeAll p es es') : Alike p (conditionalOf m es) (conditionalOf n es') := by
  have hkept : Alike p (call m es) (call n es') := .call hname hp h
  -- only calls with three parameters become conditionals
  match h with
  | .nil | .cons _ .nil | .cons _ (.cons _ .nil) => exact hkept
  | .cons _ (.cons _ (.cons _ (.cons _ _))) => exact hkept
  | .cons condition (.cons thenBranch (.cons elseBranch .nil)) =>
    show Alike p (ite _ _ _) (ite _ _ _)
    rw [hname]
    split
    · exact .ternary condition thenBranch elseBranch
    · exact hkept

mutual

theorem lazy_alike {e e' : Expr} : Alike p e e' → Alike p e.lazy e'.lazy
  | .literal v => .literal v
  | .variable hname hp => .variable hname hp
  | .call hname hp params => conditionalOf_alike hname hp (lazyAll_alike params)
  | .unary operand => .unary (lazy_alike operand)
  | .binary left right => .binary (lazy_alike left) (lazy_alike right)
  | .array elements => .array (lazyAll_alike elements)
  | .ternary condition thenBranch elseBranch =>
    .ternary (lazy_alike condition) (lazy_alike thenBranch) (lazy_alike elseBranch)

theorem lazyAll_alike {es es' : List Expr} : AlikeAll p es es' → AlikeAll p (lazyAll es) (lazyAll es')
  | .nil => .nil
  | .cons first rest => .cons (lazy_alike first) (lazyAll_alike rest)

end

end Expr

/-- The two passes both changed something or neither did, and their results are related. -/
structure Folded.Both {α : Type} (R : α → α → Prop) (f f' : Folded α) : Prop where
  changed : f.changed = f'.changed
  result : R f.result f'.result

namespace Folded

variable {α β : Type} {R : α → α → Prop} {S : β → β → Prop} {f f' : Folded α}

theorem Both.same {a a' : α} (h : R a a') : Both R (same a) (same a') :=
  ⟨rfl, h⟩

theorem Both.bind {next next' : α → Folded β} (h : f.Both R f')
    (hnext : ∀ a a', R a a' → (next a).Both S (next' a')) :
    (f.bind next).Both S (f'.bind next') := by
  have hn := hnext _ _ h.result
  refine ⟨?_, hn.result⟩
  show (_ || _) = (_ || _)
  rw [h.changed, hn.changed]

theorem Both.map {g g' : α → β} (h : f.Both R f') (hg : ∀ a a', R a a' → S (g a) (g' a')) :
    (f.map g).Both S (f'.map g') :=
  ⟨h.changed, hg _ _ h.result⟩

end Folded

namespace Expr

open Reckon.Folded (Both)

variable {s s' : Scope} {p : String → Prop}

theorem literal?_alike {e e' : Expr} (h : Alike p e e') : e.literal? = e'.literal? := by
  cases h <;> rfl

theorem literals?_alike {es es' : List Expr} (h : AlikeAll p es es') :
    literals? es = literals? es' := by
  induction es generalizing es' with
  | nil =>
    cases h
    rfl
  | cons e rest ih =>
    cases h with
    | cons first hrest => rw [literals?, literals?, literal?_alike first, ih hrest]

theorem attempt_alike {e e' : Expr} {es es' : List Expr} (h : Alike (s.AgreeOn s') e e')
    (hes : AlikeAll (s.AgreeOn s') es es') (a : Allowance) :
    (attempt s a e es).Both (Alike (s.AgreeOn s')) (attempt s' a e' es') := by
  have heval : SameResult (eval s a e).result (eval s' a e').result := eval_alike h a
  unfold attempt
  rw [literals?_alike hes]
  split
  · dsimp only
    generalize (eval s a e).result = r at heval ⊢
    generalize (eval s' a e').result = r' at heval ⊢
    cases heval with
    | ok v => exact ⟨rfl, .literal v⟩
    | error => exact ⟨rfl, h⟩
  · exact .same h

theorem attemptCall_alike {m n : String} {es es' : List Expr} (hname : SameName m n)
    (hp : s.AgreeOn s' m) (hes : AlikeAll (s.AgreeOn s') es es') (a : Allowance) :
    (attemptCall s a m es).Both (Alike (s.AgreeOn s')) (attemptCall s' a n es') := by
  have hcall := Alike.call hname hp hes
  unfold attemptCall
  rw [hp.callable_eq hname, hes.length_eq]
  split
  · exact .same hcall
  · split
    · exact attempt_alike hcall hes a
    · exact .same hcall

theorem chooseBranch_alike {op : Operator} {c c' t t' f f' : Expr} (hc : Alike p c c')
    (ht : Alike p t t') (hf : Alike p f f') :
    (chooseBranch op c t f).Both (Alike p) (chooseBranch op c' t' f') := by
  have hkept : Alike p (ternary op c t f) (ternary op c' t' f') := .ternary hc ht hf
  cases hc with
  | literal v =>
    unfold chooseBranch
    split
    · exact ⟨rfl, ht⟩
    · exact ⟨rfl, hf⟩
    · exact .same hkept
  | _ => exact .same hkept

mutual

/-- **Folding expressions that are alike gives expressions that are alike.** -/
theorem fold_alike (a : Allowance) {e e' : Expr} : Alike (s.AgreeOn s') e e' →
    (fold s a e).Both (Alike (s.AgreeOn s')) (fold s' a e')
  | .literal v => by
    rw [fold, fold]
    exact .same (.literal v)
  | .variable hname hp => by
    rw [fold, fold]
    exact .same (.variable hname hp)
  | .unary operand => by
    rw [fold, fold]
    exact (fold_alike a operand).bind fun x x' hx =>
      attempt_alike (.unary hx) (.cons hx .nil) a
  | .binary left right => by
    rw [fold, fold]
    exact (fold_alike a left).bind fun x x' hx => (fold_alike a right).bind fun y y' hy =>
      attempt_alike (.binary hx hy) (.cons hx (.cons hy .nil)) a
  | .ternary condition thenBranch elseBranch => by
    rw [fold, fold]
    exact (fold_alike a condition).bind fun x x' hx => (fold_alike a thenBranch).bind fun y y' hy =>
      (fold_alike a elseBranch).bind fun z z' hz => chooseBranch_alike hx hy hz
  | .array elements => by
    rw [fold, fold]
    exact (foldAll_alike a elements).bind fun xs xs' hxs => attempt_alike (.array hxs) hxs a
  | .call hname hp params => by
    rw [fold, fold]
    exact (foldAll_alike a params).bind fun xs xs' hxs => attemptCall_alike hname hp hxs a

theorem foldAll_alike (a : Allowance) {es es' : List Expr} : AlikeAll (s.AgreeOn s') es es' →
    (foldAll s a es).Both (AlikeAll (s.AgreeOn s')) (foldAll s' a es')
  | .nil => by
    rw [foldAll, foldAll]
    exact .same .nil
  | .cons first rest => by
    rw [foldAll, foldAll]
    exact (fold_alike a first).bind fun x x' hx => (foldAll_alike a rest).map fun xs xs' hxs =>
      .cons hx hxs

end

/-- The rounds go on and end together. -/
theorem settle_alike (a : Allowance) {e e' : Expr} (h : Alike (s.AgreeOn s') e e') :
    Alike (s.AgreeOn s') (settle s a e).1 (settle s' a e').1 := by
  induction hwork : e.work using Nat.strongRecOn generalizing e e' with
  | ind work ih =>
    have hfold := fold_alike a h
    have hround : Alike (s.AgreeOn s') (round s a e) (round s' a e') := lazy_alike hfold.result
    cases hchanged : (fold s a e).changed with
    | true =>
      have hless : (round s a e).work < work := by
        rw [round, work_lazy, ← hwork]
        exact fold_work hchanged
      have hchanged' : (fold s' a e').changed = true := hfold.changed.symm.trans hchanged
      rw [settle_of_changed hchanged, settle_of_changed hchanged']
      exact ih _ hless hround rfl
    | false =>
      have hunchanged' : (fold s' a e').changed = false := hfold.changed.symm.trans hchanged
      rw [settle_of_unchanged hchanged, settle_of_unchanged hunchanged']
      exact hround

/-- **Main theorem.** Two expressions that differ in the letter case of names at most, in two scopes that
agree on these names and on `if_then`: looking over finds the same problem, conversion, folding and
optimizing give two expressions that again differ in letter case at most, both or neither can be truth
values, and evaluating them ends in the same value or in errors of the same kind, whatever nesting is
granted. -/
theorem letterCase_immaterial {e e' : Expr} (he : SameButCase e e')
    (hs : ∀ name ∈ conditionalName :: e.names, s.AgreeOn s' name) :
    SameProblem (validate s e) (validate s' e') ∧
      SameButCase e.lazy e'.lazy ∧
      (∀ a, SameButCase (fold s a e).result (fold s' a e').result) ∧
      (∀ a, SameButCase (optimize s a e).1 (optimize s' a e').1) ∧
      e.givesBoolean = e'.givesBoolean ∧
      ∀ a, SameResult (eval s a e).result (eval s' a e').result := by
  obtain ⟨hconditional, hnames⟩ := List.forall_mem_cons.mp hs
  have h : Alike (s.AgreeOn s') e e' := he.carrying hnames
  refine ⟨validate_alike hconditional h, lazy_alike he, ?_, ?_, givesBoolean_alike he,
    fun a => eval_alike h a⟩
  · intro a
    exact (fold_alike a h).result.sameButCase
  · intro a
    exact (settle_alike a (lazy_alike h)).sameButCase

/-- `if_then` of any count, which lists its parameters. -/
def listing : Callable :=
  .bare "if_then" .any true fun params => .ok (.array params)

/-- `if_then` is known, and `price` is `'a'`. -/
def priced : Scope :=
  (Scope.empty.addFunction listing).addVariable "price" (.string "a")

/-- The same under another spelling, and one variable more. -/
def repriced : Scope :=
  ((Scope.empty.addFunction listing).addVariable "rate" (.string "b")).addVariable "PRICE" (.string "a")

/-- `IF_THEN(Flag = '', Price, missing)` -/
def capitalized : Expr :=
  call "IF_THEN" [binary .equal (.variable "Flag") (literal (.string "")), .variable "Price",
    .variable "missing"]

/-- `if_then(flag = '', PRICE, Missing)` -/
def recapitalized : Expr :=
  call "if_then" [binary .equal (.variable "flag") (literal (.string "")), .variable "PRICE",
    .variable "Missing"]

/-- Both fail over an unknown variable, each over its own spelling of it. -/
theorem letterCase_immaterial_choice :
    SameButCase capitalized recapitalized ∧
      (∀ name ∈ conditionalName :: capitalized.names, priced.AgreeOn repriced name) ∧
      (eval priced none capitalized).result = .error (.undefinedVariable "missing") ∧
      (eval repriced none recapitalized).result = .error (.undefinedVariable "Missing") ∧
      SameResult (eval priced none capitalized).result (eval repriced none recapitalized).result ∧
      SameButCase (optimize priced none capitalized).1 (optimize repriced none recapitalized).1 := by
  have hchoose : SameName "IF_THEN" "if_then" := .of_lower (x := "if_then") rfl rfl
  have hflag : SameName "Flag" "flag" := .of_lower (x := "flag") rfl rfl
  have hprice : SameName "Price" "PRICE" := .of_lower (x := "price") rfl rfl
  have hmissing : SameName "missing" "Missing" := .of_lower (x := "missing") rfl rfl
  have halike : SameButCase capitalized recapitalized :=
    .call hchoose trivial (.cons (.binary (.variable hflag trivial) (.literal _))
      (.cons (.variable hprice trivial) (.cons (.variable hmissing trivial) .nil)))
  have hagree : ∀ name ∈ conditionalName :: capitalized.names, priced.AgreeOn repriced name := by
    simp only [capitalized, names, namesAll, List.forall_mem_cons, List.append_nil, List.nil_append,
      List.cons_append]
    have hknown : priced.AgreeOn repriced conditionalName :=
      .of_eq (v := none) (f := some listing) rfl rfl rfl rfl
    have hknown' : priced.AgreeOn repriced "IF_THEN" :=
      .of_eq (v := none) (f := some listing) rfl rfl rfl rfl
    have hbound : priced.AgreeOn repriced "Price" :=
      .of_eq (v := some (.string "a")) (f := none) rfl rfl rfl rfl
    have hfree : priced.AgreeOn repriced "Flag" := .of_eq (v := none) (f := none) rfl rfl rfl rfl
    have hfree' : priced.AgreeOn repriced "missing" := .of_eq (v := none) (f := none) rfl rfl rfl rfl
    exact ⟨hknown, hknown', hfree, hbound, hfree', List.forall_mem_nil _⟩
  have hfails : (eval priced none capitalized).result = .error (.undefinedVariable "missing") :=
    rfl
  have hfails' : (eval repriced none recapitalized).result =
      .error (.undefinedVariable "Missing") :=
    rfl
  obtain ⟨-, -, -, hoptimize, -, heval⟩ := letterCase_immaterial halike hagree
  exact ⟨halike, hagree, hfails, hfails', heval none, hoptimize none⟩

end Expr

end Reckon
