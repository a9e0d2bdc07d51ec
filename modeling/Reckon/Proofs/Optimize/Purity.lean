import Reckon.Proofs.Check.References
import Reckon.Proofs.Eval.CallOrder
import Reckon.Proofs.Optimize.FoldOutcome
import Reckon.Proofs.Optimize.Hosted

/-!
# `Proofs.Optimize.Purity` — optimizing calls pure functions only

Folding evaluates operations and calls whose operands are literals, so the only call it can carry out is the
one it looks at, and it has seen that this one is of a pure function. Three things follow; the first two
whatever the functions do when they are called.

  * What is called while folding or optimizing is a pure function, with as many parameters as it takes
    (`foldOn_permits`, `optimizeOn_permitted`).
  * The calls of functions that are impure or unknown are not multiplied: those that are left are some of
    those that were there, in their order (`deferred_lazy`, `deferred_foldOn`, `deferred_optimizeOn`).
  * Of the scope only the pure functions matter: with other variables and other impure functions, or none,
    everything goes on as before (`fold_samePure`, `optimize_samePure`).

Main statement: `only_pure_called`.
-/

namespace Reckon

/-- A call that is carried out is of a pure function. -/
def Deed.Permitted (scope : Scope) : Deed → Prop
  | carriedOut call => call.Resolved scope ∧ call.callee.pure = true
  | converted _ | kept _ => True

namespace Folding

variable {α β : Type} {scope : Scope}

/-- Whatever was called before, nothing is done but what is permitted. -/
def Permits (scope : Scope) (w : Folding α) : Prop :=
  ∀ past, ∀ deed ∈ (w.after past).deeds, deed.Permitted scope

theorem Permits.still (f : Folded α) : Permits scope (still f) :=
  fun _ => nofun

theorem Permits.bind {w : Folding α} {next : α → Folding β} (h : Permits scope w)
    (hn : ∀ a, Permits scope (next a)) : Permits scope (w.bind next) := by
  intro past
  exact List.forall_mem_append.mpr ⟨h past, hn _ _⟩

end Folding

/-- The scopes know the same pure functions. -/
def Scope.SamePure (s s' : Scope) : Prop :=
  ∀ name, (s.callable? name).filter (·.pure) = (s'.callable? name).filter (·.pure)

namespace Expr

open Following (Visits)
open Folding (Permits)

variable {scope s s' : Scope} {host : Host} {a : Allowance}

/-! ## Operations on literals -/

theorem callSitesFrom_literals {es : List Expr} (h : ∀ e ∈ es, ∃ v, e = literal v) (i : Nat) :
    callSitesFrom i es = [] := by
  induction es generalizing i with
  | nil => rfl
  | cons e rest ih =>
    obtain ⟨⟨v, rfl⟩, hrest⟩ := List.forall_mem_cons.mp h
    rw [callSitesFrom, ih hrest]
    rfl

theorem evalAll_literals {es : List Expr} (h : ∀ e ∈ es, ∃ v, e = literal v) (a : Allowance) :
    evalAll s a es = evalAll s' a es := by
  induction es with
  | nil => rw [evalAll, evalAll]
  | cons e rest ih =>
    obtain ⟨⟨v, rfl⟩, hrest⟩ := List.forall_mem_cons.mp h
    rw [evalAll, evalAll, ih hrest, eval_literal, eval_literal]

/-! ## What is called -/

theorem attemptOn_permits {e : Expr} {operands : List Expr}
    (h : (∀ operand ∈ operands, ∃ v, operand = literal v) → ∀ past,
      ∀ call ∈ ((follow scope host a e).after past).calls,
        call.Resolved scope ∧ call.callee.pure = true) :
    Permits scope (attemptOn scope host a e operands) := by
  intro past
  unfold attemptOn
  dsimp only
  split
  · next hliterals =>
    have hcalls : ∀ deed ∈ ((follow scope host a e).after past).calls.map Deed.carriedOut,
        deed.Permitted scope :=
      List.forall_mem_map.mpr (h (literals?_isSome_iff.mp hliterals) past)
    split
    · exact hcalls
    · exact List.forall_mem_append.mpr ⟨hcalls, List.forall_mem_singleton.mpr trivial⟩
  · exact nofun

/-- In an operation without calls no call is carried out. -/
theorem follow_calls_nil {e : Expr} (h : e.callSites = []) (past : List (Callable × List Value)) :
    ((follow scope host a e).after past).calls = [] := by
  have hvisits : Visits scope (follow scope host a e) e.callSites e.Unconditional := follow_visits e a
  have hsites := hvisits.sublist past
  rw [h] at hsites
  exact List.map_eq_nil_iff.mp (List.sublist_nil.mp hsites)

theorem attemptOn_permits_of_callSites {e : Expr} {operands : List Expr}
    (h : (∀ operand ∈ operands, ∃ v, operand = literal v) → e.callSites = []) :
    Permits scope (attemptOn scope host a e operands) := by
  refine attemptOn_permits ?_
  intro hliterals past
  rw [follow_calls_nil (h hliterals) past]
  exact nofun

theorem attemptCallOn_permits (name : String) (params : List Expr) :
    Permits scope (attemptCallOn scope host a name params) := by
  unfold attemptCallOn
  cases hf : scope.callable? name with
  | none => exact .still _
  | some f =>
    dsimp only
    split
    · next htaken =>
      refine attemptOn_permits ?_
      intro hliterals past invocation hmem
      -- the parameters call nothing, so the call is this one, and its function is known to be pure
      have hvisits : Visits scope (follow scope host a (call name params))
          (call name params).callSites (call name params).Unconditional := follow_visits _ a
      have hsite : invocation.site ∈ (call name params).callSites :=
        (hvisits.sublist past).subset (List.mem_map_of_mem hmem)
      rw [callSites, callSitesFrom_literals hliterals, List.nil_append] at hsite
      have hname : invocation.site.name = name := by rw [List.mem_singleton.mp hsite]
      have hresolved := hvisits.resolved past invocation hmem
      have hcallee : invocation.callee = f := by
        have hfound := hresolved.callee
        rw [hname, hf] at hfound
        exact (Option.some.inj hfound).symm
      refine ⟨hresolved, ?_⟩
      rw [hcallee]
      exact (Bool.and_eq_true_iff.mp htaken).1
    · exact .still _

mutual

/-- **Folding calls pure functions only**, with as many parameters as they take: an attempt is made on
literals, and an operation on literals contains no call but itself. -/
theorem foldOn_permits : (e : Expr) → Permits scope (foldOn scope host a e)
  | literal _ | .variable _ => by
    rw [foldOn]
    exact .still _
  | unary op operand => by
    rw [foldOn]
    refine (foldOn_permits operand).bind fun x => attemptOn_permits_of_callSites ?_
    intro hliterals
    obtain ⟨v, rfl⟩ := hliterals x List.mem_cons_self
    rfl
  | .binary op left right => by
    rw [foldOn]
    refine (foldOn_permits left).bind fun x => (foldOn_permits right).bind fun y =>
      attemptOn_permits_of_callSites ?_
    intro hliterals
    obtain ⟨⟨v, rfl⟩, hright⟩ := List.forall_mem_cons.mp hliterals
    obtain ⟨w, rfl⟩ := hright y List.mem_cons_self
    rfl
  | .ternary op condition thenBranch elseBranch => by
    rw [foldOn]
    exact (foldOn_permits condition).bind fun x => (foldOn_permits thenBranch).bind fun y =>
      (foldOn_permits elseBranch).bind fun z => .still _
  | .array elements => by
    rw [foldOn]
    refine (foldAllOn_permits elements).bind fun xs => attemptOn_permits_of_callSites ?_
    intro hliterals
    exact callSitesFrom_literals hliterals 0
  | .call name params => by
    rw [foldOn]
    exact (foldAllOn_permits params).bind fun xs => attemptCallOn_permits name xs

theorem foldAllOn_permits : (es : List Expr) → Permits scope (foldAllOn scope host a es)
  | [] => by
    rw [foldAllOn]
    exact .still _
  | e :: rest => by
    rw [foldAllOn]
    exact (foldOn_permits e).bind fun x => (foldAllOn_permits rest).bind fun xs => .still _

end

theorem conversionDeeds_permitted (e : Expr) : ∀ deed ∈ e.conversionDeeds, deed.Permitted scope := by
  intro deed hdeed
  obtain ⟨name, -, rfl⟩ := List.mem_map.mp hdeed
  trivial

theorem settleOn_permitted (host : Host) (a : Allowance) (e : Expr)
    (past : List (Callable × List Value)) :
    ∀ deed ∈ (settleOn scope host a e past).2, deed.Permitted scope := by
  fun_induction settleOn scope host a e past with
  | case1 e past pass deeds hchanged result more hrec ih =>
    rw [hrec] at ih
    have hdeeds : ∀ deed ∈ deeds, deed.Permitted scope :=
      List.forall_mem_append.mpr ⟨foldOn_permits e past, conversionDeeds_permitted _⟩
    exact List.forall_mem_append.mpr ⟨hdeeds, ih⟩
  | case2 e past pass deeds hchanged =>
    exact List.forall_mem_append.mpr ⟨foldOn_permits e past, conversionDeeds_permitted _⟩

theorem optimizeOn_permitted (host : Host) (a : Allowance) (e : Expr)
    (past : List (Callable × List Value)) :
    ∀ deed ∈ (optimizeOn scope host a e past).2, deed.Permitted scope :=
  List.forall_mem_append.mpr ⟨conversionDeeds_permitted e, settleOn_permitted host a e.lazy past⟩

/-! ## What is looked at -/

theorem attempt_samePure {e : Expr} {operands : List Expr}
    (h : (∀ operand ∈ operands, ∃ v, operand = literal v) → eval s a e = eval s' a e) :
    attempt s a e operands = attempt s' a e operands := by
  unfold attempt
  split
  · next hliterals => rw [h (literals?_isSome_iff.mp hliterals)]
  · rfl

/-- Of the function of a call it matters only whether it is one of the pure ones. -/
theorem attemptCall_eq (name : String) (params : List Expr) :
    attemptCall scope a name params =
      match (scope.callable? name).filter (·.pure) with
      | none => .same (call name params)
      | some f =>
        if f.arity.accepts params.length then attempt scope a (call name params) params
        else .same (call name params) := by
  unfold attemptCall
  cases scope.callable? name with
  | none => rfl
  | some f =>
    dsimp only
    rw [Option.filter_some]
    cases f.pure with
    | false => rfl
    | true => rw [Bool.true_and, if_pos rfl]

theorem attemptCall_samePure (h : s.SamePure s') (name : String) (params : List Expr) :
    attemptCall s a name params = attemptCall s' a name params := by
  rw [attemptCall_eq, attemptCall_eq, h name]
  cases hf' : (s'.callable? name).filter (·.pure) with
  | none => rfl
  | some f =>
    have hf : (s.callable? name).filter (·.pure) = some f := (h name).trans hf'
    have hknown := (Option.filter_eq_some_iff.mp hf).1
    have hknown' := (Option.filter_eq_some_iff.mp hf').1
    dsimp only
    split
    · refine attempt_samePure ?_
      intro hliterals
      have hparams : ∀ inner, evalAll s inner params = evalAll s' inner params :=
        evalAll_literals hliterals
      rw [eval_call, eval_call, hknown, hknown']
      simp only [hparams]
    · rfl

mutual

/-- **Folding looks at the pure functions only.** -/
theorem fold_samePure (h : s.SamePure s') : (e : Expr) → fold s a e = fold s' a e
  | literal _ | .variable _ => by rw [fold, fold]
  | unary op operand => by
    rw [fold, fold, fold_samePure h operand]
    congr 1
    funext x
    refine attempt_samePure ?_
    intro hliterals
    obtain ⟨v, rfl⟩ := hliterals x List.mem_cons_self
    rw [eval_unary, eval_unary]
    simp only [eval_literal]
  | binary op left right => by
    rw [fold, fold, fold_samePure h left, fold_samePure h right]
    congr 1
    funext x
    congr 1
    funext y
    refine attempt_samePure ?_
    intro hliterals
    obtain ⟨⟨v, rfl⟩, hright⟩ := List.forall_mem_cons.mp hliterals
    obtain ⟨w, rfl⟩ := hright _ List.mem_cons_self
    rw [eval_binary, eval_binary]
    simp only [eval_literal, tolerant]
  | ternary op condition thenBranch elseBranch => by
    rw [fold, fold, fold_samePure h condition, fold_samePure h thenBranch,
      fold_samePure h elseBranch]
  | array elements => by
    rw [fold, fold, foldAll_samePure h elements]
    congr 1
    funext xs
    refine attempt_samePure ?_
    intro hliterals
    have hitems : ∀ inner, evalAll s inner xs = evalAll s' inner xs := evalAll_literals hliterals
    rw [eval_array, eval_array]
    simp only [hitems]
  | call name params => by
    rw [fold, fold, foldAll_samePure h params]
    congr 1
    funext xs
    exact attemptCall_samePure h name xs

theorem foldAll_samePure (h : s.SamePure s') : (es : List Expr) → foldAll s a es = foldAll s' a es
  | [] => by rw [foldAll, foldAll]
  | e :: rest => by rw [foldAll, foldAll, fold_samePure h e, foldAll_samePure h rest]

end

theorem settle_samePure (h : s.SamePure s') (a : Allowance) (e : Expr) :
    settle s a e = settle s' a e := by
  fun_induction settle s a e with
  | case1 e pass events hchanged result more hrec ih =>
    have hpass : fold s a e = fold s' a e := fold_samePure h e
    rw [settle]
    dsimp only
    rw [← hpass, dif_pos hchanged, ← ih, hrec]
  | case2 e pass events hchanged =>
    have hpass : fold s a e = fold s' a e := fold_samePure h e
    rw [settle]
    dsimp only
    rw [← hpass, dif_neg hchanged]

theorem optimize_samePure (h : s.SamePure s') (a : Allowance) (e : Expr) :
    optimize s a e = optimize s' a e := by
  unfold optimize
  rw [settle_samePure h]

/-! ## What is left to call -/

end Expr

/-- A call that only evaluation may carry out: its function is impure or unknown. Calls that become
conditionals are left aside. -/
def Reference.deferred (scope : Scope) : Reference → Bool
  | .value _ => false
  | .call name count => !Expr.becomesConditional name count && !(scope.callable? name).any (·.pure)

namespace Expr

/-- The calls that only evaluation may carry out, with the numbers of their parameters, from left to
right. -/
def deferred (scope : Scope) (e : Expr) : List Reference :=
  e.references.filter (Reference.deferred scope)

/-- The same for expressions. -/
def deferredAll (scope : Scope) (es : List Expr) : List Reference :=
  (referencesAll es).filter (Reference.deferred scope)

variable {scope : Scope} {a : Allowance}

theorem deferredAll_cons (e : Expr) (rest : List Expr) :
    deferredAll scope (e :: rest) = deferred scope e ++ deferredAll scope rest := by
  rw [deferredAll, referencesAll, List.filter_append]
  rfl

theorem deferred_binary (op : Operator) (left right : Expr) :
    deferred scope (binary op left right) = deferred scope left ++ deferred scope right := by
  rw [deferred, references, List.filter_append]
  rfl

/-- A call comes before its parameters. -/
theorem deferred_call (name : String) (params : List Expr) :
    deferred scope (call name params) =
      [Reference.call name params.length].filter (Reference.deferred scope) ++
        deferredAll scope params := by
  rw [deferred, references, ← List.singleton_append, List.filter_append]
  rfl

/-- The function of a conditional is none of them. -/
theorem deferred_ternary (op : Operator) (condition thenBranch elseBranch : Expr) :
    deferred scope (ternary op condition thenBranch elseBranch) =
      deferred scope condition ++ (deferred scope thenBranch ++ deferred scope elseBranch) := by
  have hname : Reference.deferred scope (.call conditionalName 3) = false := rfl
  rw [deferred, references, List.filter_cons_of_neg (Bool.eq_false_iff.mp hname), List.filter_append,
    List.filter_append]
  rfl

theorem deferred_conditionalOf (name : String) (params : List Expr) :
    deferred scope (conditionalOf name params) = deferred scope (call name params) := by
  unfold conditionalOf
  split
  · next condition thenBranch elseBranch =>
    split
    · next hname =>
      have hleft : Reference.deferred scope (.call name 3) = false := by
        simp [Reference.deferred, becomesConditional, hname]
      rw [deferred_ternary, deferred_call, deferredAll_cons, deferredAll_cons, deferredAll_cons]
      simp [hleft, deferredAll, referencesAll]
    · rfl
  · rfl

mutual

/-- Making conditionals keeps the calls that are left to evaluation. -/
theorem deferred_lazy : (e : Expr) → deferred scope e.lazy = deferred scope e
  | literal _ | .variable _ => rfl
  | unary _ operand => deferred_lazy operand
  | .binary op left right => by
    rw [lazy, deferred_binary, deferred_binary, deferred_lazy left, deferred_lazy right]
  | .ternary op condition thenBranch elseBranch => by
    rw [lazy, deferred_ternary, deferred_ternary, deferred_lazy condition, deferred_lazy thenBranch,
      deferred_lazy elseBranch]
  | .array elements => deferredAll_lazyAll elements
  | .call name params => by
    rw [lazy, deferred_conditionalOf, deferred_call, deferred_call, length_lazyAll,
      deferredAll_lazyAll params]

theorem deferredAll_lazyAll : (es : List Expr) → deferredAll scope (lazyAll es) = deferredAll scope es
  | [] => rfl
  | e :: rest => by
    rw [lazyAll, deferredAll_cons, deferredAll_cons, deferred_lazy e, deferredAll_lazyAll rest]

end

theorem deferred_attemptOn (e : Expr) (operands : List Expr) (past : List (Callable × List Value)) :
    (deferred scope ((attemptOn scope host a e operands).after past).result).Sublist
      (deferred scope e) := by
  unfold attemptOn
  dsimp only
  split
  · split
    · exact List.nil_sublist _
    · exact List.Sublist.refl _
  · exact List.Sublist.refl _

theorem deferred_attemptCallOn (name : String) (params : List Expr)
    (past : List (Callable × List Value)) :
    (deferred scope ((attemptCallOn scope host a name params).after past).result).Sublist
      (deferred scope (call name params)) := by
  unfold attemptCallOn
  split
  · exact List.Sublist.refl _
  · split
    · exact deferred_attemptOn _ _ _
    · exact List.Sublist.refl _

theorem deferred_chooseBranch (op : Operator) (condition thenBranch elseBranch : Expr) :
    (deferred scope (chooseBranch op condition thenBranch elseBranch).result).Sublist
      (deferred scope (ternary op condition thenBranch elseBranch)) := by
  rw [deferred_ternary]
  unfold chooseBranch
  split
  · exact (List.sublist_append_left _ _).trans (List.sublist_append_right _ _)
  · exact (List.sublist_append_right _ _).trans (List.sublist_append_right _ _)
  · rw [← deferred_ternary op]
    exact List.Sublist.refl _

mutual

/-- **Folding does not multiply the calls that are left to evaluation.** -/
theorem deferred_foldOn : (e : Expr) → ∀ past,
    (deferred scope ((foldOn scope host a e).after past).result).Sublist (deferred scope e)
  | literal _, past | .variable _, past => by
    rw [foldOn]
    exact List.Sublist.refl _
  | unary op operand, past => by
    rw [foldOn]
    exact (deferred_attemptOn _ _ _).trans (deferred_foldOn operand past)
  | .binary op left right, past => by
    rw [foldOn]
    refine (deferred_attemptOn _ _ _).trans ?_
    rw [deferred_binary, deferred_binary]
    exact (deferred_foldOn left past).append (deferred_foldOn right _)
  | .ternary op condition thenBranch elseBranch, past => by
    rw [foldOn]
    refine (deferred_chooseBranch _ _ _ _).trans ?_
    rw [deferred_ternary, deferred_ternary]
    exact (deferred_foldOn condition past).append
      ((deferred_foldOn thenBranch _).append (deferred_foldOn elseBranch _))
  | .array elements, past => by
    rw [foldOn]
    exact (deferred_attemptOn _ _ _).trans (deferredAll_foldAllOn elements past)
  | .call name params, past => by
    rw [foldOn]
    refine (deferred_attemptCallOn _ _ _).trans ?_
    rw [deferred_call, deferred_call, length_foldAllOn]
    exact (List.Sublist.refl _).append (deferredAll_foldAllOn params past)

theorem deferredAll_foldAllOn : (es : List Expr) → ∀ past,
    (deferredAll scope ((foldAllOn scope host a es).after past).result).Sublist (deferredAll scope es)
  | [], past => by
    rw [foldAllOn]
    exact List.Sublist.refl _
  | e :: rest, past => by
    rw [foldAllOn, deferredAll_cons]
    show (deferredAll scope (_ :: _)).Sublist _
    rw [deferredAll_cons]
    exact (deferred_foldOn e past).append (deferredAll_foldAllOn rest _)

end

theorem deferred_settleOn (host : Host) (a : Allowance) (e : Expr)
    (past : List (Callable × List Value)) :
    (deferred scope (settleOn scope host a e past).1).Sublist (deferred scope e) := by
  fun_induction settleOn scope host a e past with
  | case1 e past pass deeds hchanged result more hrec ih =>
    rw [hrec, deferred_lazy] at ih
    exact ih.trans (deferred_foldOn e past)
  | case2 e past pass deeds hchanged =>
    rw [deferred_lazy]
    exact deferred_foldOn e past

theorem deferred_optimizeOn (host : Host) (a : Allowance) (e : Expr)
    (past : List (Callable × List Value)) :
    (deferred scope (optimizeOn scope host a e past).1).Sublist (deferred scope e) := by
  have hsettle : (deferred scope (settleOn scope host a e.lazy past).1).Sublist (deferred scope e.lazy) :=
    deferred_settleOn host a e.lazy past
  rw [deferred_lazy] at hsettle
  exact hsettle

/-- **Main theorem.** Whatever the functions do and whatever was called before, folding an expression, and
optimizing it, calls no function but pure ones, with as many parameters as they take. And neither multiplies
what it leaves to evaluation: with conditionals made, the calls of impure and unknown functions are those that
there were, and after folding or optimizing they are some of these, in their order, with their names and
numbers of parameters. With functions that stand by their bodies these are folding and optimizing, and they
go the very same way with any other variables and impure functions in the scope. -/
theorem only_pure_called (scope : Scope) (a : Allowance) (e : Expr) :
    (∀ (host : Host) (past : List (Callable × List Value)),
      (∀ deed ∈ ((foldOn scope host a e).after past).deeds, deed.Permitted scope) ∧
        (∀ deed ∈ (optimizeOn scope host a e past).2, deed.Permitted scope) ∧
        (deferred scope ((foldOn scope host a e).after past).result).Sublist (deferred scope e) ∧
        (deferred scope (optimizeOn scope host a e past).1).Sublist (deferred scope e)) ∧
      deferred scope e.lazy = deferred scope e ∧
      (∀ past, ((foldOn scope .standing a e).after past).folded = fold scope a e ∧
        ((optimizeOn scope .standing a e past).1,
          (optimizeOn scope .standing a e past).2.map Deed.event) = optimize scope a e) ∧
      ∀ scope', scope.SamePure scope' →
        fold scope a e = fold scope' a e ∧ optimize scope a e = optimize scope' a e := by
  refine ⟨?_, deferred_lazy e, ?_, ?_⟩
  · intro host past
    exact ⟨foldOn_permits e past, optimizeOn_permitted host a e past, deferred_foldOn e past,
      deferred_optimizeOn host a e past⟩
  · intro past
    exact ⟨foldOn_standing e past, optimizeOn_standing a e past⟩
  · intro scope' h
    exact ⟨fold_samePure h e, optimize_samePure h a e⟩

/-- The function `size`, which gives its parameters as a list. -/
def sizes : Callable :=
  .bare "size" .any true fun params => .ok (.array params)

/-- The function `dice`, which is not pure. -/
def dice : Callable :=
  .bare "dice" .any false fun _ => .ok (.boolean true)

/-- `[size(not true), dice()]` -/
def throwing : Expr :=
  array [call "size" [unary .not (literal (.boolean true))], call "dice" []]

/-- The pure function is called; the other one is left, and need not be known. -/
theorem only_pure_called_throwing :
    (fold ((Scope.empty.addFunction dice).addFunction sizes) none throwing).trace =
        [.called "size" [.boolean false]] ∧
      ((Scope.empty.addFunction dice).addFunction sizes).SamePure (Scope.empty.addFunction sizes) ∧
      fold ((Scope.empty.addFunction dice).addFunction sizes) none throwing =
        fold (Scope.empty.addFunction sizes) none throwing ∧
      (fold (Scope.empty.addFunction sizes) none throwing).result =
        array [literal (.array [.boolean false]), call "dice" []] := by
  have hsame : ((Scope.empty.addFunction dice).addFunction sizes).SamePure
      (Scope.empty.addFunction sizes) := by
    intro name
    simp only [Scope.callable?, Scope.addFunction, Scope.empty, Registry.get?_insert]
    split
    · rfl
    · split
      · rfl
      · rfl
  obtain ⟨-, -, -, hpure⟩ :=
    only_pure_called ((Scope.empty.addFunction dice).addFunction sizes) none throwing
  exact ⟨rfl, hsame, (hpure _ hsame).1, rfl⟩

end Expr

end Reckon
