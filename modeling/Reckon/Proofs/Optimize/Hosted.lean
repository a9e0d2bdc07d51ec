import Reckon.Optimize.Settle
import Reckon.Proofs.Eval.Following

/-!
# `Proofs.Optimize.Hosted` — folding and optimizing on a host

Folding calls functions, and a function from outside need not do the same thing twice. `foldOn` and
`optimizeOn` go by the rules of folding and optimizing, but ask a `Host` what a function does, and they note
down which call of which expression is carried out.

  * A pass that changes something leaves less work whatever the functions do (`foldOn_work`), so optimizing
    ends on every host.
  * With functions that stand by their bodies it is folding and optimizing, traces included
    (`foldOn_standing`, `optimizeOn_standing`).
-/

namespace Reckon

/-- What is done while an expression is folded or optimized. -/
inductive Deed where
  /-- a call is carried out; its place is the one in the expression that is evaluated -/
  | carriedOut (call : Invocation)
  /-- a call becomes a conditional; the name is as written -/
  | converted (name : String)
  /-- a constant expression is left alone because it fails -/
  | kept (cause : EvalError)

namespace Deed

/-- What a trace keeps of it. -/
def event : Deed → Event
  | carriedOut call => call.event
  | converted name => .converted name
  | kept cause => .kept cause

/-- What the functions get to see of it. -/
def step? : Deed → Option (Callable × List Value)
  | carriedOut call => some call.step
  | converted _ | kept _ => none

end Deed

/-- A folded expression, whether anything changed, and what was done on the way. -/
structure FoldedOn (α : Type) where
  result : α
  changed : Bool
  deeds : List Deed

/-- The same with a trace of what was done. -/
def FoldedOn.folded {α : Type} (f : FoldedOn α) : Folded α :=
  ⟨f.result, f.changed, f.deeds.map Deed.event⟩

/-- Folding that starts after some calls. -/
structure Folding (α : Type) where
  after : List (Callable × List Value) → FoldedOn α

namespace Folding

variable {α β : Type}

/-- A pass in which nothing is called. -/
def still (f : Folded α) : Folding α :=
  ⟨fun _ => ⟨f.result, f.changed, []⟩⟩

/-- One pass after another. -/
def bind (w : Folding α) (next : α → Folding β) : Folding β :=
  ⟨fun past =>
    let f := w.after past
    let g := (next f.result).after (past ++ f.deeds.filterMap Deed.step?)
    ⟨g.result, f.changed || g.changed, f.deeds ++ g.deeds⟩⟩

/-- A function of the result. -/
def map (g : α → β) (w : Folding α) : Folding β :=
  w.bind fun a => still (.same (g a))

end Folding

namespace Expr

/-- The value of an expression as a literal, if its operands are all literals and it has a value. -/
def attemptOn (scope : Scope) (host : Host) (allowance : Allowance) (e : Expr)
    (operands : List Expr) : Folding Expr :=
  ⟨fun past =>
    if (literals? operands).isSome then
      let run := (follow scope host allowance e).after past
      match run.result with
      | .ok value => ⟨literal value, true, run.calls.map .carriedOut⟩
      | .error cause => ⟨e, false, run.calls.map .carriedOut ++ [.kept cause]⟩
    else ⟨e, false, []⟩⟩

/-- A call with folded parameters: its value when the function is known, pure, and takes them. -/
def attemptCallOn (scope : Scope) (host : Host) (allowance : Allowance) (name : String)
    (params : List Expr) : Folding Expr :=
  match scope.callable? name with
  | none => .still (.same (call name params))
  | some f =>
    if f.pure && f.arity.accepts params.length then
      attemptOn scope host allowance (call name params) params
    else .still (.same (call name params))

mutual

/-- The expression with constants evaluated, in one pass on a host. -/
def foldOn (scope : Scope) (host : Host) (allowance : Allowance) : Expr → Folding Expr
  | literal value => .still (.same (literal value))
  | .variable name => .still (.same (.variable name))
  | unary op operand =>
    (foldOn scope host allowance operand).bind fun operand =>
      attemptOn scope host allowance (unary op operand) [operand]
  | binary op left right =>
    (foldOn scope host allowance left).bind fun left =>
      (foldOn scope host allowance right).bind fun right =>
        attemptOn scope host allowance (binary op left right) [left, right]
  | ternary op condition thenBranch elseBranch =>
    (foldOn scope host allowance condition).bind fun condition =>
      (foldOn scope host allowance thenBranch).bind fun thenBranch =>
        (foldOn scope host allowance elseBranch).bind fun elseBranch =>
          .still (chooseBranch op condition thenBranch elseBranch)
  | array elements =>
    (foldAllOn scope host allowance elements).bind fun elements =>
      attemptOn scope host allowance (array elements) elements
  | call name params =>
    (foldAllOn scope host allowance params).bind fun params =>
      attemptCallOn scope host allowance name params

/-- Expressions with constants evaluated, from left to right. -/
def foldAllOn (scope : Scope) (host : Host) (allowance : Allowance) :
    List Expr → Folding (List Expr)
  | [] => .still (.same [])
  | e :: rest =>
    (foldOn scope host allowance e).bind fun e =>
      (foldAllOn scope host allowance rest).map fun rest => e :: rest

end

end Expr

/-! ## A change leaves less work -/

namespace Folding

variable {α β : Type} {size : α → Nat} {size' : β → Nat} {bound rest : Nat}

/-- Whatever was called before, the result is no larger than the bound, and smaller when something changed. -/
def Shrinks (size : α → Nat) (w : Folding α) (bound : Nat) : Prop :=
  ∀ past, Shrunk (size (w.after past).result) (w.after past).changed bound

theorem Shrinks.same (size : α → Nat) (a : α) : Shrinks size (still (.same a)) (size a) :=
  fun _ => Shrunk.same (size a)

theorem Shrinks.bind {w : Folding α} {next : α → Folding β} (h : Shrinks size w bound)
    (hn : ∀ a, Shrinks size' (next a) (size a + rest)) :
    Shrinks size' (w.bind next) (bound + rest) :=
  fun past => (h past).trans (hn _ _)

end Folding

namespace Expr

open Folding (Shrinks)

variable {scope : Scope} {host : Host} {a : Allowance}

theorem attemptOn_shrinks {e : Expr} (operands : List Expr) (h : 0 < e.work) :
    Shrinks work (attemptOn scope host a e operands) e.work := by
  intro past
  unfold attemptOn
  dsimp only
  split
  · split
    · exact ⟨Nat.zero_le _, fun _ => h⟩
    · exact .same e.work
  · exact .same e.work

theorem attemptCallOn_shrinks (name : String) (params : List Expr) :
    Shrinks work (attemptCallOn scope host a name params) (workAll params + 1) := by
  unfold attemptCallOn
  split
  · exact .same work (call name params)
  · split
    · exact attemptOn_shrinks params (Nat.succ_pos _)
    · exact .same work (call name params)

mutual

/-- What is left of one part is in the bound of the next, as in `fold_within`. -/
theorem foldOn_shrinks : (e : Expr) → Shrinks work (foldOn scope host a e) e.work
  | literal v => by
    rw [foldOn]
    exact .same work (literal v)
  | .variable name => by
    rw [foldOn]
    exact .same work (.variable name)
  | unary op operand => by
    rw [foldOn]
    exact (foldOn_shrinks operand).bind fun x => attemptOn_shrinks _ (Nat.succ_pos _)
  | .binary op left right => by
    rw [foldOn, work, Nat.add_assoc]
    refine (foldOn_shrinks left).bind fun x => ?_
    rw [Nat.add_left_comm]
    refine (foldOn_shrinks right).bind fun y => ?_
    rw [← work_binary op]
    exact attemptOn_shrinks [x, y] (Nat.succ_pos _)
  | .ternary op condition thenBranch elseBranch => by
    rw [foldOn, work, Nat.add_assoc, Nat.add_assoc]
    refine (foldOn_shrinks condition).bind fun x => ?_
    rw [Nat.add_left_comm]
    refine (foldOn_shrinks thenBranch).bind fun y => ?_
    rw [Nat.add_left_comm x.work, Nat.add_left_comm y.work]
    exact (foldOn_shrinks elseBranch).bind fun z _ => chooseBranch_within op x y z
  | .array elements => by
    rw [foldOn]
    exact (foldAllOn_shrinks elements).bind fun xs => attemptOn_shrinks xs (Nat.succ_pos _)
  | .call name params => by
    rw [foldOn]
    exact (foldAllOn_shrinks params).bind fun xs => attemptCallOn_shrinks name xs

theorem foldAllOn_shrinks : (es : List Expr) → Shrinks workAll (foldAllOn scope host a es) (workAll es)
  | [] => by
    rw [foldAllOn]
    exact .same workAll []
  | e :: rest => by
    rw [foldAllOn, workAll]
    refine (foldOn_shrinks e).bind fun x => ?_
    rw [Nat.add_comm]
    refine (foldAllOn_shrinks rest).bind fun xs => ?_
    rw [Nat.add_comm]
    exact .same workAll (x :: xs)

end

/-- A pass that changes something leaves less work. -/
theorem foldOn_work {e : Expr} {past : List (Callable × List Value)}
    (h : ((foldOn scope host a e).after past).changed = true) :
    ((foldOn scope host a e).after past).result.work < e.work :=
  (foldOn_shrinks e past).2 h

theorem length_foldAllOn (es : List Expr) (past : List (Callable × List Value)) :
    ((foldAllOn scope host a es).after past).result.length = es.length := by
  induction es generalizing past with
  | nil =>
    rw [foldAllOn]
    rfl
  | cons e rest ih =>
    rw [foldAllOn]
    exact congrArg (· + 1) (ih _)

/-! ## Optimizing on a host -/

/-- What making conditionals does. -/
def conversionDeeds (e : Expr) : List Deed :=
  e.convertedNames.map .converted

/-- Fold on a host and make conditionals in turn until nothing changes. -/
def settleOn (scope : Scope) (host : Host) (allowance : Allowance) (e : Expr)
    (past : List (Callable × List Value)) : Expr × List Deed :=
  let pass := (foldOn scope host allowance e).after past
  let deeds := pass.deeds ++ pass.result.conversionDeeds
  if _h : pass.changed = true then
    let (result, more) :=
      settleOn scope host allowance pass.result.lazy (past ++ deeds.filterMap Deed.step?)
    (result, deeds ++ more)
  else (pass.result.lazy, deeds)
termination_by e.work
decreasing_by
  rw [work_lazy]
  exact foldOn_work _h

/-- The expression with conditionals made and constants folded on a host, and what was done on the way. -/
def optimizeOn (scope : Scope) (host : Host) (allowance : Allowance) (e : Expr)
    (past : List (Callable × List Value)) : Expr × List Deed :=
  let (result, deeds) := settleOn scope host allowance e.lazy past
  (result, e.conversionDeeds ++ deeds)

end Expr

/-! ## Functions that stand by their bodies -/

namespace Folding

variable {α β : Type}

/-- Whatever was called before, folding comes to this. -/
def Yields (w : Folding α) (f : Folded α) : Prop :=
  ∀ past, (w.after past).folded = f

theorem Yields.still {f : Folded α} (h : f.trace = []) : Yields (Folding.still f) f := by
  intro past
  show (⟨f.result, f.changed, []⟩ : Folded α) = f
  rw [← h]

theorem Yields.same (a : α) : Yields (Folding.still (.same a)) (.same a) :=
  .still rfl

theorem Yields.bind {w : Folding α} {f : Folded α} {next : α → Folding β} {next' : α → Folded β}
    (h : Yields w f) (hn : ∀ a, Yields (next a) (next' a)) :
    Yields (w.bind next) (f.bind next') := by
  intro past
  rw [← h past]
  have hnext := hn (w.after past).result (past ++ (w.after past).deeds.filterMap Deed.step?)
  show _ = (⟨_, _, _⟩ : Folded β)
  simp only [FoldedOn.folded]
  rw [← hnext]
  simp only [FoldedOn.folded, Folding.bind, List.map_append]

theorem Yields.map {w : Folding α} {f : Folded α} (g : α → β) (h : Yields w f) :
    Yields (w.map g) (f.map g) := by
  have hbind := h.bind fun a => Yields.same (g a)
  intro past
  refine (hbind past).trans ?_
  simp only [Folded.bind, Folded.map, Folded.same, Bool.or_false, List.append_nil]

end Folding

namespace Expr

open Folding (Yields)

variable {scope : Scope} {a : Allowance}

theorem attemptOn_standing (e : Expr) (operands : List Expr) :
    Yields (attemptOn scope .standing a e operands) (attempt scope a e operands) := by
  intro past
  have hfollows : ((follow scope .standing a e).after past).traced = eval scope a e :=
    follow_standing e a past
  have hevents : (((follow scope .standing a e).after past).calls.map Deed.carriedOut).map Deed.event =
      (eval scope a e).trace := by
    rw [← hfollows, List.map_map]
    rfl
  have hresult : ((follow scope .standing a e).after past).result = (eval scope a e).result := by
    rw [← hfollows]
    rfl
  unfold attempt attemptOn
  dsimp only
  split
  · rw [hresult]
    cases (eval scope a e).result with
    | ok v => simp only [FoldedOn.folded, hevents]
    | error cause => simp only [FoldedOn.folded, List.map_append, hevents, List.map_cons,
        List.map_nil, Deed.event]
  · rfl

theorem attemptCallOn_standing (name : String) (params : List Expr) :
    Yields (attemptCallOn scope .standing a name params) (attemptCall scope a name params) := by
  unfold attemptCallOn attemptCall
  cases scope.callable? name with
  | none => exact .same _
  | some f =>
    dsimp only
    split
    · exact attemptOn_standing _ _
    · exact .same _

theorem chooseBranch_trace (op : Operator) (condition thenBranch elseBranch : Expr) :
    (chooseBranch op condition thenBranch elseBranch).trace = [] := by
  unfold chooseBranch
  split <;> rfl

mutual

/-- **With functions that stand by their bodies it is folding.** -/
theorem foldOn_standing : (e : Expr) → Yields (foldOn scope .standing a e) (fold scope a e)
  | literal _ | .variable _ => by
    rw [foldOn, fold]
    exact .same _
  | unary op operand => by
    rw [foldOn, fold]
    exact (foldOn_standing operand).bind fun x => attemptOn_standing _ _
  | .binary op left right => by
    rw [foldOn, fold]
    exact (foldOn_standing left).bind fun x => (foldOn_standing right).bind fun y =>
      attemptOn_standing _ _
  | .ternary op condition thenBranch elseBranch => by
    rw [foldOn, fold]
    exact (foldOn_standing condition).bind fun x => (foldOn_standing thenBranch).bind fun y =>
      (foldOn_standing elseBranch).bind fun z => .still (chooseBranch_trace op x y z)
  | .array elements => by
    rw [foldOn, fold]
    exact (foldAllOn_standing elements).bind fun xs => attemptOn_standing _ _
  | .call name params => by
    rw [foldOn, fold]
    exact (foldAllOn_standing params).bind fun xs => attemptCallOn_standing _ _

theorem foldAllOn_standing : (es : List Expr) →
    Yields (foldAllOn scope .standing a es) (foldAll scope a es)
  | [] => by
    rw [foldAllOn, foldAll]
    exact .same _
  | e :: rest => by
    rw [foldAllOn, foldAll]
    exact (foldOn_standing e).bind fun x => (foldAllOn_standing rest).map _

end

theorem conversionDeeds_events (e : Expr) :
    e.conversionDeeds.map Deed.event = e.conversionEvents := by
  rw [conversionDeeds, conversionEvents, List.map_map]
  rfl

theorem pass_events (f : FoldedOn Expr) :
    (f.deeds ++ f.result.conversionDeeds).map Deed.event =
      f.folded.trace ++ f.folded.result.conversionEvents := by
  rw [List.map_append, conversionDeeds_events]
  rfl

theorem settleOn_standing (a : Allowance) (e : Expr) (past : List (Callable × List Value)) :
    ((settleOn scope .standing a e past).1, (settleOn scope .standing a e past).2.map Deed.event) =
      settle scope a e := by
  fun_induction settleOn scope .standing a e past with
  | case1 e past pass deeds hchanged result more hrec ih =>
    have hpass : pass.folded = fold scope a e := foldOn_standing e past
    have hchanged' : pass.folded.changed = true := hchanged
    have hevents : deeds.map Deed.event = pass.folded.trace ++ pass.folded.result.conversionEvents :=
      pass_events pass
    have hrest : settle scope a pass.folded.result.lazy = (result, more.map Deed.event) := by
      rw [hrec] at ih
      exact ih.symm
    rw [settle]
    dsimp only
    rw [← hpass, dif_pos hchanged', hrest, List.map_append, hevents]
  | case2 e past pass deeds hunchanged =>
    have hpass : pass.folded = fold scope a e := foldOn_standing e past
    have hunchanged' : ¬ pass.folded.changed = true := hunchanged
    have hevents : deeds.map Deed.event = pass.folded.trace ++ pass.folded.result.conversionEvents :=
      pass_events pass
    rw [settle]
    dsimp only
    rw [← hpass, dif_neg hunchanged', hevents]
    rfl

/-- **With functions that stand by their bodies it is optimizing.** -/
theorem optimizeOn_standing (a : Allowance) (e : Expr) (past : List (Callable × List Value)) :
    ((optimizeOn scope .standing a e past).1, (optimizeOn scope .standing a e past).2.map Deed.event) =
      optimize scope a e := by
  show ((settleOn scope .standing a e.lazy past).1,
    (e.conversionDeeds ++ (settleOn scope .standing a e.lazy past).2).map Deed.event) =
      ((settle scope a e.lazy).1, e.conversionEvents ++ (settle scope a e.lazy).2)
  rw [← settleOn_standing a e.lazy past, List.map_append, conversionDeeds_events]

end Expr

end Reckon
