import Reckon.Library.Standard
import Reckon.Proofs.Eval.Following

/-!
# `Proofs.Library.Drawing` — chance and the clock, anew at every call

The functions of the library are made with a `World`: what chance draws and what the clock says. An expression
may call several functions that depend on it, and every call has a world of its own. That is the host
`Host.drawing`, on which a call goes to the function as the world of that call makes it.

A scope with the functions of one world is the case in which the world does not change between calls.

Main statement: `Expr.follow_drawing`.
-/

namespace Reckon

/-! ## Hosts that agree -/

namespace Expr

variable {scope : Scope} {host host' : Host}

/-- The hosts do the same with the functions of the scope. -/
def Agreeing (scope : Scope) (host host' : Host) : Prop :=
  ∀ name f, scope.callable? name = some f → ∀ past params, host past f params = host' past f params

mutual

/-- Evaluation asks a host about the functions of the scope only. -/
theorem follow_agreeing (h : Agreeing scope host host') : (e : Expr) → ∀ a,
    follow scope host a e = follow scope host' a e
  | literal v, a => by rw [follow_literal, follow_literal]
  | .variable name, a => by rw [follow_variable, follow_variable]
  | unary op operand, a => by
    simp only [follow_unary, follow_agreeing h operand]
  | .binary op left right, a => by
    simp only [follow_binary, follow_agreeing h left, follow_agreeing h right]
  | .ternary op condition thenBranch elseBranch, a => by
    by_cases hop : op = .conditional
    · simp only [hop, follow_conditional, follow_agreeing h condition, follow_agreeing h thenBranch,
        follow_agreeing h elseBranch]
    · rw [follow_unfit hop, follow_unfit hop]
  | .array elements, a => by
    simp only [follow_array, followFrom_agreeing h elements]
  | .call name params, a => by
    have hinvoke : ∀ f, scope.callable? name = some f →
        Following.invoke host f name params.length = .invoke host' f name params.length := by
      intro f hf
      funext values
      simp only [Following.invoke, h name f hf]
    simp only [follow_call, followFrom_agreeing h params]
    cases hf : scope.callable? name with
    | none => rfl
    | some f =>
      dsimp only
      rw [hinvoke f hf]

theorem followFrom_agreeing (h : Agreeing scope host host') : (es : List Expr) → ∀ a i,
    followFrom scope host a i es = followFrom scope host' a i es
  | [], a, i => by rw [followFrom, followFrom]
  | e :: rest, a, i => by
    rw [followFrom, followFrom, follow_agreeing h e, followFrom_agreeing h rest]

end

end Expr

/-! ## A world for every call -/

/-- Functions that are made with a world, when every call has a world of its own. -/
def Host.drawing (made : Library.World → List Callable) (worlds : Nat → Library.World) : Host :=
  fun past f params =>
    match (Scope.empty.addFunctions (made (worlds past.length))).callable? f.name with
    | some g => g.body params
    | none => f.body params

namespace Scope

/-- Every function is found under its own name, in any letter case. -/
def SelfNamed (scope : Scope) : Prop :=
  ∀ name f, scope.callable? name = some f → Text.lower f.name = Text.lower name

theorem SelfNamed.empty : Scope.empty.SelfNamed := by
  intro name f hf
  cases hf

theorem SelfNamed.addFunction {scope : Scope} (h : scope.SelfNamed) (g : Callable) :
    (scope.addFunction g).SelfNamed := by
  intro name f hf
  unfold callable? Scope.addFunction at hf
  rw [Registry.get?_insert] at hf
  split at hf
  · next hname =>
    cases hf
    exact hname.symm
  · exact h name f hf

theorem SelfNamed.addFunctions {scope : Scope} (h : scope.SelfNamed) (fs : List Callable) :
    (scope.addFunctions fs).SelfNamed := by
  induction fs generalizing scope with
  | nil => exact h
  | cons g rest ih => exact ih (h.addFunction g)

end Scope

namespace Expr

/-- **With a world that stays the same, the functions stand by their bodies**: evaluation in a scope with the
functions of one world is evaluation in which every call has that world. -/
theorem follow_drawing {scope : Scope} {made : Library.World → List Callable} {world : Library.World}
    (hfunctions : scope.functions = (Scope.empty.addFunctions (made world)).functions) (a : Allowance)
    (e : Expr) (past : List (Callable × List Value)) :
    ((follow scope (.drawing made fun _ => world) a e).after past).traced = eval scope a e := by
  have hagree : Agreeing scope (.drawing made fun _ => world) .standing := by
    intro name f hf past params
    have hfound : (Scope.empty.addFunctions (made world)).callable? name = some f := by
      rw [Scope.callable?, ← hfunctions]
      exact hf
    have hnamed : (Scope.empty.addFunctions (made world)).SelfNamed := Scope.SelfNamed.empty.addFunctions _
    -- the host looks for a function under the name that it has itself, not the one that is called
    have hself : (Scope.empty.addFunctions (made world)).callable? f.name = some f := by
      rw [← hfound, Scope.callable?, Scope.callable?, hnamed name f hfound]
    unfold Host.drawing
    rw [hself]
    rfl
  rw [follow_agreeing hagree]
  exact follow_standing e a past

/-- The function `random` of the library alone. -/
def chance (world : Library.World) : List Callable :=
  [.bare "random" (.withOptional 0 1) false (Library.random world.draw)]

/-- A world of which chance draws this. -/
def drawn (fraction : Float) : Library.World := ⟨⟨fraction⟩, 0⟩

/-- `random() < random()` -/
def rising : Expr :=
  binary .less (call "random" []) (call "random" [])

/-- Chance draws a quarter first and three quarters from then on. -/
def climbing : Host :=
  .drawing chance fun n => drawn (if n = 0 then 0.25 else 0.75)

/-- Two calls draw twice; with one draw for both, neither number is less. -/
example :
    let scope := Scope.empty.addFunctions (chance (drawn 0.5))
    ((follow scope climbing none rising).after []).result = .ok (.boolean true) ∧
      (eval scope none rising).result = .ok (.boolean false) :=
  ⟨rfl, rfl⟩

end Expr

end Reckon
