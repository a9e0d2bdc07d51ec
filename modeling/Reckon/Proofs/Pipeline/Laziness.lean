import Mathlib
import Reckon.Proofs.Optimize.SettleOutcome
import Reckon.Proofs.Pipeline.Depth

/-!
# `Proofs.Pipeline.Laziness` — which settings make `if_then` lazy

An expression has no conditionals as it is read (`compile_branchless`): `if_then` is a function like any other,
and evaluates all its parameters. Conditionals, which evaluate one branch, are made of its calls before
evaluation, and two settings ask for that. `optimize` asks for nothing else. `foldConstants` asks for it
besides folding, whatever `optimize` says, since a conditional is what folding can decide.

So a run that neither looks over nor optimizes comes to what evaluating the text comes to (`evaluated`) if it
does not fold either, or if there is no call to make a conditional of. If it folds and there is one, it comes
to what a run comes to that only makes conditionals. Folding itself is not quite faithful here: an evaluation
of which it loosens an operand is about an undefined variable, and may be about none afterwards.

Main statement: `laziness_of_settings`.
-/

namespace Reckon

open Reckon.Expr

/-! ## Expressions as they are read -/

namespace Grammar

mutual

/-- No phrase spells a conditional. -/
theorem branchless_of_phrase {level : Nat} {ts : List Token} {e : Expr} : Phrase level ts e → Branchless e
  | .joined _ left right => by
    have hleft := branchless_of_phrase left
    have hright := branchless_of_phrase right
    exact .of_children nofun (by simp [children, hleft, hright])
  | .led _ operand => by
    have hoperand := branchless_of_phrase operand
    exact .of_children nofun (by simp [children, hoperand])
  | .next _ _ tighter => branchless_of_phrase tighter
  | .literal _ | .identifier _ => .of_children nofun nofun
  | .group inner => branchless_of_phrase inner
  | .array elements => .of_children nofun (branchless_of_items elements)
  | .call _ params => .of_children nofun (branchless_of_items params)

theorem branchless_of_items {ts : List Token} {es : List Expr} : Items ts es → ∀ e ∈ es, Branchless e
  | .empty => nofun
  | .series h => branchless_of_series h

theorem branchless_of_series {ts : List Token} {es : List Expr} : Series ts es → ∀ e ∈ es, Branchless e
  | .single h => List.forall_mem_singleton.mpr (branchless_of_phrase h)
  | .cons h rest => List.forall_mem_cons.mpr ⟨branchless_of_phrase h, branchless_of_series rest⟩

end

end Grammar

/-- An expression has no conditionals as it is read. -/
theorem compile_branchless {nesting : Nesting} {text : String} {e : Expr}
    (h : compile nesting text = .ok e) : Branchless e := by
  unfold compile at h
  split at h
  · cases h
  · split at h
    · cases h
    · next hparse =>
      cases h
      exact Grammar.branchless_of_phrase (phrase_of_parseTokens hparse)

/-! ## Runs that do not look over -/

/-- What evaluating a text, as it is read, comes to. -/
def evaluated (scope : Scope) (nesting : Nesting) (text : String) : Except RunError Value :=
  match compile nesting text with
  | .error e => .error (.compiling e)
  | .ok e => (e.eval scope nesting.evaluation).result.mapError .evaluating

/-- The settings with conditionals made and nothing else rewritten. -/
def Settings.onlyLazy (settings : Settings) : Settings :=
  { settings with optimize := true, foldConstants := false }

section Run

variable {settings : Settings} {scope : Scope} {text : String} {e : Expr}

theorem run_of_error {nesting : Nesting} {err : CompileError} (h : compile nesting text = .error err) :
    (run settings scope nesting text).result = .error (.compiling err) :=
  congrArg Run.result (runThrough_of_error h)

/-- What is not looked over has no problem. -/
theorem problem?_unasked (hvalidate : settings.validate = false) : settings.problem? scope e = none := by
  rw [Settings.problem?, hvalidate, if_neg Bool.false_ne_true]

/-- With nothing to do before evaluation, a run comes to what evaluation comes to. -/
theorem run_unprepared (hvalidate : settings.validate = false) (hoptimize : settings.optimize = false)
    (hfold : settings.foldConstants = false) (nesting : Nesting) :
    (run settings scope nesting text).result = evaluated scope nesting text := by
  unfold evaluated
  cases hcompile : compile nesting text with
  | error err => exact run_of_error hcompile
  | ok e =>
    have hprepare : settings.prepare scope nesting e = (e, []) := by
      rw [Settings.prepare, hfold, hoptimize, if_neg Bool.false_ne_true, if_neg Bool.false_ne_true]
    rw [run, runThrough_of_ok hcompile (by simp [hvalidate]) (problem?_unasked hvalidate)
      (by simp [hoptimize, hfold]), Settings.carryOut, hprepare]

/-- Without limits, a run that does not look over comes to what the prepared expression comes to. -/
theorem run_prepared (hvalidate : settings.validate = false)
    (hcompile : compile Nesting.unbounded text = .ok e) :
    (run settings scope Nesting.unbounded text).result =
      (outcome scope (settings.prepare scope Nesting.unbounded e).1).mapError .evaluating := by
  rw [run, runThrough_of_ok hcompile (fun _ => rfl) (problem?_unasked hvalidate) fun _ => rfl]
  rfl

theorem run_onlyLazy (hvalidate : settings.validate = false)
    (hcompile : compile Nesting.unbounded text = .ok e) :
    (run settings.onlyLazy scope Nesting.unbounded text).result =
      (outcome scope e.lazy).mapError .evaluating := by
  have hlooked : settings.onlyLazy.validate = false := hvalidate
  rw [run_prepared hlooked hcompile]
  rfl

theorem run_folding (hvalidate : settings.validate = false) (hfold : settings.foldConstants = true)
    (hcompile : compile Nesting.unbounded text = .ok e) :
    (run settings scope Nesting.unbounded text).result =
      (outcome scope (settle scope none e.lazy).1).mapError .evaluating := by
  rw [run_prepared hvalidate hcompile, Settings.prepare, if_pos hfold]
  rfl

/-- With folding asked for, nothing depends on whether conditionals are. -/
theorem run_ignores_optimize (hfold : settings.foldConstants = true) (nesting : Nesting) (b : Bool) :
    run settings scope nesting text = run { settings with optimize := b } scope nesting text := by
  unfold run runThrough Settings.carryOut Settings.prepare Settings.problem?
  simp only [hfold, Bool.true_or, if_true]

end Run

/-- **Main theorem.** Of runs without looking over and without `optimize`: such a run comes to what evaluating
the text comes to, at any nesting, if it does not fold. If it does, it is the run with `optimize`. It still
comes to what evaluating the text comes to if `if_then`, in any letter case, is called nowhere with three
parameters; and in any case to what the run comes to that makes conditionals and does not fold, unless folding
loosens an operand on the way: then that run is about an undefined variable. -/
theorem laziness_of_settings (settings : Settings) (hvalidate : settings.validate = false)
    (hoptimize : settings.optimize = false) (scope : Scope) (text : String) :
    (settings.foldConstants = false →
      ∀ nesting, (run settings scope nesting text).result = evaluated scope nesting text) ∧
    (settings.foldConstants = true →
      (∀ nesting, run settings scope nesting text = run { settings with optimize := true } scope nesting text) ∧
      ((∀ e, compile Nesting.unbounded text = .ok e → NoChoice e) →
        (run settings scope Nesting.unbounded text).result = evaluated scope Nesting.unbounded text) ∧
      ((∀ e, compile Nesting.unbounded text = .ok e → ¬ Loosens scope none e.lazy) →
        (run settings scope Nesting.unbounded text).result =
          (run settings.onlyLazy scope Nesting.unbounded text).result) ∧
      ∀ e, compile Nesting.unbounded text = .ok e → Loosens scope none e.lazy →
        ∃ name, (run settings.onlyLazy scope Nesting.unbounded text).result =
          .error (.evaluating (.undefinedVariable name))) := by
  refine ⟨fun hfold nesting => run_unprepared hvalidate hoptimize hfold nesting, ?_⟩
  intro hfold
  refine ⟨fun nesting => run_ignores_optimize hfold nesting true, ?_, ?_, ?_⟩
  · intro hnone
    unfold evaluated
    cases hcompile : compile Nesting.unbounded text with
    | error err => exact run_of_error hcompile
    | ok e =>
      have hchoice := hnone e hcompile
      rw [run_folding hvalidate hfold hcompile, hchoice.lazy_eq,
        (compile_branchless hcompile).outcome_settle hchoice]
      rfl
  · intro hkept
    cases hcompile : compile Nesting.unbounded text with
    | error err => rw [run_of_error hcompile, run_of_error hcompile]
    | ok e =>
      have hproper : e.lazy.Proper := Proper.lazy e (compile_branchless hcompile).proper
      rw [run_folding hvalidate hfold hcompile, run_onlyLazy hvalidate hcompile,
        outcome_settle e.lazy hproper (noChoice_lazy e) (hkept e hcompile)]
  · intro e hcompile hloosens
    have hproper : e.lazy.Proper := Proper.lazy e (compile_branchless hcompile).proper
    obtain ⟨name, hname⟩ := outcome_of_loosens hloosens hproper (noChoice_lazy e)
    refine ⟨name, ?_⟩
    rw [run_onlyLazy hvalidate hcompile, hname]
    rfl

/-- Folding without `optimize`. -/
def foldingOnly : Settings :=
  { Settings.standard with optimize := false, foldConstants := true }

/-- A call of `if_then` of which the parameter that is not chosen fails. -/
def guardedText : String := "if_then(true, 'a', 'b' - 'c')"

def guarded : Expr :=
  .call "if_then" [.literal (.boolean true), .literal (.string "a"),
    .binary .minus (.literal (.string "b")) (.literal (.string "c"))]

theorem compile_guardedText : compile Nesting.unbounded guardedText = .ok guarded := by cbv

/-- Nothing is loosened on the way to a value. -/
theorem guarded_not_loosens : ¬ Loosens choosing none guarded.lazy := by
  intro h
  have hproper : guarded.lazy.Proper := Proper.lazy _ (compile_branchless compile_guardedText).proper
  obtain ⟨name, hname⟩ := outcome_of_loosens h hproper (noChoice_lazy guarded)
  have hvalue : outcome choosing guarded.lazy = .ok (.string "a") := rfl
  rw [hvalue] at hname
  cases hname

theorem laziness_of_settings_guarded :
    foldingOnly.validate = false ∧ foldingOnly.optimize = false ∧ foldingOnly.foldConstants = true ∧
      (run foldingOnly choosing Nesting.unbounded guardedText).result =
        (run foldingOnly.onlyLazy choosing Nesting.unbounded guardedText).result := by
  obtain ⟨-, hfolding⟩ := laziness_of_settings foldingOnly rfl rfl choosing guardedText
  obtain ⟨-, -, hkept, -⟩ := hfolding rfl
  refine ⟨rfl, rfl, rfl, hkept ?_⟩
  intro e hcompile
  rw [compile_guardedText] at hcompile
  cases hcompile
  exact guarded_not_loosens

/-- Without `optimize`, but with folding, the parameter that is not chosen is not evaluated. -/
theorem folding_makes_lazy :
    foldingOnly.optimize = false ∧ foldingOnly.validate = false ∧
      (run foldingOnly choosing Nesting.unbounded guardedText).result = .ok (.string "a") ∧
      evaluated choosing Nesting.unbounded guardedText =
        .error (.evaluating (.mismatch (.operands .subtract .string .string))) := by
  have hproper : guarded.lazy.Proper := Proper.lazy _ (compile_branchless compile_guardedText).proper
  refine ⟨rfl, rfl, ?_, ?_⟩
  · rw [run_folding rfl rfl compile_guardedText,
      outcome_settle guarded.lazy hproper (noChoice_lazy guarded) guarded_not_loosens]
    rfl
  · unfold evaluated
    rw [compile_guardedText]
    rfl

end Reckon
