import Reckon.Pipeline
import Reckon.Proofs.Nesting
import Reckon.Proofs.Optimize.Hosted

/-!
# `Proofs.Pipeline.Hosted` — what becomes of a run, on any host

A run reads its text and looks over the expression before it does any work on it, and may end on the way.
`Passes` lists the ways, and they are all there are, whatever the work is (`runThrough_passes`).

The work is to prepare the expression and to evaluate it, and both call functions. `runOn` is a run in which a
`Host` says what they do, from a past of calls on; evaluation starts after the calls of the preparation.

Main statement: with functions that stand by their bodies it is a run, steps included (`runOn_standing`).
-/

namespace Reckon

open Reckon.Expr
open Allowance (asked_and_refused_iff not_asked_and_refused_iff)

/-! ## The ways of a run -/

/-- What becomes of a run whose work on the expression is given. -/
inductive Passes (settings : Settings) (scope : Scope) (nesting : Nesting) (text : String)
    (work : Expr → Run) : Run → Prop where
  | unread {err : CompileError} (hcompile : compile nesting text = .error err) :
      Passes settings scope nesting text work ⟨[], .error (.compiling err)⟩
  | tooDeepToLookOver {e : Expr} (hcompile : compile nesting text = .ok e)
      (hvalidate : settings.validate = true) (hrefused : nesting.validation.grants e.depth = false) :
      Passes settings scope nesting text work ⟨[], .error .exhausted⟩
  | unresolved {e : Expr} {problem : Problem} (hcompile : compile nesting text = .ok e)
      (hlook : settings.validate = true → nesting.validation.grants e.depth = true)
      (hproblem : settings.problem? scope e = some problem) :
      Passes settings scope nesting text work ⟨[], .error (.evaluating problem.toEvalError)⟩
  | tooDeepToRewrite {e : Expr} (hcompile : compile nesting text = .ok e)
      (hproblem : settings.problem? scope e = none)
      (hrewrite : (settings.foldConstants || settings.optimize) = true)
      (hrefused : nesting.optimization.grants e.depth = false) :
      Passes settings scope nesting text work ⟨[], .error .exhausted⟩
  | worked {e : Expr} (hcompile : compile nesting text = .ok e)
      (hlook : settings.validate = true → nesting.validation.grants e.depth = true)
      (hproblem : settings.problem? scope e = none)
      (hgranted : (settings.foldConstants || settings.optimize) = true →
        nesting.optimization.grants e.depth = true) :
      Passes settings scope nesting text work (work e)

theorem runThrough_passes (settings : Settings) (scope : Scope) (nesting : Nesting) (text : String)
    (work : Expr → Run) :
    Passes settings scope nesting text work (runThrough settings scope nesting text work) := by
  unfold runThrough
  cases hcompile : compile nesting text with
  | error err => exact .unread hcompile
  | ok e =>
    dsimp only
    split
    · next hdeep =>
      obtain ⟨hvalidate, hrefused⟩ := asked_and_refused_iff.mp hdeep
      exact .tooDeepToLookOver hcompile hvalidate hrefused
    · next hlook =>
      have hlook := not_asked_and_refused_iff.mp hlook
      cases hproblem : settings.problem? scope e with
      | some problem => exact .unresolved hcompile hlook hproblem
      | none =>
        dsimp only
        split
        · next hdeep =>
          obtain ⟨hrewrite, hrefused⟩ := asked_and_refused_iff.mp hdeep
          exact .tooDeepToRewrite hcompile hproblem hrewrite hrefused
        · next hgranted =>
          exact .worked hcompile hlook hproblem (not_asked_and_refused_iff.mp hgranted)

theorem runThrough_of_error {settings : Settings} {scope : Scope} {nesting : Nesting} {text : String}
    {work : Expr → Run} {err : CompileError} (h : compile nesting text = .error err) :
    runThrough settings scope nesting text work = ⟨[], .error (.compiling err)⟩ := by
  unfold runThrough
  rw [h]

/-- A run of which no stage before the work is in the way comes to the work. -/
theorem runThrough_of_ok {settings : Settings} {scope : Scope} {nesting : Nesting} {text : String}
    {work : Expr → Run} {e : Expr} (h : compile nesting text = .ok e)
    (hlook : settings.validate = true → nesting.validation.grants e.depth = true)
    (hproblem : settings.problem? scope e = none)
    (hgranted : (settings.foldConstants || settings.optimize) = true →
      nesting.optimization.grants e.depth = true) :
    runThrough settings scope nesting text work = work e := by
  unfold runThrough
  rw [h]
  dsimp only
  rw [if_neg (not_asked_and_refused_iff.mpr hlook), hproblem]
  exact if_neg (not_asked_and_refused_iff.mpr hgranted)

/-! ## Runs on a host -/

variable (settings : Settings) (scope : Scope) (host : Host) (nesting : Nesting) (text : String)
  (past : List (Callable × List Value)) (e : Expr)

/-- The expression prepared for evaluation on a host, and what was done on the way. -/
def Settings.prepareOn : Expr × List Deed :=
  if settings.foldConstants then e.optimizeOn scope host nesting.evaluation past
  else if settings.optimize then (e.lazy, e.conversionDeeds)
  else (e, [])

/-- Prepare an expression as the settings say, and evaluate it, on a host. -/
def Settings.carryOutOn : Run :=
  let (prepared, deeds) := settings.prepareOn scope host nesting past e
  let outcome :=
    (prepared.follow scope host nesting.evaluation).after (past ++ deeds.filterMap Deed.step?)
  ⟨(deeds.map Deed.event).map .event ++ [.evaluating text] ++ outcome.traced.trace.map .event,
    outcome.result.mapError .evaluating⟩

/-- Compile, look over, optimize and evaluate a text, on a host that has seen the calls of the past. -/
def runOn : Run :=
  runThrough settings scope nesting text (settings.carryOutOn scope host nesting text past)

theorem prepareOn_standing :
    ((settings.prepareOn scope .standing nesting past e).1,
      (settings.prepareOn scope .standing nesting past e).2.map Deed.event) =
        settings.prepare scope nesting e := by
  unfold Settings.prepareOn Settings.prepare
  split
  · exact optimizeOn_standing _ e past
  · split
    · rw [conversionDeeds_events]
    · rfl

theorem carryOutOn_standing :
    settings.carryOutOn scope .standing nesting text past e =
      settings.carryOut scope nesting text e := by
  rw [Settings.carryOut, ← prepareOn_standing settings scope nesting past e, Settings.carryOutOn]
  dsimp only
  rw [← follow_standing (settings.prepareOn scope .standing nesting past e).1 nesting.evaluation
    (past ++ (settings.prepareOn scope .standing nesting past e).2.filterMap Deed.step?)]
  rfl

/-- **With functions that stand by their bodies it is a run**, whatever was called before. -/
theorem runOn_standing :
    runOn settings scope .standing nesting text past = run settings scope nesting text := by
  unfold runOn run
  congr 1
  funext e
  exact carryOutOn_standing settings scope nesting text past e

end Reckon
