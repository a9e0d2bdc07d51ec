import Reckon.Proofs.Eval.Depth
import Reckon.Proofs.Except
import Reckon.Proofs.Expr.Depth
import Reckon.Proofs.Expr.Printing
import Reckon.Proofs.Pipeline.Hosted

/-!
# `Proofs.Pipeline.Depth` — what a run makes of an expression that is too deep

A run goes through four stages, and each of them may be granted fewer levels of nesting than an expression
takes. Reading and evaluating report that as errors of their own kind, and are otherwise unaffected; `Reports`
lists these ends of a run. Looking over and rewriting have no such report: they exhaust the run (`Exhausts`).
All this is so whatever the functions do that are called.

A sum of many numbers is read on one level, however long it is, but it is as deep as it is long
(`depth_sums`). So it passes the parser and exhausts rewriting (`run_sums`), where evaluation would have
reported it (`run_sums_evaluated`).

Main statement: `run_ends`.
-/

namespace Reckon

open Reckon.Expr

/-! ## Reading a text -/

/-- A text compiles as it does without a bound, or it has more tokens than levels are granted and the fault
is that nesting is too deep. -/
theorem compile_cutShort (nesting : Nesting) (text : String) :
    compile nesting text = compile Nesting.unbounded text ∨
      ∃ tokens consumed, tokenize text = .ok tokens ∧
        nesting.parsing.grants (tokens.length + 1) = false ∧
        compile nesting text = .error (.grammatical ⟨.nestedTooDeeply, consumed⟩) := by
  unfold compile
  cases tokenize text with
  | error err => exact .inl rfl
  | ok tokens =>
    dsimp only
    rcases parseTokens_cutShort nesting.parsing tokens with h | ⟨hrefused, ⟨cause, consumed⟩, hdeep, h⟩
    · rw [h]
      exact .inl rfl
    · rw [h]
      cases hdeep
      exact .inr ⟨tokens, consumed, rfl, hrefused, rfl⟩

/-! ## The ends of a run -/

/-- A stage without a report of its own is granted too few levels: looking over, or, if nothing is found
there, rewriting. -/
def Exhausts (settings : Settings) (scope : Scope) (nesting : Nesting) (e : Expr) : Prop :=
  settings.validate = true ∧ nesting.validation.grants e.depth = false ∨
    settings.problem? scope e = none ∧ (settings.foldConstants || settings.optimize) = true ∧
      nesting.optimization.grants e.depth = false

/-- What evaluating the prepared expression comes to on a host, with so many levels granted. -/
def Settings.finish (settings : Settings) (scope : Scope) (host : Host) (nesting : Nesting)
    (past : List (Callable × List Value)) (e : Expr) (allowance : Allowance) : Except EvalError Value :=
  let (prepared, deeds) := settings.prepareOn scope host nesting past e
  ((prepared.follow scope host allowance).after (past ++ deeds.filterMap Deed.step?)).result

/-- The ends of a run that no stage exhausts. Only too few levels for it can make an end differ from the one
without a bound on reading and on evaluation, and the stage concerned says so. -/
inductive Reports (settings : Settings) (scope : Scope) (host : Host) (nesting : Nesting) (text : String)
    (past : List (Callable × List Value)) : Except RunError Value → Prop where
  | malformed {err : CompileError} (hcompile : compile Nesting.unbounded text = .error err) :
      Reports settings scope host nesting text past (.error (.compiling err))
  | tooDeepToRead {tokens : List Token} {consumed : Nat} (htokens : tokenize text = .ok tokens)
      (hrefused : nesting.parsing.grants (tokens.length + 1) = false) :
      Reports settings scope host nesting text past
        (.error (.compiling (.grammatical ⟨.nestedTooDeeply, consumed⟩)))
  | unresolved {e : Expr} {problem : Problem} (hcompile : compile Nesting.unbounded text = .ok e)
      (hproblem : settings.problem? scope e = some problem) :
      Reports settings scope host nesting text past (.error (.evaluating problem.toEvalError))
  | evaluated {e : Expr} (hcompile : compile Nesting.unbounded text = .ok e)
      (hproblem : settings.problem? scope e = none) :
      Reports settings scope host nesting text past
        ((settings.finish scope host nesting past e none).mapError .evaluating)
  | tooDeepToEvaluate {e : Expr} (hcompile : compile Nesting.unbounded text = .ok e)
      (hproblem : settings.problem? scope e = none)
      (hrefused : nesting.evaluation.grants (settings.prepareOn scope host nesting past e).1.depth = false) :
      Reports settings scope host nesting text past (.error (.evaluating .nestedTooDeeply))

section Run

variable {settings : Settings} {scope : Scope} {host : Host} {nesting : Nesting} {text : String}
  {past : List (Callable × List Value)} {e : Expr}

/-- With functions that stand by their bodies the end is the outcome of the prepared expression. -/
theorem finish_standing :
    settings.finish scope .standing nesting past e none = outcome scope (settings.prepare scope nesting e).1 := by
  have hprepare := prepareOn_standing settings scope nesting past e
  unfold Settings.finish outcome
  rw [← hprepare]
  dsimp only
  rw [← follow_standing (settings.prepareOn scope .standing nesting past e).1 none
    (past ++ (settings.prepareOn scope .standing nesting past e).2.filterMap Deed.step?)]
  rfl

/-- An expression that exhausts a stage exhausts the run. -/
theorem runThrough_exhausted (work : Expr → Run) (h : compile nesting text = .ok e)
    (hex : Exhausts settings scope nesting e) :
    (runThrough settings scope nesting text work).result = .error .exhausted := by
  have hpasses := runThrough_passes settings scope nesting text work
  generalize runThrough settings scope nesting text work = r at hpasses ⊢
  cases hpasses with
  | unread hcompile =>
    rw [h] at hcompile
    cases hcompile
  | tooDeepToLookOver _ _ _ => rfl
  | tooDeepToRewrite _ _ _ _ => rfl
  | unresolved hcompile hlook hproblem =>
    -- there was room for looking over, and rewriting is not come to
    cases h.symm.trans hcompile
    rcases hex with ⟨hvalidate, hrefused⟩ | ⟨hnone, -, -⟩
    · rw [hlook hvalidate] at hrefused
      cases hrefused
    · rw [hproblem] at hnone
      cases hnone
  | worked hcompile hlook hproblem hgranted =>
    -- there was room for both
    cases h.symm.trans hcompile
    rcases hex with ⟨hvalidate, hrefused⟩ | ⟨-, hrewrite, hrefused⟩
    · rw [hlook hvalidate] at hrefused
      cases hrefused
    · rw [hgranted hrewrite] at hrefused
      cases hrefused

theorem result_carryOutOn :
    (settings.carryOutOn scope host nesting text past e).result =
      (settings.finish scope host nesting past e nesting.evaluation).mapError .evaluating :=
  rfl

/-- Only too few levels make the end differ from the one without a bound. -/
theorem finish_cutShort (a : Allowance) :
    settings.finish scope host nesting past e a = settings.finish scope host nesting past e none ∨
      a.grants (settings.prepareOn scope host nesting past e).1.depth = false ∧
        settings.finish scope host nesting past e a = .error .nestedTooDeeply := by
  unfold Settings.finish
  rcases follow_cutShort (settings.prepareOn scope host nesting past e).1 a
    (past ++ (settings.prepareOn scope host nesting past e).2.filterMap Deed.step?) with hsame | hdeep
  · exact .inl (congrArg Followed.result hsame)
  · exact .inr hdeep

/-- The work on an expression is never exhausted. It ends as evaluation does without a bound, or reports that
nesting is too deep for it. -/
theorem carryOutOn_reports (hcompile : compile Nesting.unbounded text = .ok e)
    (hproblem : settings.problem? scope e = none) :
    (settings.carryOutOn scope host nesting text past e).result ≠ .error .exhausted ∧
      Reports settings scope host nesting text past
        (settings.carryOutOn scope host nesting text past e).result := by
  rw [result_carryOutOn]
  constructor
  · cases settings.finish scope host nesting past e nesting.evaluation <;> nofun
  · rcases finish_cutShort nesting.evaluation with hsame | ⟨hrefused, hdeep⟩
    · rw [hsame]
      exact .evaluated hcompile hproblem
    · rw [hdeep]
      exact .tooDeepToEvaluate hcompile hproblem hrefused

/-- A text that is read at some nesting is read without a bound. -/
theorem compile_unbounded (h : compile nesting text = .ok e) : compile Nesting.unbounded text = .ok e := by
  rcases compile_cutShort nesting text with hsame | ⟨_, _, _, _, hdeep⟩
  · rw [← hsame]
    exact h
  · rw [hdeep] at h
    cases h

/-- What is not read is malformed, or too deep to be read. -/
theorem reports_unread {err : CompileError} (h : compile nesting text = .error err) :
    Reports settings scope host nesting text past (.error (.compiling err)) := by
  rcases compile_cutShort nesting text with hsame | ⟨tokens, consumed, htokens, hrefused, hdeep⟩
  · rw [hsame] at h
    exact .malformed h
  · rw [hdeep] at h
    cases h
    exact .tooDeepToRead htokens hrefused

/-- A run that is exhausted was exhausted by a stage; any other run reports. -/
theorem runOn_ends :
    (runOn settings scope host nesting text past).result = .error .exhausted ∧
        (∃ e, compile nesting text = .ok e ∧ Exhausts settings scope nesting e) ∨
      (runOn settings scope host nesting text past).result ≠ .error .exhausted ∧
        Reports settings scope host nesting text past
          (runOn settings scope host nesting text past).result := by
  have hpasses := runThrough_passes settings scope nesting text
    (settings.carryOutOn scope host nesting text past)
  unfold runOn
  generalize runThrough settings scope nesting text _ = r at hpasses ⊢
  cases hpasses with
  | unread hcompile => exact .inr ⟨nofun, reports_unread hcompile⟩
  | tooDeepToLookOver hcompile hvalidate hrefused =>
    exact .inl ⟨rfl, _, hcompile, .inl ⟨hvalidate, hrefused⟩⟩
  | tooDeepToRewrite hcompile hproblem hrewrite hrefused =>
    exact .inl ⟨rfl, _, hcompile, .inr ⟨hproblem, hrewrite, hrefused⟩⟩
  | unresolved hcompile hlook hproblem =>
    exact .inr ⟨nofun, .unresolved (compile_unbounded hcompile) hproblem⟩
  | worked hcompile hlook hproblem hgranted =>
    exact .inr (carryOutOn_reports (compile_unbounded hcompile) hproblem)

end Run

/-- **Main theorem.** Whatever the functions do, and whatever was called before: a run is exhausted exactly if
its text is read as an expression that exhausts a stage before evaluation. Any other run ends in a value or in
an error that its stage reports: a text that is no expression, a reference that leads nowhere, an evaluation
that fails, and nesting that is too deep to read or to evaluate. Running a text is the case of functions that
stand by their bodies, where evaluation ends in the outcome of the prepared expression. -/
theorem run_ends (settings : Settings) (scope : Scope) (nesting : Nesting) (text : String) :
    (∀ (host : Host) (past : List (Callable × List Value)),
      ((runOn settings scope host nesting text past).result = .error .exhausted ↔
        ∃ e, compile nesting text = .ok e ∧ Exhausts settings scope nesting e) ∧
      ((runOn settings scope host nesting text past).result ≠ .error .exhausted →
        Reports settings scope host nesting text past
          (runOn settings scope host nesting text past).result)) ∧
    ∀ past, runOn settings scope .standing nesting text past = run settings scope nesting text ∧
      ∀ e, settings.finish scope .standing nesting past e none =
        outcome scope (settings.prepare scope nesting e).1 := by
  constructor
  · intro host past
    constructor
    · refine ⟨fun hresult => ?_, fun ⟨e, hcompile, hex⟩ => runThrough_exhausted _ hcompile hex⟩
      rcases runOn_ends with ⟨-, hex⟩ | ⟨hne, -⟩
      · exact hex
      · exact absurd hresult hne
    · intro hne
      rcases runOn_ends with ⟨hresult, -⟩ | ⟨-, hreports⟩
      · exact absurd hresult hne
      · exact hreports
  · intro past
    exact ⟨runOn_standing settings scope nesting text past, fun e => finish_standing⟩

/-! ## Long sums -/

/-- The numeral `1`. -/
def oneNumeral : Number.Numeral := ⟨['1'], [], 0⟩

/-- The number one. -/
def one : Expr := .literal (.number oneNumeral.value)

/-- A sum of ones, with so many plus signs. -/
def sums : Nat → Expr
  | 0 => one
  | n + 1 => .binary .plus (sums n) one

/-- The tokens of the sum from left to right. -/
def sumsTokens : Nat → List Token
  | 0 => [.literal (.number oneNumeral.value)]
  | n + 1 => .literal (.number oneNumeral.value) :: .operator .plus :: sumsTokens n

/-- The text of the sum. -/
def sumsText : Nat → String
  | 0 => "1"
  | n + 1 => "1" ++ " " ++ ("+" ++ " " ++ sumsText n)

theorem oneNumeral_plain : oneNumeral.Plain :=
  ⟨by decide, by decide, List.cons_ne_nil _ _, rfl⟩

theorem sums_writable (n : Nat) : (sums n).Writable := by
  have hone : one.Writable := .literal ⟨_, oneNumeral_plain, rfl⟩
  induction n with
  | zero => exact hone
  | succ n ih => exact .binary nofun ih hone

theorem needsParens_sums (n : Nat) : (sums n).needsParens Operator.plus.precedence.level = false := by
  cases n <;> rfl

theorem sumsTokens_concat (n : Nat) :
    sumsTokens n ++ [.operator .plus, .literal (.number oneNumeral.value)] = sumsTokens (n + 1) := by
  induction n with
  | zero => rfl
  | succ n ih =>
    rw [sumsTokens, List.cons_append, List.cons_append, ih]
    rfl

theorem tokens_sums (n : Nat) : (sums n).tokens = sumsTokens n := by
  induction n with
  | zero => rfl
  | succ n ih =>
    rw [sums, Expr.tokens, needsParens_sums, ih]
    exact sumsTokens_concat n

theorem sums_written (n : Nat) : Written (sums n).tokens (sumsText n) := by
  have hone : (Token.literal (.number oneNumeral.value)).Spelled ['1'] := .number oneNumeral_plain
  have hplus : (Token.operator .plus).Spelled ['+'] := .mark (by simp [Token.marks])
  have hspace : Lexer.Gap " ".toList ∧ " " ≠ "" := by decide
  rw [tokens_sums]
  induction n with
  | zero => exact .single hone
  | succ n ih => exact .cons hone hspace.1 hspace.2 (.cons hplus hspace.1 hspace.2 ih)

/-- Reading takes no more than one level below a sum, however long it is. -/
theorem reach_sums (n : Nat) : (sums n).reach ≤ 1 := by
  induction n with
  | zero => exact Nat.zero_le 1
  | succ n ih =>
    unfold sums Expr.reach
    rw [needsParens_sums]
    exact Nat.max_le.mpr ⟨ih, Nat.le_refl 1⟩

theorem depth_sums (n : Nat) : (sums n).depth = n + 1 := by
  induction n with
  | zero => rfl
  | succ n ih =>
    unfold sums Expr.depth
    rw [ih, show one.depth = 1 from rfl, Nat.max_eq_left (Nat.le_add_left 1 n)]

/-- A sum of any length is read. -/
theorem compile_sums (n : Nat) : compile Nesting.standard (sumsText n) = .ok (sums n) := by
  have hgranted : Nesting.standard.parsing.grants ((sums n).reach + 1) = true :=
    Allowance.grants_of_le (Nat.succ_le_succ (reach_sums n)) (by decide)
  exact (compile_of_reach (sums_writable n) Nesting.standard (sums_written n)).1 hgranted

/-- A sum of more than 960 numbers exhausts the run, with the options and the nesting of ordinary use. -/
theorem run_sums (scope : Scope) {n : Nat} (h : 960 ≤ n) :
    (run Settings.standard scope Nesting.standard (sumsText n)).result = .error .exhausted := by
  refine runThrough_exhausted _ (compile_sums n) (.inr ⟨rfl, rfl, ?_⟩)
  rw [depth_sums]
  exact decide_eq_false (Nat.not_le_of_lt (Nat.lt_succ_of_le h))

/-- Such a run ends in neither a value nor a fault of the text nor an error of evaluation. -/
theorem longSum_exhausts :
    compile Nesting.standard (sumsText 2999) = .ok (sums 2999) ∧
      (run Settings.standard Scope.empty Nesting.standard (sumsText 2999)).result =
        .error .exhausted :=
  ⟨compile_sums 2999, run_sums Scope.empty (by decide)⟩

/-- With fewer levels than a sum takes, the innermost of its operands are never reached. -/
theorem eval_sums (scope : Scope) {n k : Nat} (h : k ≤ n) :
    (eval scope (some k) (sums n)).result = .error .nestedTooDeeply := by
  induction n generalizing k with
  | zero =>
    rw [Nat.le_zero.mp h]
    rfl
  | succ n ih =>
    rw [sums, eval]
    cases k with
    | zero => rfl
    | succ k =>
      show (Traced.bind (eval scope (some k) (sums n)) _).result = _
      rw [Traced.result_bind, ih (Nat.le_of_succ_le_succ h)]
      rfl

/-- The options with nothing done before evaluation. -/
def evaluatingOnly : Settings :=
  { Settings.standard with optimize := false }

/-- When nothing is done before evaluation, the depth of a sum is reported. -/
theorem run_sums_evaluated (scope : Scope) {n : Nat} (h : 320 ≤ n) :
    (run evaluatingOnly scope Nesting.standard (sumsText n)).result =
      .error (.evaluating .nestedTooDeeply) := by
  have hunasked : evaluatingOnly.validate = false ∧
      (evaluatingOnly.foldConstants || evaluatingOnly.optimize) = false := ⟨rfl, rfl⟩
  unfold run
  rw [runThrough_of_ok (compile_sums n) (by simp [hunasked]) rfl (by simp [hunasked])]
  show (eval scope (some 320) (sums n)).result.mapError RunError.evaluating = _
  rw [eval_sums scope h]
  rfl

theorem longSum_reported :
    (run evaluatingOnly Scope.empty Nesting.standard (sumsText 2999)).result =
        .error (.evaluating .nestedTooDeeply) ∧
      Reports evaluatingOnly Scope.empty .standing Nesting.standard (sumsText 2999) []
        (run evaluatingOnly Scope.empty Nesting.standard (sumsText 2999)).result := by
  have hresult := run_sums_evaluated Scope.empty (n := 2999) (by decide)
  obtain ⟨hends, hstanding⟩ := run_ends evaluatingOnly Scope.empty Nesting.standard (sumsText 2999)
  obtain ⟨hsame, -⟩ := hstanding []
  refine ⟨hresult, ?_⟩
  rw [← hsame] at hresult ⊢
  refine (hends .standing []).2 ?_
  rw [hresult]
  nofun

end Reckon
