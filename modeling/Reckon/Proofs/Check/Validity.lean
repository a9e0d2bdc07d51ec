import Reckon.Library.General
import Reckon.Proofs.Except
import Reckon.Proofs.Expr.Parsing
import Reckon.Proofs.Library.Drawing
import Reckon.Proofs.Pipeline.Hosted
import Reckon.Proofs.Token.Cutting

/-!
# `Proofs.Check.Validity` — what a valid expression cannot run into

An expression is valid in a scope when `validate` finds no problem with it. Two things are shown of
valid expressions, whatever the functions do that are called, and whatever was called before.

  * Optimizing keeps them valid (`validate_lazy`, `validate_foldOn`, `validate_optimizeOn`). Making
    conditionals drops the call of `if_then`, but looking over a conditional asks for that function still;
    folding only drops parts or puts literals in their place.
  * Evaluating them never fails over a reference, at any level of nesting (`follow_resolved`): what
    `validate` asks of a node is what the evaluator looks up there.

Main statement: both together, and what follows for runs: when a run looks over the expression first, a
failure over a reference is the problem that looking over found (`valid_never_unresolved`).
-/

namespace Reckon

/-- The kinds of errors about a name that leads nowhere, or a call with a wrong number of parameters. -/
def EvalErrorKind.ofReference : EvalErrorKind → Bool
  | missingFunction | paramCountMismatch | undefinedVariable => true
  | typeMismatch | nativeFunctionError | nestingTooDeep => false

/-! ## Evaluations that do not fail over a reference -/

namespace Traced

variable {α : Type}

/-- If it fails, then not over a reference. -/
def Resolved (t : Traced α) : Prop :=
  ∀ err, t.result = .error err → err.kind.ofReference = false

theorem Resolved.done (a : α) : (done a).Resolved := by
  intro err h
  cases h

theorem Resolved.fail {err : EvalError} (h : err.kind.ofReference = false) :
    (fail err : Traced α).Resolved := by
  intro err' h'
  cases h'
  exact h

theorem Resolved.ofOperation (r : Except Mismatch α) : (ofOperation r).Resolved := by
  cases r with
  | error cause => exact .fail rfl
  | ok a => exact .done a

end Traced

theorem requireTruth_resolved (op : Operator) (v : Value) : (requireTruth op v).Resolved := by
  cases v with
  | boolean b => exact .done b
  | _ => exact .fail rfl

theorem applyUnary_resolved (op : Operator) (v : Value) : (applyUnary op v).Resolved := by
  cases op with
  | not | minus => exact .ofOperation _
  | _ => exact .fail rfl

theorem applyBinary_resolved (op : Operator) (v w : Value) : (applyBinary op v w).Resolved := by
  cases op with
  | plus | minus | times | divide | div | mod | xor => exact .ofOperation _
  | greater | greaterEqual | less | lessEqual => exact .done _
  | _ => exact .fail rfl

namespace Following

variable {α β : Type} {w : Following α}

/-- Whatever was called before: if it fails, then not over a reference. -/
def Resolved (w : Following α) : Prop :=
  ∀ past err, (w.after past).result = .error err → err.kind.ofReference = false

theorem Resolved.still {t : Traced α} (h : t.Resolved) : (Following.still t).Resolved :=
  fun _ => h

theorem Resolved.done (a : α) : (Following.still (.done a)).Resolved :=
  .still (.done a)

theorem Resolved.fail {err : EvalError} (h : err.kind.ofReference = false) :
    (Following.still (.fail err : Traced α)).Resolved :=
  .still (.fail h)

theorem Resolved.bind {next : α → Following β} (h : w.Resolved) (hn : ∀ a, (next a).Resolved) :
    (w.bind next).Resolved := by
  intro past err herr
  cases hr : (w.after past).result with
  | error e =>
    rw [after_bind_of_error hr] at herr
    cases herr
    exact h past err hr
  | ok a =>
    rw [after_bind_of_ok hr] at herr
    exact hn a _ err herr

theorem Resolved.map (h : w.Resolved) (f : α → β) : (w.map f).Resolved :=
  h.bind fun _ => .done _

theorem Resolved.under (i : Nat) (h : w.Resolved) : (w.under i).Resolved := h

theorem Resolved.within {body : Allowance → Following α} (a : Allowance)
    (h : ∀ inner, (body inner).Resolved) : (within a body).Resolved := by
  unfold Following.within
  cases a.descend with
  | none => exact .fail rfl
  | some inner => exact h inner

theorem Resolved.tolerant {scope : Scope} {e : Expr} {w : Following Value} (h : w.Resolved) :
    (w.tolerant scope e).Resolved := by
  cases e with
  | «variable» name => exact .done _
  | _ => exact h.map _

/-- Whatever goes wrong inside a function, the call as such is in order. -/
theorem Resolved.invoke (host : Host) (f : Callable) (name : String) (count : Nat) (params : List Value) :
    (invoke host f name count params).Resolved := by
  intro past err h
  unfold Following.invoke at h
  dsimp only at h
  cases hbody : host past f params with
  | error cause =>
    rw [hbody] at h
    cases h
    rfl
  | ok v =>
    rw [hbody] at h
    cases h

end Following

open Following (Resolved)

namespace Expr

variable {scope : Scope} {host : Host}

/-! ## What it takes to be valid, node by node -/

theorem checkCall_eq_none {name : String} {count : Nat} :
    checkCall scope name count = none ↔
      ∃ f, scope.callable? name = some f ∧ f.arity.accepts count = true := by
  unfold checkCall
  cases scope.callable? name with
  | none => simp
  | some f => simp

theorem validate_variable {name : String} :
    validate scope (.variable name) = none ↔ ∃ v, scope.value? name = some v := by
  rw [validate]
  cases scope.value? name with
  | none => simp
  | some v => simp

theorem validate_call {name : String} {params : List Expr} :
    validate scope (call name params) = none ↔
      checkCall scope name params.length = none ∧ validateAll scope params = none := by
  rw [validate, Option.or_eq_none_iff]

theorem validate_unary {op : Operator} {operand : Expr} :
    validate scope (unary op operand) = none ↔ validate scope operand = none := by
  rw [validate]

theorem validate_binary {op : Operator} {left right : Expr} :
    validate scope (binary op left right) = none ↔
      validate scope left = none ∧ validate scope right = none := by
  rw [validate, Option.or_eq_none_iff]

theorem validate_array {elements : List Expr} :
    validate scope (array elements) = none ↔ validateAll scope elements = none := by
  rw [validate]

theorem validate_ternary {op : Operator} {condition thenBranch elseBranch : Expr} :
    validate scope (ternary op condition thenBranch elseBranch) = none ↔
      checkCall scope conditionalName 3 = none ∧ validate scope condition = none ∧
        validate scope thenBranch = none ∧ validate scope elseBranch = none := by
  rw [validate, Option.or_eq_none_iff, Option.or_eq_none_iff, Option.or_eq_none_iff]

theorem validateAll_cons {e : Expr} {rest : List Expr} :
    validateAll scope (e :: rest) = none ↔
      validate scope e = none ∧ validateAll scope rest = none := by
  rw [validateAll, Option.or_eq_none_iff]

/-! ## Evaluation -/

mutual

/-- **A valid expression does not fail over a reference**, whatever the functions do. -/
theorem follow_resolved : (e : Expr) → validate scope e = none →
    ∀ a, (follow scope host a e).Resolved
  | literal v, _, a => by
    rw [follow_literal]
    exact .within a fun _ => .done v
  | .variable name, h, a => by
    obtain ⟨v, hv⟩ := validate_variable.mp h
    rw [follow_variable, hv]
    exact .within a fun _ => .done v
  | .unary op operand, h, a => by
    rw [follow_unary]
    refine Resolved.within a ?_
    intro inner
    have ho := (follow_resolved operand (validate_unary.mp h) inner).under 0
    exact ho.bind fun v => .still (applyUnary_resolved op v)
  | .binary op left right, h, a => by
    obtain ⟨hl, hr⟩ := validate_binary.mp h
    rw [follow_binary]
    refine Resolved.within a ?_
    intro inner
    have hl' := (follow_resolved left hl inner).under 0
    have hr' := (follow_resolved right hr inner).under 1
    cases op.reading with
    | short decider =>
      refine (hl'.bind fun v => .still (requireTruth_resolved op v)).bind ?_
      intro holds
      split
      · exact .done _
      · exact (hr'.bind fun v => .still (requireTruth_resolved op v)).map _
    | tolerant => exact hl'.tolerant.bind fun x => hr'.tolerant.map _
    | strict => exact hl'.bind fun v => hr'.bind fun w => .still (applyBinary_resolved op v w)
  | .ternary op condition thenBranch elseBranch, h, a => by
    obtain ⟨-, hc, ht, hf⟩ := validate_ternary.mp h
    by_cases hop : op = .conditional
    · rw [hop, follow_conditional]
      refine Resolved.within a ?_
      intro inner
      have hc' := (follow_resolved condition hc inner).under 0
      refine (hc'.bind fun v => .still (requireTruth_resolved _ v)).bind ?_
      intro holds
      cases holds with
      | true => exact (follow_resolved thenBranch ht inner).under 1
      | false => exact (follow_resolved elseBranch hf inner).under 2
    · rw [follow_unfit hop]
      exact .within a fun _ => .fail rfl
  | .array elements, h, a => by
    rw [follow_array]
    exact .within a fun inner => (followFrom_resolved elements (validate_array.mp h) inner 0).map _
  | .call name params, h, a => by
    obtain ⟨hcall, hparams⟩ := validate_call.mp h
    obtain ⟨f, hf, haccepts⟩ := checkCall_eq_none.mp hcall
    rw [follow_call, hf]
    refine Resolved.within a ?_
    intro inner
    dsimp only
    rw [if_pos haccepts]
    have hvalues := followFrom_resolved params hparams inner 0
    exact hvalues.bind (.invoke host f name params.length)

theorem followFrom_resolved : (es : List Expr) → validateAll scope es = none →
    ∀ a i, (followFrom scope host a i es).Resolved
  | [], _, a, i => by
    rw [followFrom]
    exact .done []
  | e :: rest, h, a, i => by
    obtain ⟨he, hrest⟩ := validateAll_cons.mp h
    rw [followFrom]
    have he' := (follow_resolved e he a).under i
    exact he'.bind fun _ => (followFrom_resolved rest hrest a (i + 1)).map _

end

/-! ## Optimizing -/

/-- Looking over a conditional asks for the function of the call that it comes from. -/
theorem validate_conditionalOf {name : String} {params : List Expr}
    (h : validate scope (call name params) = none) :
    validate scope (conditionalOf name params) = none := by
  unfold conditionalOf
  split
  · next condition thenBranch elseBranch =>
    split
    · next hname =>
      obtain ⟨hcall, hparams⟩ := validate_call.mp h
      obtain ⟨hc, hparams⟩ := validateAll_cons.mp hparams
      obtain ⟨ht, hparams⟩ := validateAll_cons.mp hparams
      obtain ⟨hf, -⟩ := validateAll_cons.mp hparams
      refine validate_ternary.mpr ⟨?_, hc, ht, hf⟩
      -- the two names differ in letter case at most, so they are one name to the scope
      have hsame : scope.callable? conditionalName = scope.callable? name := by
        rw [Scope.callable?, Scope.callable?, hname]
        rfl
      obtain ⟨f, hfound, haccepts⟩ := checkCall_eq_none.mp hcall
      exact checkCall_eq_none.mpr ⟨f, hsame.trans hfound, haccepts⟩
    · exact h
  · exact h

theorem length_lazyAll (es : List Expr) : (lazyAll es).length = es.length := by
  induction es with
  | nil => rfl
  | cons e rest ih => rw [lazyAll, List.length_cons, List.length_cons, ih]

mutual

theorem validate_lazy : (e : Expr) → validate scope e = none → validate scope e.lazy = none
  | literal _, h | .variable _, h => h
  | .call name params, h => by
    obtain ⟨hcall, hparams⟩ := validate_call.mp h
    rw [lazy]
    refine validate_conditionalOf (validate_call.mpr ⟨?_, validateAll_lazyAll params hparams⟩)
    rw [length_lazyAll]
    exact hcall
  | .unary _ operand, h => validate_unary.mpr (validate_lazy operand (validate_unary.mp h))
  | .binary _ left right, h =>
    have ⟨hl, hr⟩ := validate_binary.mp h
    validate_binary.mpr ⟨validate_lazy left hl, validate_lazy right hr⟩
  | .array elements, h =>
    validate_array.mpr (validateAll_lazyAll elements (validate_array.mp h))
  | .ternary _ condition thenBranch elseBranch, h =>
    have ⟨hcall, hc, ht, hf⟩ := validate_ternary.mp h
    validate_ternary.mpr
      ⟨hcall, validate_lazy condition hc, validate_lazy thenBranch ht, validate_lazy elseBranch hf⟩

theorem validateAll_lazyAll : (es : List Expr) → validateAll scope es = none →
    validateAll scope (lazyAll es) = none
  | [], h => h
  | e :: rest, h =>
    have ⟨he, hrest⟩ := validateAll_cons.mp h
    validateAll_cons.mpr ⟨validate_lazy e he, validateAll_lazyAll rest hrest⟩

end

variable {allowance : Allowance}

theorem validate_attemptOn {e : Expr} (operands : List Expr) (past : List (Callable × List Value))
    (h : validate scope e = none) :
    validate scope ((attemptOn scope host allowance e operands).after past).result = none := by
  unfold attemptOn
  dsimp only
  split
  · split
    · rfl
    · exact h
  · exact h

theorem validate_attemptCallOn {name : String} {params : List Expr}
    (past : List (Callable × List Value)) (h : validate scope (call name params) = none) :
    validate scope ((attemptCallOn scope host allowance name params).after past).result = none := by
  unfold attemptCallOn
  split
  · exact h
  · split
    · exact validate_attemptOn _ past h
    · exact h

theorem validate_chooseBranch {op : Operator} {condition thenBranch elseBranch : Expr}
    (h : validate scope (ternary op condition thenBranch elseBranch) = none) :
    validate scope (chooseBranch op condition thenBranch elseBranch).result = none := by
  obtain ⟨-, -, ht, hf⟩ := validate_ternary.mp h
  unfold chooseBranch
  split
  · exact ht
  · exact hf
  · exact h

mutual

/-- **Folding keeps expressions valid**, whatever the functions do. -/
theorem validate_foldOn : (e : Expr) → validate scope e = none →
    ∀ past, validate scope ((foldOn scope host allowance e).after past).result = none
  | literal _, h, past | .variable _, h, past => by
    rw [foldOn]
    exact h
  | .unary op operand, h, past => by
    have ho := validate_foldOn operand (validate_unary.mp h) past
    rw [foldOn]
    exact validate_attemptOn _ _ (validate_unary.mpr ho)
  | .binary op left right, h, past => by
    obtain ⟨hl, hr⟩ := validate_binary.mp h
    rw [foldOn]
    exact validate_attemptOn _ _
      (validate_binary.mpr ⟨validate_foldOn left hl past, validate_foldOn right hr _⟩)
  | .ternary op condition thenBranch elseBranch, h, past => by
    obtain ⟨hcall, hc, ht, hf⟩ := validate_ternary.mp h
    rw [foldOn]
    exact validate_chooseBranch (validate_ternary.mpr
      ⟨hcall, validate_foldOn condition hc past, validate_foldOn thenBranch ht _,
        validate_foldOn elseBranch hf _⟩)
  | .array elements, h, past => by
    have helements := validateAll_foldAllOn elements (validate_array.mp h) past
    rw [foldOn]
    exact validate_attemptOn _ _ (validate_array.mpr helements)
  | .call name params, h, past => by
    obtain ⟨hcall, hparams⟩ := validate_call.mp h
    rw [foldOn]
    refine validate_attemptCallOn _ (validate_call.mpr ⟨?_, validateAll_foldAllOn params hparams past⟩)
    rw [length_foldAllOn]
    exact hcall

theorem validateAll_foldAllOn : (es : List Expr) → validateAll scope es = none →
    ∀ past, validateAll scope ((foldAllOn scope host allowance es).after past).result = none
  | [], h, past => by
    rw [foldAllOn]
    exact h
  | e :: rest, h, past => by
    obtain ⟨he, hrest⟩ := validateAll_cons.mp h
    rw [foldAllOn]
    exact validateAll_cons.mpr ⟨validate_foldOn e he past, validateAll_foldAllOn rest hrest _⟩

end

theorem validate_settleOn (host : Host) (allowance : Allowance) {e : Expr}
    (h : validate scope e = none) (past : List (Callable × List Value)) :
    validate scope (settleOn scope host allowance e past).1 = none := by
  fun_induction settleOn scope host allowance e past with
  | case1 e past pass deeds hchanged result more hrec ih =>
    have hsettled := ih (validate_lazy _ (validate_foldOn e h past))
    rw [hrec] at hsettled
    exact hsettled
  | case2 e past pass deeds hchanged => exact validate_lazy _ (validate_foldOn e h past)

theorem validate_optimizeOn (host : Host) (allowance : Allowance) {e : Expr}
    (h : validate scope e = none) (past : List (Callable × List Value)) :
    validate scope (optimizeOn scope host allowance e past).1 = none :=
  validate_settleOn host allowance (validate_lazy e h) past

/-- However the settings prepare an expression, it stays valid. -/
theorem validate_prepareOn (settings : Settings) (host : Host) (nesting : Nesting) {e : Expr}
    (h : validate scope e = none) (past : List (Callable × List Value)) :
    validate scope (settings.prepareOn scope host nesting past e).1 = none := by
  unfold Settings.prepareOn
  split
  · exact validate_optimizeOn host _ h past
  · split
    · exact validate_lazy e h
    · exact h

end Expr

/-! ## Runs -/

open Reckon.Expr

/-- When a run looks over the expression and fails over a reference, the failure is the problem that was
found, and evaluation has not begun. -/
theorem runOn_unresolved {settings : Settings} {scope : Scope} {host : Host} {nesting : Nesting}
    {text : String} {past : List (Callable × List Value)} {err : EvalError} (hv : settings.validate = true)
    (h : (runOn settings scope host nesting text past).result = .error (.evaluating err))
    (hk : err.kind.ofReference = true) :
    (runOn settings scope host nesting text past).steps = [] ∧
      ∃ e problem, compile nesting text = .ok e ∧ validate scope e = some problem ∧
        err = problem.toEvalError := by
  have hpasses := runThrough_passes settings scope nesting text
    (settings.carryOutOn scope host nesting text past)
  unfold runOn at h ⊢
  generalize runThrough settings scope nesting text _ = r at h hpasses ⊢
  cases hpasses with
  | unread hcompile => cases h
  | tooDeepToLookOver hcompile hvalidate hrefused => cases h
  | tooDeepToRewrite hcompile hproblem hrewrite hrefused => cases h
  | unresolved hcompile hlook hproblem =>
    rw [Settings.problem?, if_pos hv] at hproblem
    cases h
    exact ⟨rfl, _, _, hcompile, hproblem, rfl⟩
  | worked hcompile hlook hproblem hgranted =>
    -- the expression is valid, so evaluating it cannot end in such an error
    rw [Settings.problem?, if_pos hv] at hproblem
    have hvalid := validate_prepareOn settings host nesting hproblem past
    have hresolved : (follow scope host nesting.evaluation _).Resolved := follow_resolved _ hvalid _
    obtain ⟨_, herr, hsame⟩ := Except.exists_of_mapError_error h
    cases hsame
    rw [hresolved _ err herr] at hk
    cases hk

/-- **Main theorem.** Whatever the functions do, and whatever was called before: a valid expression is still
valid with conditionals made, and with constants folded besides until nothing changes; neither it nor these
fail over a reference, whatever nesting is granted. So a run that looks over its expression fails over a
reference only by what it finds there, before anything is evaluated. Evaluating, optimizing and running a text
are the case of functions that stand by their bodies. -/
theorem valid_never_unresolved (scope : Scope) :
    (∀ (host : Host) (allowance : Allowance) (past : List (Callable × List Value)) (e : Expr),
      validate scope e = none →
        validate scope e.lazy = none ∧ validate scope (optimizeOn scope host allowance e past).1 = none ∧
          ∀ a, (follow scope host a e).Resolved ∧ (follow scope host a e.lazy).Resolved ∧
            (follow scope host a (optimizeOn scope host allowance e past).1).Resolved) ∧
    (∀ (settings : Settings) (host : Host) (nesting : Nesting) (text : String)
        (past : List (Callable × List Value)) (err : EvalError), settings.validate = true →
      (runOn settings scope host nesting text past).result = .error (.evaluating err) →
      err.kind.ofReference = true →
      (runOn settings scope host nesting text past).steps = [] ∧
        ∃ e problem, compile nesting text = .ok e ∧ validate scope e = some problem ∧
          err = problem.toEvalError) ∧
    (∀ a e past, ((follow scope .standing a e).after past).traced = eval scope a e ∧
      ((optimizeOn scope .standing a e past).1,
        (optimizeOn scope .standing a e past).2.map Deed.event) = optimize scope a e) ∧
    ∀ settings nesting text past,
      runOn settings scope .standing nesting text past = run settings scope nesting text := by
  refine ⟨?_, ?_, ?_, ?_⟩
  · intro host allowance past e h
    have hlazy := validate_lazy e h
    have hopt := validate_optimizeOn host allowance h past
    exact ⟨hlazy, hopt, fun a =>
      ⟨follow_resolved e h a, follow_resolved _ hlazy a, follow_resolved _ hopt a⟩⟩
  · intro settings host nesting text past err hv h hk
    exact runOn_unresolved hv h hk
  · intro a e past
    exact ⟨follow_standing e a past, optimizeOn_standing a e past⟩
  · intro settings nesting text past
    exact runOn_standing settings scope nesting text past

/-- `x` is `'a'`, and `if_then` is the function of the library. -/
def choosingText : Scope :=
  (Scope.empty.addVariable "x" (.string "a")).addFunction
    (.bare "if_then" (.withOptional 2 1) true (Library.binaryOptional Library.ifThen))

/-- `IF_THEN(x = '', x, X + true)`: valid, but it adds a truth value to a text. -/
def illMatched : Expr :=
  call "IF_THEN" [binary .equal (.variable "x") (literal (.string "")), .variable "x",
    binary .plus (.variable "X") (literal (.boolean true))]

/-- The options with all three preparations switched on. -/
def preparingAll : Settings :=
  { Settings.standard with foldConstants := true, validate := true }

/-- A valid expression may fail, but over the kinds of its values; the unknown `y` is a failure of
looking over. With functions that draw anew at every call it is no different. -/
theorem valid_never_unresolved_illMatched :
    (validate choosingText illMatched = none ∧
      (eval choosingText none illMatched).result =
        .error (.mismatch (.operands .add .string .boolean)) ∧
      validate choosingText (optimizeOn choosingText .standing none illMatched []).1 = none ∧
      (follow choosingText .standing none (optimizeOn choosingText .standing none illMatched []).1).Resolved) ∧
    ((run preparingAll choosingText Nesting.unbounded "y").result =
        .error (.evaluating (.invalidVariable "y")) ∧
      (EvalError.invalidVariable "y").kind.ofReference = true ∧
      (run preparingAll choosingText Nesting.unbounded "y").steps = []) ∧
    (validate (Scope.empty.addFunctions (chance (drawn 0.5))) rising = none ∧
      ((follow (Scope.empty.addFunctions (chance (drawn 0.5))) climbing none rising).after []).result =
        .ok (.boolean true) ∧
      (follow (Scope.empty.addFunctions (chance (drawn 0.5))) climbing none rising).Resolved) := by
  obtain ⟨hoptimize, hrun, -, hstanding⟩ := valid_never_unresolved choosingText
  have hvalid : validate choosingText illMatched = none := rfl
  have hfails : (run preparingAll choosingText Nesting.unbounded "y").result =
      .error (.evaluating (.invalidVariable "y")) := by
    have htokens : tokenize "y" = .ok [.identifier "y"] :=
      tokenize_of_next (show Lexer.next ['y'] = .token (.identifier "y") [] from rfl)
    have hparse : parseTokens none [.identifier "y"] = .ok (.variable "y") :=
      parseTokens_of_phrase ((Grammar.Phrase.identifier "y").weaken (by decide) (by decide) (by decide))
    have hcompile : compile Nesting.unbounded "y" = .ok (.variable "y") := by
      simp only [compile, htokens]
      rw [show Nesting.unbounded.parsing = none from rfl, hparse]
    unfold run runThrough
    rw [hcompile]
    rfl
  have hsteps : (run preparingAll choosingText Nesting.unbounded "y").steps = [] := by
    rw [← hstanding preparingAll Nesting.unbounded "y" []] at hfails ⊢
    exact (hrun preparingAll .standing Nesting.unbounded "y" [] _ rfl hfails rfl).1
  obtain ⟨-, hopt, hresolved⟩ := hoptimize .standing none [] illMatched hvalid
  have hrising : validate (Scope.empty.addFunctions (chance (drawn 0.5))) rising = none := rfl
  obtain ⟨hdrawing, -⟩ := valid_never_unresolved (Scope.empty.addFunctions (chance (drawn 0.5)))
  obtain ⟨-, -, hdrawn⟩ := hdrawing climbing none [] rising hrising
  exact ⟨⟨hvalid, rfl, hopt, (hresolved none).2.2⟩, ⟨hfails, rfl, hsteps⟩, hrising, rfl, (hdrawn none).1⟩

end Reckon
