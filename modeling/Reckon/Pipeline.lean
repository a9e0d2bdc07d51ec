import Reckon.Check
import Reckon.Expr.Parser
import Reckon.Optimize.Settle
import Reckon.Settings
import Reckon.Token.Lexer

/-!
# `Pipeline` — from text to value

`compile` turns a text into an expression; `run` looks it over, optimizes and evaluates it, as the
settings say. Every stage grants nesting up to a depth of its own: parsing and evaluation report an
expression that goes deeper, looking over and optimizing are exhausted by it.
-/

namespace Reckon

/-- Why a text is no expression. -/
inductive CompileError where
  | lexical (e : LexError)
  | grammatical (e : ParseError)

namespace CompileError

/-- Why a text is no expression, in words. -/
def message : CompileError → String
  | lexical e => s!"Syntax error: {e.message}"
  | grammatical e => s!"Syntax error: {e.message}"

end CompileError

/-- The expression that a text spells. -/
def compile (nesting : Nesting) (text : String) : Except CompileError Expr :=
  match tokenize text with
  | .error e => .error (.lexical e)
  | .ok tokens =>
    match parseTokens nesting.parsing tokens with
    | .error e => .error (.grammatical e)
    | .ok e => .ok e

/-- Why a run has no value. -/
inductive RunError where
  | compiling (e : CompileError)
  | evaluating (e : EvalError)
  /-- the expression is too deep for looking over or optimizing -/
  | exhausted

namespace RunError

/-- Why a run has no value, in words. -/
def message : RunError → String
  | compiling e => e.message
  | evaluating e => e.message
  | exhausted => "Expression is nested too deeply"

end RunError

/-- A problem with references as the error that evaluation would end in. -/
def Problem.toEvalError : Problem → EvalError
  | missingVariable name => .invalidVariable name
  | missingFunction name => .invalidFunction name
  | wrongCount name expected found => .invalidCount name expected found

/-- What a run did on the way, in order. -/
inductive Step where
  /-- optimizing or evaluation did something -/
  | event (e : Event)
  /-- evaluation of the text begins -/
  | evaluating (text : String)

/-- The outcome of a run, with what it did on the way. -/
structure Run where
  steps : List Step
  result : Except RunError Value

/-- The expression prepared for evaluation as the settings say. -/
def Settings.prepare (settings : Settings) (scope : Scope) (nesting : Nesting) (e : Expr) :
    Expr × List Event :=
  if settings.foldConstants then e.optimize scope nesting.evaluation
  else if settings.optimize then (e.lazy, e.conversionEvents)
  else (e, [])

/-- Prepare an expression as the settings say, and evaluate it. -/
def Settings.carryOut (settings : Settings) (scope : Scope) (nesting : Nesting) (text : String)
    (e : Expr) : Run :=
  let (prepared, events) := settings.prepare scope nesting e
  let outcome := prepared.eval scope nesting.evaluation
  ⟨events.map .event ++ [.evaluating text] ++ outcome.trace.map .event,
    outcome.result.mapError .evaluating⟩

/-- The problem with the references of an expression, if the settings ask for it. -/
def Settings.problem? (settings : Settings) (scope : Scope) (e : Expr) : Option Problem :=
  if settings.validate then e.validate scope else none

/-- Compile and look over a text, and do the work on its expression, unless that is too deep for one
of the stages on the way. -/
def runThrough (settings : Settings) (scope : Scope) (nesting : Nesting) (text : String)
    (work : Expr → Run) : Run :=
  match compile nesting text with
  | .error e => ⟨[], .error (.compiling e)⟩
  | .ok e =>
    if settings.validate && !nesting.validation.grants e.depth then ⟨[], .error .exhausted⟩
    else
      match settings.problem? scope e with
      | some problem => ⟨[], .error (.evaluating problem.toEvalError)⟩
      | none =>
        if (settings.foldConstants || settings.optimize) &&
            !nesting.optimization.grants e.depth then
          ⟨[], .error .exhausted⟩
        else work e

/-- Compile, look over, optimize and evaluate a text. -/
def run (settings : Settings) (scope : Scope) (nesting : Nesting) (text : String) : Run :=
  runThrough settings scope nesting text (settings.carryOut scope nesting text)

end Reckon
