import Reckon.Command.Bindings
import Reckon.Json.Printer
import Reckon.Library.Standard
import Reckon.Wire.Text

/-!
# `Command.Answer` — doing what a command line asks for

`Request.answer` is the report of a request in its surroundings. A command that gives out a tree or a
value ends in a trouble where the tree is too deep for one of the stages that it goes through, or the
value for being shown.

What needs functions to be called, a command leaves to an `Engine`; the one in use is the library.
-/

namespace Reckon.Command

/-- What a command sees of its surroundings. -/
structure Surroundings where
  /-- the variables of the environment -/
  environment? : String → Option String
  /-- the texts of files -/
  file? : String → Option String
  world : Library.World
  nesting : Nesting
  /-- what makes data of texts -/
  yaml : DatumReader := Yaml.read

namespace Surroundings

/-- The functions of the library for settings, and the variables of a command line, with their
number. -/
def scope (around : Surroundings) (settings : Settings) (sources : Sources) :
    Except Trouble (Scope × Nat) :=
  match sources.bindings around.yaml around.file? with
  | .error e => .error e
  | .ok bindings =>
    match bindings.addTo (Scope.empty.extend settings around.world) with
    | .error e => .error e
    | .ok scope => .ok (scope, bindings.length)

/-- The functions of the library, in ordinary use. -/
def library (around : Surroundings) : Scope :=
  Scope.empty.extend .standard around.world

end Surroundings

/-- The settings of the surroundings, with the options of a command over them. -/
def Evaluation.settings (options : Evaluation) (around : Surroundings) : Settings :=
  let settings := Settings.ofSurroundings around.environment?
  { settings with
    optimize := options.optimize.getD settings.optimize
    validate := options.validate.getD settings.validate
    foldConstants := options.fold || settings.foldConstants }

/-- The trouble that a run without a value is in. -/
def Trouble.ofRunError : RunError → Trouble
  | .compiling cause => .noExpression cause
  | .evaluating cause => .noResult cause
  | .exhausted => .exhausted

/-- What a command leaves to the library. -/
structure Engine where
  /-- prepare an expression as the settings say -/
  prepare : Settings → Scope → Expr → Expr × List Event
  /-- compile, look over, optimize and evaluate a text -/
  run : Settings → Scope → String → Run

/-- The library, with what the surroundings grant. -/
def Surroundings.engine (around : Surroundings) : Engine where
  prepare settings scope e := settings.prepare scope around.nesting e
  run settings scope text := Reckon.run settings scope around.nesting text

/-- Evaluate an expression and show its value. -/
def Surroundings.evaluate (around : Surroundings) (engine : Engine) (text : String)
    (options : Evaluation) : Report :=
  let settings := options.settings around
  match around.scope settings options.sources with
  | .error trouble => ⟨[], .error trouble⟩
  | .ok (scope, count) =>
    let done := engine.run settings scope text
    let notes := .loaded count :: done.steps.map .step
    match done.result with
    | .error e => ⟨notes, .error (.ofRunError e)⟩
    | .ok value =>
      let granted := if options.json then around.nesting.encoding else around.nesting.display
      if !granted.grants value.depth then ⟨notes, .error .exhausted⟩
      else
        let shown := if options.json then Json.print .compact value.toJson else value.display
        ⟨notes, .ok (shown ++ "\n")⟩

/-- Show the tree of an expression as a document. -/
def Surroundings.showTree (around : Surroundings) (engine : Engine) (text : String)
    (options : Compilation) (width : Nat) : Report :=
  match compile around.nesting text with
  | .error e => ⟨[], .error (.noExpression e)⟩
  | .ok e =>
    let optimizing := options.optimize || options.fold
    if optimizing && !around.nesting.optimization.grants e.depth then ⟨[], .error .exhausted⟩
    else
      let settings : Settings :=
        { Settings.standard with optimize := options.optimize, foldConstants := options.fold }
      let (tree, events) := engine.prepare settings around.library e
      let notes := events.map fun event => .step (.event event)
      let layout := { Json.Layout.compact with indent := some width }
      match tree.dumpWithin around.nesting.document layout with
      | .error _ => ⟨notes, .error .exhausted⟩
      | .ok shown => ⟨notes, .ok (shown ++ "\n")⟩

/-- Look over an expression. -/
def Surroundings.check (around : Surroundings) (text : String) (options : Checking) : Report :=
  match around.scope .standard options.sources with
  | .error trouble => ⟨[], .error trouble⟩
  | .ok (scope, count) =>
    let ending (result : Except Trouble String) : Report := ⟨[.loaded count], result⟩
    match compile around.nesting text with
    | .error e => ending (.error (.noExpression e))
    | .ok e =>
      if !around.nesting.validation.grants e.depth then ending (.error .exhausted)
      else
        match e.validate scope with
        | some problem => ending (.error (.invalid problem))
        | none =>
          if options.boolean && !e.givesBoolean then ending (.error .notBoolean)
          else ending (.ok "Expression is valid.\n")

/-- A function on a line, and its description on another. -/
def functionLines (f : Callable) : String :=
  let first := "  " ++ f.signature ++ (if f.pure then "" else " (impure)") ++ "\n"
  if f.description.isEmpty then first else first ++ "      " ++ f.description ++ "\n"

/-- Show the functions of the library, of one category or all. -/
def Surroundings.showFunctions (around : Surroundings) (category : Option Category)
    (json : Bool) : Report :=
  if json then
    let layout := { Json.Layout.compact with indent := some 2 }
    ⟨[], .ok (Json.print layout around.library.documentation ++ "\n")⟩
  else
    let fs :=
      match category with
      | none => around.library.functionList
      | some category => around.library.functionsOf category
    ⟨[], .ok (String.join (fs.map functionLines) ++ s!"\n{fs.length} function(s)\n")⟩

/-- The report of a request, with an engine. -/
def Request.answerBy (engine : Engine) (around : Surroundings) : Request → Report
  | .evaluate text options => around.evaluate engine text options
  | .compile text options width => around.showTree engine text options width
  | .check text options => around.check text options
  | .functions category json => around.showFunctions category json

/-- The report of a request. -/
def Request.answer (around : Surroundings) (request : Request) : Report :=
  request.answerBy around.engine around

end Reckon.Command
