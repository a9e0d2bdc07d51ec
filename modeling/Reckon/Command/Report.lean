import Reckon.Pipeline
import Reckon.Text.Quoted
import Reckon.Text.Styling
import Reckon.Yaml.Token

/-!
# `Command.Report` — what a command leaves behind

A command ends with text for the output or with a trouble. On the way it takes notes, which are told
to those who ask for them.
-/

namespace Reckon.Command

/-- Why a command has no output. -/
inductive Trouble where
  /-- the command line is not well formed, or names a file that is not there -/
  | misuse
  /-- an assignment lacks its name or its equals sign -/
  | noAssignment (text : String)
  /-- a file is not in the format of variables -/
  | malformedFile (path : String)
  /-- a file holds something else than names with values -/
  | noMapping (path : String)
  /-- the value of an assignment is not in the format of variables -/
  | malformedValue (name : String)
  /-- a datum that has the form of its kind but does not exist -/
  | flawed (flaw : Yaml.Flaw)
  /-- a datum that no value stands for -/
  | noValue (name : String) (kindName : String)
  | integerTooLarge
  | noExpression (cause : CompileError)
  | noResult (cause : EvalError)
  | invalid (problem : Problem)
  | notBoolean
  /-- something is nested too deeply -/
  | exhausted

namespace Trouble

/-- What is wrong, in words. -/
def message : Trouble → String
  | misuse => "Error: this is no command with its arguments"
  | noAssignment text => s!"Error: expected NAME=VALUE, got '{text}'"
  | malformedFile path => s!"Error: cannot parse {path}:"
  | noMapping path => s!"Error: {path} must contain a mapping of variable names to values"
  | malformedValue name => s!"Error: cannot parse value of '{name}':"
  | flawed flaw => flaw.message
  | noValue name kindName =>
    s!"Error: invalid value for variable '{name}': {(ConversionError.noCounterpart kindName).message}"
  | integerTooLarge => ConversionError.integerTooLarge.message
  | noExpression cause => cause.message
  | noResult cause => cause.message
  | invalid problem => s!"Invalid: {problem.message}"
  | notBoolean => "Invalid: expression does not produce a Boolean"
  | exhausted => RunError.exhausted.message

/-- The exit status of a command that ends so. -/
def status : Trouble → UInt8
  | misuse => 2
  | _ => 1

/-- No part of a command is prepared for the trouble. The command breaks off instead of telling what is
wrong. -/
def breaksOff : Trouble → Bool
  | flawed _ | integerTooLarge | exhausted => true
  | _ => false

end Trouble

/-- Something that a command does on the way. -/
inductive Note where
  /-- the variables are there -/
  | loaded (count : Nat)
  /-- the pipeline does something -/
  | step (s : Step)

namespace Note

/-- The part of the program that takes a note. -/
def source : Note → String
  | loaded _ => "slac.cli.expression_cmd"
  | step (.evaluating _) => "slac"
  | step (.event (.called _ _)) => "slac.interpreter"
  | step (.event (.converted _)) => "slac.optimizer"
  | step (.event (.kept _)) => "slac.optimizer"

/-- What is done. -/
def message : Note → String
  | loaded count => s!"Loaded {count} variable(s)"
  | step (.evaluating text) => s!"Evaluating {Text.quote text}"
  | step (.event (.called name params)) =>
    s!"Calling {name} with {params.length} parameter(s)"
  | step (.event (.converted name)) => s!"Rewriting {name} call into a ternary"
  | step (.event (.kept cause)) => s!"Not folding constant expression: {cause.message}"

/-- A note on a line of its own. -/
def line (note : Note) : String :=
  s!"DEBUG {note.source}: {note.message}\n"

end Note

/-- What a command leaves behind. -/
structure Report where
  notes : List Note
  result : Except Trouble String

namespace Report

/-- The text for the output. -/
def output (r : Report) : String :=
  match r.result with
  | .ok text => Text.unstyled text
  | .error _ => ""

/-- The notes, one to a line. -/
def log (r : Report) (verbose : Bool) : String :=
  if verbose then String.join (r.notes.map Note.line) else ""

/-- The text for errors. -/
def errors (r : Report) (verbose : Bool) : String :=
  match r.result with
  | .ok _ => r.log verbose
  | .error trouble => r.log verbose ++ Text.unstyled trouble.message ++ "\n"

/-- The exit status. -/
def status (r : Report) : UInt8 :=
  match r.result with
  | .ok _ => 0
  | .error trouble => trouble.status

end Report

end Reckon.Command
