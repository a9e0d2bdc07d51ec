import Reckon.Callable.Basic
import Reckon.Command.Arguments
import Reckon.Number.Numeral
import Reckon.Settings
import Reckon.Text.Case

/-!
# `Command.Request` — what a command line asks for

Options for all commands stand before the name of the command, those of the command anywhere after it.

  * `Request` — what is asked for
  * `Invocation.read?` — what a command line asks for, if it is well formed
-/

namespace Reckon.Command

/-- Where variables are given: at most one file, and any number of assignments. -/
structure Sources where
  file : Option String
  /-- in the order in which they are written -/
  assignments : List String
deriving Repr, DecidableEq

namespace Sources

/-- No variables. -/
def none : Sources := ⟨.none, []⟩

/-- With a further assignment. -/
def assign (s : Sources) (text : String) : Sources :=
  { s with assignments := s.assignments ++ [text] }

/-- With a file, in place of another. -/
def readFrom (s : Sources) (path : String) : Sources :=
  { s with file := some path }

end Sources

/-- Evaluate an expression. -/
structure Evaluation where
  sources : Sources
  /-- set against the settings of the surroundings -/
  optimize : Option Bool
  /-- set against the settings of the surroundings -/
  validate : Option Bool
  fold : Bool
  json : Bool
deriving Repr, DecidableEq

/-- Show the tree of an expression. -/
structure Compilation where
  optimize : Bool
  fold : Bool
  /-- the width of the indentation as written -/
  indent : String
deriving Repr, DecidableEq

/-- Look over an expression. -/
structure Checking where
  sources : Sources
  /-- the expression must be able to give a truth value -/
  boolean : Bool
deriving Repr, DecidableEq

/-- Show the functions of the library. -/
structure Listing where
  /-- the name of a category as written -/
  category : Option String
  json : Bool
deriving Repr, DecidableEq

/-- What a command line asks for. -/
inductive Request where
  | evaluate (text : String) (options : Evaluation)
  /-- with a tree laid out on lines of their own, indented so far -/
  | compile (text : String) (options : Compilation) (width : Nat)
  | check (text : String) (options : Checking)
  | functions (category : Option Category) (json : Bool)
deriving Repr, DecidableEq

namespace Request

/-- The file that has to be there for the request. -/
def file? : Request → Option String
  | evaluate _ options => options.sources.file
  | check _ options => options.sources.file
  | _ => none

end Request

/-! ## Options -/

/-- The options that give variables. -/
def sourceOptions {ρ : Type} (change : (Sources → Sources) → ρ → ρ) :
    List (String × Spelling ρ) := [
  ("--var", .valued fun text => change (·.assign text)),
  ("--vars", .valued fun path => change (·.readFrom path))]

/-- The options for evaluation. -/
def evaluationOptions : List (String × Spelling Evaluation) :=
  sourceOptions (fun change r => { r with sources := change r.sources }) ++ [
    ("--optimize", .flag fun r => { r with optimize := some true }),
    ("--no-optimize", .flag fun r => { r with optimize := some false }),
    ("--validate", .flag fun r => { r with validate := some true }),
    ("--no-validate", .flag fun r => { r with validate := some false }),
    ("--fold", .flag fun r => { r with fold := true }),
    ("--json", .flag fun r => { r with json := true })]

/-- The options for showing a tree. -/
def compilationOptions : List (String × Spelling Compilation) := [
  ("--optimize", .flag fun r => { r with optimize := true }),
  ("--fold", .flag fun r => { r with fold := true }),
  ("--indent", .valued fun text r => { r with indent := text })]

/-- The options for looking over. -/
def checkingOptions : List (String × Spelling Checking) :=
  sourceOptions (fun change r => { r with sources := change r.sources }) ++ [
    ("--boolean", .flag fun r => { r with boolean := true })]

/-- The options for showing functions. -/
def listingOptions : List (String × Spelling Listing) := [
  ("--category", .valued fun text r => { r with category := some text }),
  ("--json", .flag fun r => { r with json := true })]

/-! ## Commands -/

/-- A request for evaluation. -/
def readEvaluation? (args : List String) : Option Request := do
  let start : Evaluation := ⟨.none, none, none, false, false⟩
  let (options, text) ← readSingle? evaluationOptions start args
  return .evaluate text options

/-- A request for a tree. The width is a whole number; one below zero counts as zero. -/
def readCompilation? (args : List String) : Option Request := do
  let (options, text) ← readSingle? compilationOptions ⟨false, false, "2"⟩ args
  let width ← Number.integer? options.indent
  return .compile text options width.toNat

/-- A request for looking over. -/
def readChecking? (args : List String) : Option Request := do
  let (options, text) ← readSingle? checkingOptions ⟨.none, false⟩ args
  return .check text options

/-- A request for functions. The category is written in any letter case. -/
def readListing? (args : List String) : Option Request := do
  let (options, others) ← readArguments? listingOptions ⟨none, false⟩ args
  if !others.isEmpty then failure
  match options.category with
  | none => return .functions none options.json
  | some name =>
    let category ← Category.ofName? (Text.foldCase name)
    return .functions (some category) options.json

/-- The request of a command. -/
def readRequest? (command : String) (args : List String) : Option Request :=
  match command with
  | "eval" => readEvaluation? args
  | "compile" => readCompilation? args
  | "check" => readChecking? args
  | "functions" => readListing? args
  | _ => none

/-- A request, and whether to tell what is done on the way. -/
structure Invocation where
  verbose : Bool
  request : Request
deriving Repr, DecidableEq

/-- An argument asks for telling what is done: by name, or by a letter, once or more. -/
def asksForNotes (arg : String) : Bool :=
  arg == "--verbose" ||
    match arg.toList with
    | '-' :: letters => !letters.isEmpty && letters.all (· == 'v')
    | _ => false

/-- What a command line asks for, if it is well formed. -/
def Invocation.read? : List String → Option Invocation
  | [] => none
  | arg :: rest =>
    if asksForNotes arg then (Invocation.read? rest).map ({ · with verbose := true })
    else
      match arg, rest with
      | "--", command :: rest => (readRequest? command rest).map (⟨false, ·⟩)
      | "--", [] => none
      | command, rest => (readRequest? command rest).map (⟨false, ·⟩)

end Reckon.Command
