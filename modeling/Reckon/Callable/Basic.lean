import Reckon.Callable.Arity
import Reckon.Callable.Failure
import Reckon.Text.Blank

/-!
# `Callable.Basic` — functions that expressions may call

A function has a name, an arity and a body that computes a value from the parameters, or fails. A pure
function may be called ahead of time. The rest describes it to readers.
-/

namespace Reckon

/-- What a function is about. -/
inductive Category where
  | common | math | string | regex | time | custom
deriving Repr, DecidableEq

namespace Category

/-- The name of a category. -/
def name : Category → String
  | common => "common"
  | math => "math"
  | string => "string"
  | regex => "regex"
  | time => "time"
  | custom => "custom"

/-- All categories. -/
def all : List Category :=
  [common, math, string, regex, time, custom]

/-- The category with a name. -/
def ofName? (name : String) : Option Category :=
  all.find? (·.name == name)

/-- The complaint about a name that no category has. -/
def unknownMessage (name : String) : String :=
  s!"{Text.quote name} is not a valid FunctionCategory"

end Category

/-- A function that expressions may call. -/
structure Callable where
  name : String
  arity : Arity
  /-- the parameters as written in documentation -/
  params : String
  description : String
  category : Category
  pure : Bool
  examples : List String
  body : List Value → Except Failure Value

namespace Callable

/-- The name and the parameters of a declaration such as `max(left, right): Number`: the name ends at
the first parenthesis, and without one there are no parameters. -/
def splitDeclaration (declaration : String) : String × String :=
  let cs := declaration.toList
  (String.ofList (Text.trim (cs.takeWhile (· != '('))), String.ofList (cs.dropWhile (· != '(')))

/-- A documented function. -/
def declare (declaration : String) (arity : Arity) (category : Category) (description : String)
    (pure : Bool) (body : List Value → Except Failure Value) : Callable :=
  let (name, params) := splitDeclaration declaration
  { name, arity, params, description, category, pure, examples := [], body }

/-- A function without documentation. -/
def bare (name : String) (arity : Arity) (pure : Bool) (body : List Value → Except Failure Value) :
    Callable :=
  { name, arity, params := "", description := "", category := .custom, pure, examples := [], body }

/-- The name with the parameters. -/
def signature (f : Callable) : String :=
  f.name ++ f.params

/-- A function as a document. -/
def toJson (f : Callable) : Json :=
  .object [
    ("name", .string f.name),
    ("signature", .string f.signature),
    ("description", .string f.description),
    ("category", .string f.category.name),
    ("arity", .object [
      ("required", .integer f.arity.required),
      ("optional", .integer f.arity.optional),
      ("variadic", .boolean f.arity.variadic)]),
    ("pure", .boolean f.pure),
    ("examples", .list (f.examples.map .string))]

end Callable

end Reckon
