import Reckon.Callable.Basic
import Reckon.Registry
import Reckon.Text.Case
import Reckon.Value.Order

/-!
# `Scope` — the variables and functions an expression sees

Names are looked up without regard to letter case: they are registered under their lower case, and the
last registration under a name counts.
-/

namespace Reckon

/-- The variables and functions an expression sees, under lower-case names. -/
structure Scope where
  values : Registry Value
  functions : Registry Callable

namespace Scope

/-- Nothing is registered. -/
def empty : Scope := ⟨.empty, .empty⟩

/-- The value of a variable. -/
def value? (scope : Scope) (name : String) : Option Value :=
  scope.values.get? (Text.lower name)

/-- The function of a name. -/
def callable? (scope : Scope) (name : String) : Option Callable :=
  scope.functions.get? (Text.lower name)

/-- With a variable, in place of one of the same name. -/
def addVariable (scope : Scope) (name : String) (value : Value) : Scope :=
  { scope with values := scope.values.insert (Text.lower name) value }

@[simp] theorem value?_addVariable (scope : Scope) (name other : String) (value : Value) :
    (scope.addVariable name value).value? other =
      if Text.lower other = Text.lower name then some value else scope.value? other :=
  scope.values.get?_insert _ _ _

/-- With a variable from outside, if it has a value. -/
def addPlain? (scope : Scope) (name : String) (datum : Plain) : Except ConversionError Scope :=
  match datum.toValue? with
  | .ok value => .ok (scope.addVariable name value)
  | .error e => .error e

/-- With variables from outside up to the first that has no value, and what is wrong with that. -/
def addPlains (scope : Scope) : List (String × Plain) → Scope × Option ConversionError
  | [] => (scope, none)
  | (name, datum) :: rest =>
    match scope.addPlain? name datum with
    | .ok scope => scope.addPlains rest
    | .error e => (scope, some e)

/-- Without a variable. -/
def removeVariable (scope : Scope) (name : String) : Scope :=
  { scope with values := scope.values.erase (Text.lower name) }

/-- Without variables. -/
def clearVariables (scope : Scope) : Scope :=
  { scope with values := .empty }

/-- The names of the variables, lower case, in order. -/
def variableNames (scope : Scope) : List String :=
  scope.values.keys

/-- With a function, in place of one of the same name. -/
def addFunction (scope : Scope) (f : Callable) : Scope :=
  { scope with functions := scope.functions.insert (Text.lower f.name) f }

/-- With functions, one after the other. -/
def addFunctions (scope : Scope) (fs : List Callable) : Scope :=
  fs.foldl addFunction scope

/-- Without a function. -/
def removeFunction (scope : Scope) (name : String) : Scope :=
  { scope with functions := scope.functions.erase (Text.lower name) }

/-- The functions in the order of their names. -/
def functionList (scope : Scope) : List Callable :=
  scope.functions.values.mergeSort fun f g => f.name ≤ g.name

/-- The functions of a category in the order of their names. -/
def functionsOf (scope : Scope) (category : Category) : List Callable :=
  scope.functionList.filter (·.category == category)

/-- The categories of functions in the order in which they come up first. -/
def categoriesOf (fs : List Callable) : List Category :=
  (fs.map (·.category)).foldl (fun seen c => if seen.contains c then seen else seen ++ [c]) []

/-- All functions as a document: each under its name, and again under its category. -/
def documentation (scope : Scope) : Json :=
  let fs := scope.functionList
  .object [
    ("functions", .object (fs.map fun f => (f.name, f.toJson))),
    ("byCategory", .object ((categoriesOf fs).map fun c =>
      (c.name, .list ((fs.filter (·.category == c)).map (·.toJson)))))]

end Scope

end Reckon
