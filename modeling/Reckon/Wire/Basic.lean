import Reckon.Expr.Basic
import Reckon.Json.Basic
import Reckon.Number.Numeral

/-!
# `Wire.Basic` — values and expressions as documents

A value is an object of one field that names its kind. An expression is an object whose field `type`
names its node; the other fields hold its name, operator and parts. `toJson` writes them, `ofJson?`
reads them back and says what is wrong with a document that is none: fields are looked at in the order
in which they are written, and the first fault counts. Fields that a node does not have are ignored.
-/

namespace Reckon

/-- Why a document is no value or expression. -/
inductive WireError where
  | notAnObject (found : Json)
  | unknownType (found : Json)
  | missingField (field node : String)
  | unknownOperator (found : Json)
  | notAString (found : Json)
  | notAList (found : Json)
  | notOneField (found : Json)
  | invalidValue (found : Json)
  /-- a whole number that no number is near to -/
  | integerTooLarge

namespace WireError

/-- What is wrong with a document, in words. -/
def message : WireError → String
  | notAnObject found => s!"Expected an object, got {found.kindName}"
  | unknownType found => s!"Unknown node type: {found.inspect}"
  | missingField field node => s!"Missing field {Text.quote field} in {node} node"
  | unknownOperator found => s!"Unknown operator: {found.inspect}"
  | notAString found => s!"Expected a string, got {found.inspect}"
  | notAList found => s!"Expected a list, got {found.inspect}"
  | notOneField found => s!"Expected a single-key value object, got {found.inspect}"
  | invalidValue found => s!"Invalid value object: {found.inspect}"
  | integerTooLarge => "int too large to convert to float"

end WireError

namespace Value

mutual

/-- A value as a document. -/
def toJson : Value → Json
  | boolean b => .object [("boolean", .boolean b)]
  | number x => .object [("number", .real x)]
  | string s => .object [("string", .string s)]
  | array items => .object [("array", .list (itemsToJson items))]

/-- The items of a list as documents. -/
def itemsToJson : List Value → List Json
  | [] => []
  | item :: rest => item.toJson :: itemsToJson rest

end

mutual

/-- The value that a document holds. -/
def ofJson? : Json → Except WireError Value
  | .object [(kind, raw)] =>
    match kind, raw with
    | "boolean", .boolean b => .ok (boolean b)
    | "number", .integer n =>
      match Number.ofInt? n with
      | some x => .ok (number x)
      | none => .error .integerTooLarge
    | "number", .real x => .ok (number x)
    | "string", .string s => .ok (string s)
    | "array", .list items =>
      match itemsOfJson? items with
      | .ok values => .ok (array values)
      | .error e => .error e
    | kind, raw => .error (.invalidValue (.object [(kind, raw)]))
  | found => .error (.notOneField found)

/-- The values that documents hold. -/
def itemsOfJson? : List Json → Except WireError (List Value)
  | [] => .ok []
  | item :: rest =>
    match ofJson? item with
    | .error e => .error e
    | .ok value =>
      match itemsOfJson? rest with
      | .error e => .error e
      | .ok values => .ok (value :: values)

end

end Value

namespace Expr

mutual

/-- An expression as a document. -/
def toJson : Expr → Json
  | literal value => .object [("type", .string "literal"), ("value", value.toJson)]
  | .variable name => .object [("type", .string "variable"), ("name", .string name)]
  | call name params =>
    .object [("type", .string "call"), ("name", .string name), ("params", .list (allToJson params))]
  | unary op operand =>
    .object [("type", .string "unary"), ("operator", .string op.symbol),
      ("operand", operand.toJson)]
  | binary op left right =>
    .object [("type", .string "binary"), ("operator", .string op.symbol), ("left", left.toJson),
      ("right", right.toJson)]
  | array elements =>
    .object [("type", .string "array"), ("elements", .list (allToJson elements))]
  | ternary op condition thenBranch elseBranch =>
    .object [("type", .string "ternary"), ("operator", .string op.symbol),
      ("condition", condition.toJson), ("then", thenBranch.toJson), ("else", elseBranch.toJson)]

/-- Expressions as documents. -/
def allToJson : List Expr → List Json
  | [] => []
  | e :: rest => e.toJson :: allToJson rest

end

/-- A field that a node must have. -/
def require (node field : String) (fields : List (String × Json)) :
    Except WireError { item : Json // sizeOf item < sizeOf fields } :=
  match Json.field? field fields with
  | some found => .ok found
  | none => .error (.missingField field node)

/-- The text in a document. -/
def stringOf? : Json → Except WireError String
  | .string s => .ok s
  | found => .error (.notAString found)

/-- The items of a list in a document. -/
def listOf? : (d : Json) → Except WireError { items : List Json // sizeOf items < sizeOf d }
  | .list items => .ok ⟨items, by simp⟩
  | found => .error (.notAList found)

/-- The operator whose symbol stands in a document. -/
def operatorOf? : Json → Except WireError Operator
  | .string s =>
    match Operator.ofSymbol? s with
    | some op => .ok op
    | none => .error (.unknownOperator (.string s))
  | found => .error (.unknownOperator found)

mutual

/-- The expression that a document holds. -/
def ofJson? (d : Json) : Except WireError Expr :=
  match d with
  | .object fields =>
    match fields.lookup "type" with
    | none => .error (.unknownType .null)
    | some (.string "literal") => do
      let value ← require "literal" "value" fields
      return literal (← Value.ofJson? value.val)
    | some (.string "variable") => do
      let name ← require "variable" "name" fields
      return .variable (← stringOf? name.val)
    | some (.string "call") => do
      let name ← require "call" "name" fields
      let name ← stringOf? name.val
      let params ← require "call" "params" fields
      let items ← listOf? params.val
      return call name (← allOfJson? items.val)
    | some (.string "unary") => do
      let op ← require "unary" "operator" fields
      let op ← operatorOf? op.val
      let operand ← require "unary" "operand" fields
      return unary op (← ofJson? operand.val)
    | some (.string "binary") => do
      let op ← require "binary" "operator" fields
      let op ← operatorOf? op.val
      let left ← require "binary" "left" fields
      let leftExpr ← ofJson? left.val
      let right ← require "binary" "right" fields
      return binary op leftExpr (← ofJson? right.val)
    | some (.string "array") => do
      let elements ← require "array" "elements" fields
      let items ← listOf? elements.val
      return array (← allOfJson? items.val)
    | some (.string "ternary") => do
      let op ← require "ternary" "operator" fields
      let op ← operatorOf? op.val
      let condition ← require "ternary" "condition" fields
      let conditionExpr ← ofJson? condition.val
      let thenBranch ← require "ternary" "then" fields
      let thenExpr ← ofJson? thenBranch.val
      let elseBranch ← require "ternary" "else" fields
      return ternary op conditionExpr thenExpr (← ofJson? elseBranch.val)
    | some found => .error (.unknownType found)
  | found => .error (.notAnObject found)
termination_by sizeOf d
decreasing_by
  · have := params.property; have := items.property; simp; omega
  · have := operand.property; simp; omega
  · have := left.property; simp; omega
  · have := right.property; simp; omega
  · have := elements.property; have := items.property; simp; omega
  · have := condition.property; simp; omega
  · have := thenBranch.property; simp; omega
  · have := elseBranch.property; simp; omega

/-- The expressions that documents hold. -/
def allOfJson? (items : List Json) : Except WireError (List Expr) :=
  match items with
  | [] => .ok []
  | item :: rest => do
    let e ← ofJson? item
    return e :: (← allOfJson? rest)
termination_by sizeOf items
decreasing_by all_goals simp <;> omega

end

end Expr

end Reckon
