import Reckon.Number.Format
import Reckon.Text.Quoted

/-!
# `Json.Basic` — documents

A document is null, a truth value, a whole number of any size, another number, a text, a list, or an
object whose fields keep their order. `inspect` shows a document in a message.
-/

namespace Reckon

/-- A document. -/
inductive Json where
  | null
  | boolean (value : Bool)
  | integer (value : Int)
  | real (value : Float)
  | string (value : String)
  | list (items : List Json)
  | object (fields : List (String × Json))

namespace Json

/-- The kind of a document, as messages name it. -/
def kindName : Json → String
  | null => "NoneType"
  | boolean _ => "bool"
  | integer _ => "int"
  | real _ => "float"
  | string _ => "str"
  | list _ => "list"
  | object _ => "dict"

mutual

/-- A document as messages show it. -/
def inspect : Json → String
  | null => "None"
  | boolean b => if b then "True" else "False"
  | integer n => toString n
  | real x => Number.decimalText x
  | string s => Text.quote s
  | list items => "[" ++ ", ".intercalate (inspectItems items) ++ "]"
  | object fields => "\x7b" ++ ", ".intercalate (inspectFields fields) ++ "\x7d"

/-- The items of a list as messages show them. -/
def inspectItems : List Json → List String
  | [] => []
  | item :: rest => item.inspect :: inspectItems rest

/-- The fields of an object as messages show them. -/
def inspectFields : List (String × Json) → List String
  | [] => []
  | (name, item) :: rest => (Text.quote name ++ ": " ++ item.inspect) :: inspectFields rest

end

mutual

/-- Every whole number in a document has a property. -/
def allIntegers (p : Int → Bool) : Json → Bool
  | integer n => p n
  | list items => allIntegersIn p items
  | object fields => allIntegersOf p fields
  | null | boolean _ | real _ | string _ => true

/-- So has every whole number in the items of a list. -/
def allIntegersIn (p : Int → Bool) : List Json → Bool
  | [] => true
  | item :: rest => item.allIntegers p && allIntegersIn p rest

/-- So has every whole number in the fields of an object. -/
def allIntegersOf (p : Int → Bool) : List (String × Json) → Bool
  | [] => true
  | (_, item) :: rest => item.allIntegers p && allIntegersOf p rest

end

/-- The fields with one more; a field that is there keeps its place and takes the new document. -/
def setField (fields : List (String × Json)) (name : String) (item : Json) :
    List (String × Json) :=
  if fields.any (·.1 == name) then
    fields.map fun field => if field.1 == name then (name, item) else field
  else fields ++ [(name, item)]

/-- A field by name, with the proof that its document is smaller. -/
def field? (name : String) :
    (fields : List (String × Json)) → Option { item : Json // sizeOf item < sizeOf fields }
  | [] => none
  | (key, item) :: rest =>
    if key == name then some ⟨item, by simp; omega⟩
    else (field? name rest).map fun found => ⟨found.val, by have := found.property; simp; omega⟩

mutual

/-- How many lists and objects lie around one another. -/
def depth : Json → Nat
  | null | boolean _ | integer _ | real _ | string _ => 0
  | list items => itemsDepth items + 1
  | object fields => fieldsDepth fields + 1

/-- The greatest depth of items. -/
def itemsDepth : List Json → Nat
  | [] => 0
  | item :: rest => max item.depth (itemsDepth rest)

/-- The greatest depth of fields. -/
def fieldsDepth : List (String × Json) → Nat
  | [] => 0
  | (_, item) :: rest => max item.depth (fieldsDepth rest)

end

end Json

end Reckon
