import Reckon.Json.Basic
import Reckon.Number.Numeral
import Reckon.Value.Basic

/-!
# `Plain` — data from outside that may become values

Variables come from documents and command lines. Truth values, numbers, texts and lists of those
become values; anything else, null included, has no counterpart.
-/

namespace Reckon

/-- A datum from outside. -/
inductive Plain where
  | boolean (value : Bool)
  | integer (value : Int)
  | real (value : Float)
  | text (value : String)
  | list (items : List Plain)
  /-- a datum of a kind without a counterpart among values -/
  | foreign (kindName : String)

/-- Why a datum does not become a value. -/
inductive ConversionError where
  | noCounterpart (kindName : String)
  /-- a whole number that no number is near to -/
  | integerTooLarge
deriving Repr, DecidableEq

namespace ConversionError

/-- Why a datum does not become a value, in words. -/
def message : ConversionError → String
  | noCounterpart kindName => s!"Cannot convert {kindName} to a Value"
  | integerTooLarge => "int too large to convert to float"

end ConversionError

mutual

/-- The value of a datum; in a list the first item without a value counts. -/
def Plain.toValue? : Plain → Except ConversionError Value
  | .boolean b => .ok (.boolean b)
  | .integer n =>
    match Number.ofInt? n with
    | some x => .ok (.number x)
    | none => .error .integerTooLarge
  | .real x => .ok (.number x)
  | .text s => .ok (.string s)
  | .list items =>
    match Plain.itemsToValues? items with
    | .ok values => .ok (.array values)
    | .error e => .error e
  | .foreign kindName => .error (.noCounterpart kindName)

/-- The values of the items of a list. -/
def Plain.itemsToValues? : List Plain → Except ConversionError (List Value)
  | [] => .ok []
  | item :: rest =>
    match item.toValue? with
    | .error e => .error e
    | .ok value =>
      match Plain.itemsToValues? rest with
      | .error e => .error e
      | .ok values => .ok (value :: values)

end

mutual

/-- The datum in a document. -/
def Json.toPlain : Json → Plain
  | .boolean b => .boolean b
  | .integer n => .integer n
  | .real x => .real x
  | .string s => .text s
  | .list items => .list (Json.itemsToPlain items)
  | .null => .foreign "NoneType"
  | .object _ => .foreign "dict"

/-- The data in the items of a list. -/
def Json.itemsToPlain : List Json → List Plain
  | [] => []
  | item :: rest => item.toPlain :: Json.itemsToPlain rest

end

end Reckon
