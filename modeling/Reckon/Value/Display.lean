import Reckon.Number.Format
import Reckon.Text.Quoted
import Reckon.Value.Basic

/-!
# `Value.Display` — values as text

`display` is what a program of the language sees: texts stand for themselves, and between single
quotes, unescaped, inside a list. `inspect` shows a value with its kind, as a reader of token lists
wants it.
-/

namespace Reckon.Value

mutual

/-- A value as text. -/
def display : Value → String
  | boolean b => if b then "true" else "false"
  | number x => Number.displayText x
  | string s => s
  | array items => "[" ++ ", ".intercalate (displayItems items) ++ "]"

/-- The items of a list as texts; texts among them stand between single quotes. -/
def displayItems : List Value → List String
  | [] => []
  | item :: rest =>
    (match item with
      | string s => "'" ++ s ++ "'"
      | other => other.display) :: displayItems rest

end

mutual

/-- A value with its kind. -/
def inspect : Value → String
  | boolean b => "Boolean(value=" ++ (if b then "True" else "False") ++ ")"
  | number x => "Number(value=" ++ Number.decimalText x ++ ")"
  | string s => "String(value=" ++ Text.quote s ++ ")"
  | array items =>
    let inner := inspectItems items
    "Array(values=(" ++ ", ".intercalate inner ++ (if inner.length = 1 then "," else "") ++ "))"

/-- The items of a list with their kinds. -/
def inspectItems : List Value → List String
  | [] => []
  | item :: rest => item.inspect :: inspectItems rest

end

end Reckon.Value
