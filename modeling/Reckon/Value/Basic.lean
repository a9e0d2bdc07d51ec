/-!
# `Value.Basic` — the values that expressions compute

A value is a truth value, a number, a text or a list of values. Nothing is converted silently, so an
operation that does not know the kinds of its operands reports them.
-/

namespace Reckon

/-- A value. -/
inductive Value where
  | boolean (value : Bool)
  | number (value : Float)
  | string (value : String)
  | array (items : List Value)

/-- The four kinds of values. -/
inductive Kind where
  | boolean | number | string | array
deriving Repr, DecidableEq

namespace Kind

/-- The name of a kind in messages. -/
def name : Kind → String
  | boolean => "Boolean"
  | number => "Number"
  | string => "String"
  | array => "Array"

end Kind

namespace Value

/-- The kind of a value. -/
def kind : Value → Kind
  | boolean _ => .boolean
  | number _ => .number
  | string _ => .string
  | array _ => .array

/-- The empty value of the same kind; for truth values that is false. -/
def emptyLike : Value → Value
  | boolean _ => boolean false
  | number _ => number 0.0
  | string _ => string ""
  | array _ => array []

mutual

/-- How many lists lie around one another. -/
def depth : Value → Nat
  | boolean _ | number _ | string _ => 0
  | array items => depthAll items + 1

/-- The greatest depth among values. -/
def depthAll : List Value → Nat
  | [] => 0
  | item :: rest => max item.depth (depthAll rest)

end

/-- Zero, the empty text and the empty list are empty; truth values never are. -/
def isEmpty : Value → Bool
  | boolean _ => false
  | number x => x == 0.0
  | string s => s.isEmpty
  | array items => items.isEmpty

/-- Number of characters or items; zero for the other kinds. -/
def length : Value → Nat
  | string s => s.length
  | array items => items.length
  | _ => 0

/-- A truth value is its own; any other value holds when it is not empty. -/
def truth : Value → Bool
  | boolean b => b
  | v => !v.isEmpty

end Value

end Reckon
