import Reckon.Library.Parameters
import Reckon.Number.Numeral
import Reckon.Text.Case
import Reckon.Text.Quoted
import Reckon.Text.Search
import Reckon.Value.Display
import Reckon.Value.Order

/-!
# `Library.General` — conversion, comparison, texts and lists

Functions on texts take positions as the settings count them, functions on lists count from zero. A
function that works on both looks at its first parameter.
-/

namespace Reckon.Library

/-- The value is the truth value true. -/
def isTrue : Value → Bool
  | .boolean b => b
  | _ => false

/-- Every item is true. -/
def allTrue (params : List Value) : Except Failure Value :=
  .ok (.boolean ((spread params).all isTrue))

/-- Some item is true. -/
def anyTrue (params : List Value) : Except Failure Value :=
  .ok (.boolean ((spread params).any isTrue))

/-- The character or item at a position. -/
def itemAt (first : Nat) (source position : Value) : Except Failure Value :=
  match source with
  | .string s => do
    let index ← textIndexOf first (← numberOf position)
    match s.toList[index]? with
    | some c => .ok (.string (String.singleton c))
    | none => .error (.outOfBounds index)
  | .array items => do
    let index ← indexOf (← numberOf position)
    match items[index]? with
    | some item => .ok item
    | none => .error (.outOfBounds index)
  | _ => .error .wrongType

/-- The value lies between two others, ends included. -/
def between (value lower upper : Value) : Except Failure Value :=
  .ok (.boolean (value.greaterEqual lower && value.lessEqual upper))

/-- The value as a truth value: the word true, the number one, and lists that are not empty hold. -/
def toBoolean (value : Value) : Except Failure Value :=
  match value with
  | .string s => .ok (.boolean (Text.lower s == "true"))
  | .number x => .ok (.boolean (x == 1.0))
  | .array items => .ok (.boolean !items.isEmpty)
  | .boolean b => .ok (.boolean b)

/-- A text occurs in a text, or a list has an item equal to a value. -/
def contains (haystack needle : Value) : Except Failure Value :=
  match haystack, needle with
  | .string h, .string n => .ok (.boolean (Text.find? n.toList h.toList).isSome)
  | .array items, needle => .ok (.boolean (items.any (·.equals needle)))
  | _, _ => .error .wrongType

/-- The order of two values as -1, 0 or 1. -/
def compareValues (a b : Value) : Except Failure Value :=
  match a.order? b with
  | some .lt => .ok (.number (-1.0))
  | some .eq => .ok (.number 0.0)
  | some .gt => .ok (.number 1.0)
  | none => .error (.custom "values not comparable")

/-- So many characters or items from a position on; a negative count takes none. -/
def copy (first : Nat) (source start count : Value) : Except Failure Value := do
  let length := (← wholeOf (← numberOf count)).toNat
  match source with
  | .string s =>
    let index ← textIndexOf first (← numberOf start)
    .ok (.string (String.ofList ((s.toList.drop index).take length)))
  | .array items =>
    let index ← indexOf (← numberOf start)
    .ok (.array ((items.drop index).take length))
  | _ => .error .wrongType

/-- The value is empty. -/
def isEmpty (value : Value) : Except Failure Value :=
  .ok (.boolean value.isEmpty)

/-- Where a text or an item occurs first; the position before the first when it does not. -/
def find (first : Nat) (haystack needle : Value) : Except Failure Value :=
  match haystack, needle with
  | .string h, .string n =>
    match Text.find? n.toList h.toList with
    | some index => .ok (natural (index + first))
    | none => .ok (.number (Float.ofNat first - 1.0))
  | .array items, needle =>
    match items.findIdx? (·.equals needle) with
    | some index => .ok (natural index)
    | none => .ok (.number (-1.0))
  | _, _ => .error .wrongType

/-- The number that a value stands for. -/
def floatOf (value : Value) : Except Failure Float :=
  match value with
  | .boolean b => .ok (if b then 1.0 else 0.0)
  | .string s =>
    match Number.number? s with
    | some x => .ok x
    | none => .error (.custom s!"could not convert string to float: {Text.quote s}")
  | .number x => .ok x
  | .array _ => .error .wrongType

/-- The value as a number. -/
def toNumber (value : Value) : Except Failure Value := do
  return .number (← floatOf value)

/-- The value as a whole number, cut toward zero. -/
def toWhole (value : Value) : Except Failure Value := do
  return .number (Number.truncate (← floatOf value))

/-- One of two values; without the second, a condition that does not hold gives an empty value. -/
def ifThen (condition consequence : Value) (alternative : Option Value) : Except Failure Value :=
  match condition with
  | .boolean true => .ok consequence
  | .boolean false => .ok (alternative.getD consequence.emptyLike)
  | _ => .error .wrongType

/-- A text put into a text, or an item into a list, before a position. -/
def insert (first : Nat) (target source position : Value) : Except Failure Value :=
  match target, source with
  | .string t, .string s => do
    let index ← textIndexOf first (← numberOf position)
    if t.length < index then .error (.outOfBounds index)
    else
      .ok (.string (String.ofList
        (t.toList.take index ++ s.toList ++ t.toList.drop index)))
  | .array items, source => do
    let index ← indexOf (← numberOf position)
    if items.length < index then .error (.outOfBounds index)
    else .ok (.array (items.take index ++ source :: items.drop index))
  | _, _ => .error .wrongType

/-- Number of characters or items. -/
def length (value : Value) : Except Failure Value :=
  .ok (natural value.length)

/-- The first item that no other item surpasses. -/
def extreme (surpasses : Value → Value → Bool) (params : List Value) : Except Failure Value :=
  match spread params with
  | [] => .error (.wrongCount 1)
  | v :: rest => .ok (rest.foldl (fun best v => if surpasses v best then v else best) v)

/-- The greatest value. -/
def maximum : List Value → Except Failure Value :=
  extreme Value.greater

/-- The least value. -/
def minimum : List Value → Except Failure Value :=
  extreme Value.less

/-- Every occurrence in a text, or equal item of a list, replaced, or left out. -/
def replace (source old : Value) (new : Option Value) : Except Failure Value :=
  match source, old with
  | .string s, .string o => do
    let n ← stringOr "" new
    return .string (String.ofList (Text.replace o.toList n.toList s.toList))
  | .array items, old =>
    .ok (.array (items.flatMap fun item => if item.equals old then new.toList else [item]))
  | _, _ => .error .wrongType

/-- Characters or items the other way round. -/
def reverse (value : Value) : Except Failure Value :=
  match value with
  | .array items => .ok (.array items.reverse)
  | .string s => .ok (.string (String.ofList s.toList.reverse))
  | _ => .error .wrongType

/-- The value as a text. -/
def toText (value : Value) : Except Failure Value :=
  .ok (.string value.display)

/-- The functions of this module, for texts whose positions start at `first`. -/
def general (first : Nat) : List Callable :=
  let declare (declaration : String) (arity : Arity) (description : String)
      (body : List Value → Except Failure Value) :=
    Callable.declare declaration arity .common description true body
  [
    declare "all(...): Boolean" .any "True if all values are true" allTrue,
    declare "any(...): Boolean" .any "True if any value is true" anyTrue,
    declare "at(values: [String|Array], index: Number): Any" (.exact 2)
      "Character or item at a position" (binary (itemAt first)),
    declare "between(value: Any, lower: Any, upper: Any): Boolean" (.exact 3)
      "True if lower <= value <= upper" (ternary between),
    declare "bool(value: Any): Boolean" (.exact 1) "Converts a value to a Boolean"
      (unary toBoolean),
    declare "contains(haystack: [String|Array], needle: [String|Any]): Boolean" (.exact 2)
      "True if the needle is part of the haystack" (binary contains),
    declare "compare(left: Any, right: Any): Number" (.exact 2)
      "Ordering of two values as -1, 0 or 1" (binary compareValues),
    declare "copy(source: [String|Array], start: Number, count: Number): [String|Array]" (.exact 3)
      "Copies a range of characters or items" (ternary (copy first)),
    declare "empty(value: Any): Boolean" (.exact 1) "True for '', [] and 0" (unary isEmpty),
    declare "find(haystack: [String|Array], needle: [String|Any]): Number" (.exact 2)
      "Position of a substring or index of an item" (binary (find first)),
    declare "float(value: Any): Number" (.exact 1) "Converts a value to a Number"
      (unary toNumber),
    declare "if_then(condition: Boolean, first: Any, second: Any): Any" (.withOptional 2 1)
      "Returns first if the condition is true, else second" (binaryOptional ifThen),
    declare "insert(target: [String|Array], source: [String|Any], index: Number): Any" (.exact 3)
      "Inserts a string or item at a position" (ternary (insert first)),
    declare "int(value: Any): Number" (.exact 1) "Converts a value to a whole Number"
      (unary toWhole),
    declare "length(value: [String|Array]): Number" (.exact 1) "Number of characters or items"
      (unary length),
    declare "max(...): Any" .any "Largest of the values" maximum,
    declare "min(...): Any" .any "Smallest of the values" minimum,
    declare
      "replace(value: [String|Array], from: [String|Any], to: [String|Any]): [String|Array]"
      (.withOptional 2 1) "Replaces all occurrences" (binaryOptional replace),
    declare "remove(value: [String|Array], from: [String|Any]): [String|Array]" (.exact 2)
      "Removes all occurrences" (binary fun value old => replace value old none),
    declare "reverse(value: [Array|String]): [Array|String]" (.exact 1)
      "Reverses characters or items" (unary reverse),
    declare "str(value: Any): String" (.exact 1) "Converts a value to a String" (unary toText)]

end Reckon.Library
