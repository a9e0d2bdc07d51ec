import Reckon.Value.Basic

/-!
# `Value.Order` — equality and order of values

Values of different kinds are never equal and never ordered. Numbers follow the floating point rules:
both zeros are equal, and not-a-number equals nothing and is ordered against nothing. Texts are
ordered by code points. Lists are ordered by length first, then by the first pair of items that is not
equal; such a pair without an order leaves the lists without one.
-/

namespace Reckon

/-- The order of two numbers, if they have one. -/
def compareNumbers (x y : Float) : Option Ordering :=
  if x.isNaN || y.isNaN then none
  else if x < y then some .lt
  else if y < x then some .gt
  else some .eq

/-- The order of two texts by code points. -/
def compareStrings (s t : String) : Ordering :=
  if s < t then .lt else if t < s then .gt else .eq

namespace Value

mutual

/-- Equality of values. -/
def equals : Value → Value → Bool
  | boolean a, boolean b => a == b
  | number x, number y => x == y
  | string s, string t => s == t
  | array xs, array ys => itemsEqual xs ys
  | _, _ => false

/-- Equality of lists of values: as many items, equal one by one. -/
def itemsEqual : List Value → List Value → Bool
  | [], [] => true
  | x :: xs, y :: ys => x.equals y && itemsEqual xs ys
  | _, _ => false

end

mutual

/-- The order of two values, if they have one. -/
def order? : Value → Value → Option Ordering
  | boolean a, boolean b => some (compare a b)
  | number x, number y => compareNumbers x y
  | string s, string t => some (compareStrings s t)
  | array xs, array ys =>
    match compare xs.length ys.length with
    | .eq => itemsOrder? xs ys
    | other => some other
  | _, _ => none

/-- The order of the first pair of items that is not equal; lists without such a pair are equal. -/
def itemsOrder? : List Value → List Value → Option Ordering
  | x :: xs, y :: ys =>
    match x.order? y with
    | some .eq => itemsOrder? xs ys
    | other => other
  | _, _ => some .eq

end

/-- Strictly before. -/
def less (a b : Value) : Bool :=
  a.order? b == some .lt

/-- Before or equal. -/
def lessEqual (a b : Value) : Bool :=
  match a.order? b with
  | some .lt | some .eq => true
  | _ => false

/-- Strictly after. -/
def greater (a b : Value) : Bool :=
  a.order? b == some .gt

/-- After or equal. -/
def greaterEqual (a b : Value) : Bool :=
  match a.order? b with
  | some .gt | some .eq => true
  | _ => false

end Value

end Reckon
