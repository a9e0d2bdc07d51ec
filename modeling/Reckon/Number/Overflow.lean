/-!
# `Number.Overflow` — whole numbers that are too large

Counts, the parts of a date and spans of days are held in words of limited width. A whole number that
does not fit the word is refused, and each kind of word says so in its own way. Nor is a whole number
read that is written with too many digits, or written out with so many.
-/

namespace Reckon.Number

/-- How a whole number misses its word. -/
inductive Overflow where
  /-- not within sixty-four bits, for a count -/
  | size
  /-- not within sixty-four bits -/
  | long
  /-- not within thirty-two bits, for a span of days -/
  | int
  /-- above the thirty-two bits of a part -/
  | above
  /-- below the thirty-two bits of a part -/
  | below
  /-- more days than a span can have -/
  | days (n : Int)
deriving Repr, DecidableEq

namespace Overflow

/-- How a number misses its word, in words. -/
def message : Overflow → String
  | size => "Python int too large to convert to C ssize_t"
  | long => "Python int too large to convert to C long"
  | int => "Python int too large to convert to C int"
  | above => "signed integer is greater than maximum"
  | below => "signed integer is less than minimum"
  | days n => s!"days={n}; must have magnitude <= 999999999"

end Overflow

/-- The most digits that a whole number may be written with. -/
def mostDigits : Nat := 4300

/-- The complaint about a whole number of too many digits. -/
def tooManyDigitsMessage (count : Nat) : String :=
  s!"Exceeds the limit ({mostDigits} digits) for integer string conversion: value has {count} " ++
    "digits; use sys.set_int_max_str_digits() to increase the limit"

/-- A whole number can be written out. -/
def isWritable (n : Int) : Bool :=
  (Nat.repr n.natAbs).length ≤ mostDigits

/-- The complaint about a whole number of too many digits that is to be written out. -/
def notWritableMessage : String :=
  s!"Exceeds the limit ({mostDigits} digits) for integer string conversion; " ++
    "use sys.set_int_max_str_digits() to increase the limit"

/-- The number as a part of a date, which has thirty-two bits. -/
def checkPart (n : Int) : Except Overflow Int :=
  if 0x8000000000000000 ≤ n ∨ n < -0x8000000000000000 then .error .long
  else if 0x80000000 ≤ n then .error .above
  else if n < -0x80000000 then .error .below
  else .ok n

/-- The number as a span of days. -/
def checkDays (n : Int) : Except Overflow Int :=
  if 0x80000000 ≤ n ∨ n < -0x80000000 then .error .int
  else if 999999999 < n ∨ n < -999999999 then .error (.days n)
  else .ok n

end Reckon.Number
