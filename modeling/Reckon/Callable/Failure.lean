import Reckon.Number.Overflow
import Reckon.Pattern.Defect
import Reckon.Plain

/-!
# `Callable.Failure` — how a function may fail

A function reports what is wrong with its parameters, or a computation inside it breaks down. Both end
the call; inside an expression both end the evaluation.
-/

namespace Reckon

/-- The kinds of what a function reports. -/
inductive FailureKind where
  | wrongCount | wrongType | outOfBounds | negativeIndex | custom
deriving Repr, DecidableEq

namespace FailureKind

/-- The name of a kind. -/
def name : FailureKind → String
  | wrongCount => "wrong_parameter_count"
  | wrongType => "wrong_parameter_type"
  | outOfBounds => "index_out_of_bounds"
  | negativeIndex => "index_negative"
  | custom => "custom"

/-- All kinds. -/
def all : List FailureKind :=
  [wrongCount, wrongType, outOfBounds, negativeIndex, custom]

/-- The kind with a name. -/
def ofName? (name : String) : Option FailureKind :=
  all.find? (·.name == name)

end FailureKind

/-- A computation that breaks down inside a function. -/
inductive Breakdown where
  | wholePartOfNaN
  | wholePartOfInfinity
  | unknownGroup (name : String)
  | repetitionTooLarge
  /-- two switches of a pattern choose different characters -/
  | conflictingAlphabets
  | overflow (cause : Number.Overflow)
  /-- the pattern that a layout stands for is not well made -/
  | pattern (fault : Pattern.Fault)
  | offsetWithoutZone
  | yearOutOfRange (year : Int)
  | dateOutOfRange
  | conversion (cause : ConversionError)
  /-- anything else that a function from outside may meet -/
  | other (message : String)
deriving Repr, DecidableEq

namespace Breakdown

/-- A breakdown in words. -/
def message : Breakdown → String
  | wholePartOfNaN => "cannot convert float NaN to integer"
  | wholePartOfInfinity => "cannot convert float infinity to integer"
  | unknownGroup name => s!"unknown group name {Text.quote name}"
  | repetitionTooLarge => "the repetition number is too large"
  | conflictingAlphabets => "ASCII and UNICODE flags are incompatible"
  | overflow cause => cause.message
  | pattern fault => fault.message
  | offsetWithoutZone => "can't subtract offset-naive and offset-aware datetimes"
  | yearOutOfRange year => s!"year {year} is out of range"
  | dateOutOfRange => "date value out of range"
  | conversion cause => cause.message
  | other message => message

end Breakdown

/-- Why a call fails. -/
inductive Failure where
  | wrongCount (expected : Nat)
  | wrongType
  | outOfBounds (index : Nat)
  | negativeIndex
  /-- a report in the function's own words -/
  | reported (kind : FailureKind) (message : String)
  | broken (cause : Breakdown)
deriving Repr, DecidableEq

namespace Failure

/-- A report of no particular kind. -/
def custom (message : String) : Failure :=
  reported .custom message

/-- Why a call fails, in words. -/
def message : Failure → String
  | wrongCount expected => s!"not enough parameters: \"{expected}\" expected"
  | wrongType => "wrong parameter type"
  | outOfBounds index => s!"index \"{index}\" is out of bounds"
  | negativeIndex => "index must not be negative"
  | reported _ message => message
  | broken cause => cause.message

/-- The kind of a report; a breakdown is none. -/
def kind? : Failure → Option FailureKind
  | wrongCount _ => some .wrongCount
  | wrongType => some .wrongType
  | outOfBounds _ => some .outOfBounds
  | negativeIndex => some .negativeIndex
  | reported kind _ => some kind
  | broken _ => none

end Failure

end Reckon
