import Reckon.Json.Printer
import Reckon.Json.Reader
import Reckon.Wire.Basic

/-!
# `Wire.Text` — expressions as texts, and what becomes of those that are none

`Expr.dump` writes the document of an expression as a text, `Expr.load` reads it back. Writing and reading
go down into the document, each to a depth of its own (`Expr.dumpWithin`). Where a document or a text holds
no expression, it is reported what is wrong. There are three faults that no report is about: a
whole number that is too large, one with too many digits, and nesting that goes too deep.
-/

namespace Reckon

/-- What comes of a document or a text instead of an expression or a value. -/
inductive Refusal where
  | reported (message : String)
  /-- a whole number that no number is near to -/
  | integerTooLarge
  /-- a whole number with too many digits to be read -/
  | tooManyDigits (count : Nat)
  /-- a whole number with too many digits to be shown in a report -/
  | notWritable
  | nestedTooDeeply
deriving Repr, DecidableEq

namespace Refusal

/-- Why there is no expression or value, in words. -/
def message : Refusal → String
  | reported message => message
  | integerTooLarge => WireError.integerTooLarge.message
  | tooManyDigits count => Number.tooManyDigitsMessage count
  | notWritable => Number.notWritableMessage
  | nestedTooDeeply => Json.ReadError.nestedTooDeeply.message

end Refusal

/-- The document that the report of an error shows. -/
def WireError.shown? : WireError → Option Json
  | unknownType found | unknownOperator found | notAString found | notAList found
  | notOneField found | invalidValue found => some found
  | notAnObject _ | missingField _ _ | integerTooLarge => none

/-- An error is reported, if the document in the report can be shown. -/
def WireError.refusal : WireError → Refusal
  | integerTooLarge => .integerTooLarge
  | e => if e.shown?.all (Json.allIntegers Number.isWritable) then .reported e.message else .notWritable

/-- What is wrong with a text that is no document is reported. -/
def Json.ReadError.refusal : ReadError → Refusal
  | malformed fault => .reported (malformed fault).message
  | tooManyDigits count => .tooManyDigits count
  | nestedTooDeeply => .nestedTooDeeply

/-- The value that a document holds. -/
def Value.ofDocument (d : Json) : Except Refusal Value :=
  (Value.ofJson? d).mapError WireError.refusal

namespace Expr

/-- The expression that a document holds. -/
def ofDocument (d : Json) : Except Refusal Expr :=
  (ofJson? d).mapError WireError.refusal

/-- An expression as a text. -/
def dump (layout : Json.Layout) (e : Expr) : String :=
  Json.print layout e.toJson

/-- An expression as a text, if its document is not nested too deeply to be written. -/
def dumpWithin (allowance : Allowance) (layout : Json.Layout) (e : Expr) : Except Refusal String :=
  if allowance.grants e.toJson.depth then .ok (e.dump layout) else .error .nestedTooDeeply

/-- The expression that a text holds. -/
def load (allowance : Allowance) (text : String) : Except Refusal Expr :=
  match Json.read allowance text with
  | .ok d => ofDocument d
  | .error e => .error e.refusal

end Expr

end Reckon
