import Reckon.Callable.Basic
import Reckon.Operator
import Reckon.Value.Arithmetic

/-!
# `Eval.Trace` — outcomes of evaluation, with what happened on the way

An evaluation ends in a value or an error. Beside that it leaves a trace: the functions that were
called, in order, and what optimizing did. `Traced` is a value or an error with its trace, and
`Traced.bind` runs one evaluation after another.
-/

namespace Reckon

/-- Where an operator stands that does not belong there. -/
inductive Position where
  | unary | binary | ternary
deriving Repr, DecidableEq

namespace Position

/-- The name of a position in messages. -/
def name : Position → String
  | unary => "unary"
  | binary => "binary"
  | ternary => "ternary"

end Position

/-- Why an evaluation fails. -/
inductive EvalError where
  | unknownFunction (name : String)
  | wrongCount (name : String) (arity : Arity) (count : Nat)
  | mismatch (cause : Mismatch)
  /-- an operand that must be a truth value is none -/
  | notBoolean (op : Operator) (found : Kind)
  | unfitOperator (position : Position) (op : Operator)
  | undefinedVariable (name : String)
  /-- a function fails; the name is as written in the expression -/
  | callFailed (name : String) (cause : Failure)
  | nestedTooDeeply
  /-- a reference that validation found to lead nowhere -/
  | invalidVariable (name : String)
  | invalidFunction (name : String)
  | invalidCount (name : String) (arity : Arity) (count : Nat)
deriving Repr, DecidableEq

/-- The kinds of errors of evaluation. -/
inductive EvalErrorKind where
  | missingFunction | paramCountMismatch | typeMismatch | undefinedVariable
  | nativeFunctionError | nestingTooDeep
deriving Repr, DecidableEq

namespace EvalErrorKind

/-- The name of a kind. -/
def name : EvalErrorKind → String
  | missingFunction => "missing_function"
  | paramCountMismatch => "param_count_mismatch"
  | typeMismatch => "type_mismatch"
  | undefinedVariable => "undefined_variable"
  | nativeFunctionError => "native_function_error"
  | nestingTooDeep => "nesting_too_deep"

end EvalErrorKind

namespace EvalError

/-- The kind of an error. -/
def kind : EvalError → EvalErrorKind
  | unknownFunction _ | invalidFunction _ => .missingFunction
  | wrongCount .. | invalidCount .. => .paramCountMismatch
  | mismatch _ | notBoolean .. | unfitOperator .. => .typeMismatch
  | undefinedVariable _ | invalidVariable _ => .undefinedVariable
  | callFailed .. => .nativeFunctionError
  | nestedTooDeeply => .nestingTooDeep

/-- Why an evaluation fails, in words. -/
def message : EvalError → String
  | unknownFunction name => s!"Unknown function: {name}"
  | wrongCount name arity count =>
    s!"Function '{name}' expects {arity.describe} parameter(s), got {count}"
  | mismatch cause => cause.message
  | notBoolean op found => s!"Operator '{op.symbol}' requires Boolean, got {found.name}"
  | unfitOperator position op => s!"Unknown {position.name} operator: {op.symbol}"
  | undefinedVariable name => s!"Undefined variable: {name}"
  | callFailed name cause => s!"Error calling {name}: {cause.message}"
  | nestedTooDeeply => "Expression is nested too deeply"
  | invalidVariable name => s!"missing variable '{name}'"
  | invalidFunction name => s!"missing function '{name}'"
  | invalidCount name arity count =>
    s!"function '{name}' expects {arity.describe} parameter(s), found {count}"

end EvalError

/-- What happens while an expression is optimized and evaluated. -/
inductive Event where
  /-- a function is called; the name is as registered -/
  | called (name : String) (params : List Value)
  /-- a call becomes a conditional; the name is as written -/
  | converted (name : String)
  /-- a constant expression is left alone because it fails -/
  | kept (cause : EvalError)

/-- A value or an error, with what happened on the way. -/
structure Traced (α : Type) where
  trace : List Event
  result : Except EvalError α

namespace Traced

variable {α β : Type}

/-- A value; nothing happens. -/
def done (a : α) : Traced α := ⟨[], .ok a⟩

/-- An error; nothing happens. -/
def fail (e : EvalError) : Traced α := ⟨[], .error e⟩

/-- One evaluation after another; the second does not start when the first fails. -/
def bind (t : Traced α) (next : α → Traced β) : Traced β :=
  match t.result with
  | .error e => ⟨t.trace, .error e⟩
  | .ok a => ⟨t.trace ++ (next a).trace, (next a).result⟩

/-- A function of the value. -/
def map (f : α → β) (t : Traced α) : Traced β :=
  t.bind fun a => done (f a)

/-- The outcome of an operation on operands. -/
def ofOperation (r : Except Mismatch α) : Traced α :=
  match r with
  | .ok a => done a
  | .error cause => fail (.mismatch cause)

@[simp] theorem bind_done (a : α) (next : α → Traced β) : (done a).bind next = next a := by
  simp [bind, done]

@[simp] theorem bind_fail (e : EvalError) (next : α → Traced β) : (fail e).bind next = fail e := by
  simp [bind, fail]

@[simp] theorem map_done (f : α → β) (a : α) : (done a).map f = done (f a) := by
  simp [map]

@[simp] theorem map_fail (f : α → β) (e : EvalError) : (fail e).map f = fail e := by
  simp [map]

end Traced

end Reckon
