/-!
# `Callable.Arity` — how many parameters a function takes
-/

namespace Reckon

/-- How many parameters a function takes: those it needs, and those it takes besides, unless it takes
any number. -/
structure Arity where
  required : Nat
  optional : Nat
  variadic : Bool
deriving Repr, DecidableEq

namespace Arity

/-- Exactly so many. -/
def exact (count : Nat) : Arity := ⟨count, 0, false⟩

/-- So many, and up to `optional` more. -/
def withOptional (required optional : Nat) : Arity := ⟨required, optional, false⟩

/-- Any number. -/
def any : Arity := ⟨0, 0, true⟩

/-- None. -/
def none : Arity := ⟨0, 0, false⟩

/-- The most parameters, if there is a limit. -/
def maximum? (a : Arity) : Option Nat :=
  if a.variadic then Option.none else some (a.required + a.optional)

/-- A call with so many parameters is allowed. -/
def accepts (a : Arity) (count : Nat) : Bool :=
  a.variadic || a.required ≤ count && count ≤ a.required + a.optional

/-- The accepted counts in words. -/
def describe (a : Arity) : String :=
  if a.variadic then "any number of"
  else if a.optional = 0 then toString a.required
  else s!"{a.required} to {a.required + a.optional}"

end Arity

end Reckon
