import Reckon.Optimize.Fold

/-!
# `Optimize.Settle` — both improvements, until nothing changes

Without a scope only conditionals are made. With a scope, constants are folded and conditionals made
in turn until a pass changes nothing. Each pass that changes something leaves less work, so the passes
end.
-/

namespace Reckon.Expr

/-- What making conditionals does, as events. -/
def conversionEvents (e : Expr) : List Event :=
  e.convertedNames.map .converted

/-- Fold and make conditionals in turn until nothing changes. -/
def settle (scope : Scope) (allowance : Allowance) (e : Expr) : Expr × List Event :=
  let pass := fold scope allowance e
  let events := pass.trace ++ pass.result.conversionEvents
  if _h : pass.changed = true then
    let (result, more) := settle scope allowance pass.result.lazy
    (result, events ++ more)
  else (pass.result.lazy, events)
termination_by e.work
decreasing_by
  rw [work_lazy]
  exact fold_work _h

/-- The expression with conditionals made and constants folded, and what happened on the way. -/
def optimize (scope : Scope) (allowance : Allowance) (e : Expr) : Expr × List Event :=
  let (result, events) := settle scope allowance e.lazy
  (result, e.conversionEvents ++ events)

end Reckon.Expr
