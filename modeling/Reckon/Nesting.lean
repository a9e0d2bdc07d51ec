/-!
# `Nesting` — how deep expressions and values may be nested

Reading, evaluating, optimizing and checking go down into an expression, and showing a value into its
lists, each to a depth of its own. An `Allowance` says how many further levels are granted; without a
bound every depth is.

The bounds are idealised. A level is a level, whatever stands on it; a stack gives out instead, and takes
up more for some constructs than for others. So it is part of the model that some expressions are too deep
for a stage and what the stage makes of them, but not which expressions these are.
-/

namespace Reckon

/-- How many further levels of nesting are granted; `none` sets no bound. -/
abbrev Allowance := Option Nat

namespace Allowance

/-- What is left one level further down, if that level is granted. -/
def descend : Allowance → Option Allowance
  | none => some none
  | some 0 => none
  | some (n + 1) => some (some n)

/-- This many levels are granted. -/
def grants (allowance : Allowance) (depth : Nat) : Bool :=
  match allowance with
  | none => true
  | some n => depth ≤ n

end Allowance

/-- The depths that the stages of the library grant. In use there is no such number for a stage; each
stands for the room that its stack has. -/
structure Nesting where
  parsing : Allowance
  evaluation : Allowance
  optimization : Allowance
  validation : Allowance
  document : Allowance
  /-- a value as a text -/
  display : Allowance
  /-- a value as a document -/
  encoding : Allowance

namespace Nesting

/-- Depths of the order that the stages get to in ordinary use. -/
def standard : Nesting where
  parsing := some 240
  evaluation := some 320
  optimization := some 960
  validation := some 480
  document := some 960
  display := some 240
  encoding := some 480

/-- No stage has a bound. -/
def unbounded : Nesting where
  parsing := none
  evaluation := none
  optimization := none
  validation := none
  document := none
  display := none
  encoding := none

end Nesting

end Reckon
