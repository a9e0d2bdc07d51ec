import Reckon.Number.Numeral
import Reckon.Proofs.Json.Agree

/-!
# `Proofs.Wire.Tidy` — documents without what reading ignores

`tidy` drops the fields that the node of an object does not have and turns the whole numbers in values
into numbers, at every depth. It leaves fields where they stand. What it takes from the wire form is a
table: for each type of node the names of its fields, and what stands in them.
-/

namespace Reckon.Wire

/-- What stands in a field of a node. -/
inductive Role where
  | text | value | node | nodes
deriving Repr, DecidableEq

/-- The fields of a node, by its type. -/
def roles : String → List (String × Role)
  | "literal" => [("type", .text), ("value", .value)]
  | "variable" => [("type", .text), ("name", .text)]
  | "call" => [("type", .text), ("name", .text), ("params", .nodes)]
  | "unary" => [("type", .text), ("operator", .text), ("operand", .node)]
  | "binary" => [("type", .text), ("operator", .text), ("left", .node), ("right", .node)]
  | "array" => [("type", .text), ("elements", .nodes)]
  | "ternary" =>
    [("type", .text), ("operator", .text), ("condition", .node), ("then", .node), ("else", .node)]
  | _ => []

/-- The type that an object names. -/
def typeOf (fields : List (String × Json)) : String :=
  match fields.lookup "type" with
  | some (.string type) => type
  | _ => ""

mutual

/-- A value's document with its whole numbers turned into numbers. -/
def tidyValue : Json → Json
  | .object [("number", .integer n)] =>
    .object [("number", match Number.ofInt? n with
      | some x => .real x
      | none => .integer n)]
  | .object [("array", .list items)] => .object [("array", .list (tidyValues items))]
  | d => d

def tidyValues : List Json → List Json
  | [] => []
  | item :: rest => tidyValue item :: tidyValues rest

end

mutual

/-- An expression's document without the fields that its nodes do not have. -/
def tidy : Json → Json
  | .object fields => .object (tidyFields (roles (typeOf fields)) fields)
  | d => d

/-- The fields of a node, each tidied as what stands in it. -/
def tidyFields (known : List (String × Role)) : List (String × Json) → List (String × Json)
  | [] => []
  | (name, item) :: rest =>
    match known.lookup name with
    | none => tidyFields known rest
    | some .text => (name, item) :: tidyFields known rest
    | some .value => (name, tidyValue item) :: tidyFields known rest
    | some .node => (name, tidy item) :: tidyFields known rest
    | some .nodes => (name, tidyNodes item) :: tidyFields known rest

/-- A list of expressions' documents. -/
def tidyNodes : Json → Json
  | .list items => .list (tidyAll items)
  | d => d

def tidyAll : List Json → List Json
  | [] => []
  | item :: rest => tidy item :: tidyAll rest

end

/-- A document tidied as what a field holds. -/
def tidyAs : Role → Json → Json
  | .text, d => d
  | .value, d => tidyValue d
  | .node, d => tidy d
  | .nodes, d => tidyNodes d

theorem tidyFields_cons (known : List (String × Role)) (name : String) (item : Json)
    (rest : List (String × Json)) :
    tidyFields known ((name, item) :: rest) =
      match known.lookup name with
      | none => tidyFields known rest
      | some role => (name, tidyAs role item) :: tidyFields known rest := by
  rw [tidyFields]
  cases known.lookup name with
  | none => rfl
  | some role => cases role <;> rfl

/-- Fields that a node has are found where they were, the others no longer. -/
theorem lookup_tidyFields (known : List (String × Role)) (name : String)
    (fields : List (String × Json)) :
    (tidyFields known fields).lookup name =
      (known.lookup name).bind fun role => (fields.lookup name).map (tidyAs role) := by
  induction fields with
  | nil =>
    rw [tidyFields]
    cases known.lookup name <;> rfl
  | cons field rest ih =>
    obtain ⟨key, item⟩ := field
    rw [tidyFields_cons]
    by_cases h : name = key
    · subst h
      rw [List.lookup_cons_self]
      cases hrole : known.lookup name with
      | none =>
        rw [hrole] at ih
        exact ih
      | some role => exact List.lookup_cons_self
    · rw [Json.lookup_cons_of_ne h, ← ih]
      cases known.lookup key with
      | none => rfl
      | some role => exact Json.lookup_cons_of_ne h

end Reckon.Wire
