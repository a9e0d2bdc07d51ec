import Reckon.Proofs.Json.RoundTrip
import Reckon.Proofs.Wire.RoundTrip
import Reckon.Wire.Text

/-!
# `Proofs.Wire.Dump` — expressions as texts and back

An expression that is dumped is loaded again, in every layout, if its numbers are read back from what is
written for them and if its document is not nested too deeply for what writing and reading are allowed.
Dumping it once more gives the same text.
-/

namespace Reckon

open Wire

/-! ## Numbers -/

mutual

/-- The numbers in a value. -/
def Value.numbers : Value → List Float
  | boolean _ | string _ => []
  | number x => [x]
  | array items => numbersAmong items

def Value.numbersAmong : List Value → List Float
  | [] => []
  | item :: rest => item.numbers ++ numbersAmong rest

end

mutual

/-- The numbers in an expression. -/
def Expr.numbers : Expr → List Float
  | literal value => value.numbers
  | .variable _ => []
  | call _ params => numbersAmong params
  | unary _ operand => operand.numbers
  | binary _ left right => left.numbers ++ right.numbers
  | array elements => numbersAmong elements
  | ternary _ condition thenBranch elseBranch =>
    condition.numbers ++ (thenBranch.numbers ++ elseBranch.numbers)

def Expr.numbersAmong : List Expr → List Float
  | [] => []
  | e :: rest => e.numbers ++ numbersAmong rest

end

/-! ## Values -/

namespace Value

variable {sort : Bool}

mutual

/-- The document of a value has nothing to sort. -/
theorem arrange_toJson : ∀ v : Value, v.toJson.arrange sort = v.toJson
  | boolean _ | number _ | string _ => by
    rw [toJson, Json.arrange, Json.arrangeFields_eq]
    exact congrArg Json.object (Json.inOrder_singleton _)
  | array items => by
    rw [toJson, Json.arrange, Json.arrangeFields_eq]
    show Json.object
      (Json.inOrder sort [("array", .list (Json.arrangeItems sort (itemsToJson items)))]) = _
    rw [Json.inOrder_singleton, arrangeItems_itemsToJson items]

theorem arrangeItems_itemsToJson : ∀ vs : List Value,
    Json.arrangeItems sort (itemsToJson vs) = itemsToJson vs
  | [] => rfl
  | v :: rest => by
    rw [itemsToJson, Json.arrangeItems, arrange_toJson v, arrangeItems_itemsToJson rest]

end

theorem legible_single {name : String} {d : Json} (h : d.Legible) :
    (Json.object [(name, d)]).Legible :=
  .object (by simp) (List.forall_mem_singleton.mpr h)

mutual

theorem legible_toJson : ∀ {v : Value}, (∀ x ∈ v.numbers, Number.ReadsBack x) → v.toJson.Legible
  | boolean b, _ => legible_single (.boolean b)
  | number x, h => legible_single (.real (h x (List.mem_singleton.mpr rfl)))
  | string s, _ => legible_single (.string s)
  | array _, h => legible_single (.list (legible_itemsToJson h))

theorem legible_itemsToJson : ∀ {vs : List Value}, (∀ x ∈ numbersAmong vs, Number.ReadsBack x) →
    ∀ d ∈ itemsToJson vs, d.Legible
  | [], _ => nofun
  | v :: rest, h => by
    obtain ⟨hfirst, hothers⟩ := List.forall_mem_append.mp h
    exact List.forall_mem_cons.mpr ⟨legible_toJson hfirst, legible_itemsToJson hothers⟩

end

end Value

namespace Expr

/-! ## Expressions -/

theorem nodup_parts (e : Expr) : (e.parts.map (·.1)).Nodup := by
  cases e <;> simp [parts]

variable {sort : Bool}

mutual

/-- The expression is read however the fields of its document are arranged. -/
theorem ofJson?_arrange (e : Expr) : ofJson? (e.toJson.arrange sort) = .ok e := by
  rw [toJson_eq, Json.arrange, Json.arrangeFields_eq, List.map_map]
  apply ofJson?_of_held
  intro name part hpart
  refine ⟨part.toJson.arrange sort, Json.lookup_inOrder ?_ ?_, ?_⟩
  · rw [List.map_map]
    exact nodup_parts e
  · exact (Json.lookup_map (fun part => part.toJson.arrange sort) name e.parts).trans
      (congrArg _ hpart)
  · cases part with
    | text s => exact rfl
    | value v =>
      show Value.ofJson? (v.toJson.arrange sort) = .ok v
      rw [Value.arrange_toJson, Value.ofJson?_toJson]
    | node e' =>
      have := sizeOf_node hpart
      exact ofJson?_arrange e'
    | nodes es =>
      have := sizeOf_nodes hpart
      exact ⟨_, rfl, allOfJson?_arrange es⟩
termination_by sizeOf e

theorem allOfJson?_arrange (es : List Expr) :
    allOfJson? (Json.arrangeItems sort (allToJson es)) = .ok es := by
  cases es with
  | nil => exact allOfJson?_nil
  | cons e rest =>
    exact allOfJson?_cons_iff.mpr ⟨e, rest, rfl, ofJson?_arrange e, allOfJson?_arrange rest⟩
termination_by sizeOf es

end

theorem legible_of_parts {e : Expr} (h : ∀ part ∈ e.parts, part.2.toJson.Legible) :
    e.toJson.Legible := by
  rw [toJson_eq]
  refine .object ?_ (List.forall_mem_map.mpr h)
  rw [List.map_map]
  exact nodup_parts e

mutual

theorem legible_toJson : ∀ {e : Expr}, (∀ x ∈ e.numbers, Number.ReadsBack x) → e.toJson.Legible
  | literal _, h => legible_of_parts <| by
    simp only [parts, List.forall_mem_cons]
    exact ⟨.string _, Value.legible_toJson h, List.forall_mem_nil _⟩
  | .variable _, _ => legible_of_parts <| by
    simp only [parts, List.forall_mem_cons]
    exact ⟨.string _, .string _, List.forall_mem_nil _⟩
  | call _ _, h => legible_of_parts <| by
    simp only [parts, List.forall_mem_cons]
    exact ⟨.string _, .string _, .list (legible_allToJson h), List.forall_mem_nil _⟩
  | unary _ _, h => legible_of_parts <| by
    simp only [parts, List.forall_mem_cons]
    exact ⟨.string _, .string _, legible_toJson h, List.forall_mem_nil _⟩
  | binary _ _ _, h => legible_of_parts <| by
    obtain ⟨hleft, hright⟩ := List.forall_mem_append.mp h
    simp only [parts, List.forall_mem_cons]
    exact ⟨.string _, .string _, legible_toJson hleft, legible_toJson hright, List.forall_mem_nil _⟩
  | array _, h => legible_of_parts <| by
    simp only [parts, List.forall_mem_cons]
    exact ⟨.string _, .list (legible_allToJson h), List.forall_mem_nil _⟩
  | ternary _ _ _ _, h => legible_of_parts <| by
    obtain ⟨hcondition, hbranches⟩ := List.forall_mem_append.mp h
    obtain ⟨hthen, helse⟩ := List.forall_mem_append.mp hbranches
    simp only [parts, List.forall_mem_cons]
    exact ⟨.string _, .string _, legible_toJson hcondition, legible_toJson hthen,
      legible_toJson helse, List.forall_mem_nil _⟩

theorem legible_allToJson : ∀ {es : List Expr}, (∀ x ∈ numbersAmong es, Number.ReadsBack x) →
    ∀ d ∈ allToJson es, d.Legible
  | [], _ => nofun
  | e :: rest, h => by
    obtain ⟨hfirst, hothers⟩ := List.forall_mem_append.mp h
    exact List.forall_mem_cons.mpr ⟨legible_toJson hfirst, legible_allToJson hothers⟩

end

theorem load_dump (layout : Json.Layout) {e : Expr} (h : ∀ x ∈ e.numbers, Number.ReadsBack x)
    (allowance : Allowance) :
    load allowance (e.dump layout) =
      if allowance.grants e.toJson.depth then .ok e else .error .nestedTooDeeply := by
  rw [load, dump, Json.read_print layout (legible_toJson h)]
  cases allowance.grants e.toJson.depth with
  | false => rfl
  | true =>
    show ofDocument (e.toJson.arrange layout.sortFields) = .ok e
    rw [ofDocument, ofJson?_arrange]
    rfl

theorem load_dumpWithin (layout : Json.Layout) {e : Expr} (h : ∀ x ∈ e.numbers, Number.ReadsBack x)
    (writing reading : Allowance) :
    (e.dumpWithin writing layout).bind (load reading) =
      if writing.grants e.toJson.depth && reading.grants e.toJson.depth then .ok e
      else .error .nestedTooDeeply := by
  unfold dumpWithin
  cases writing.grants e.toJson.depth with
  | false => rfl
  | true => exact load_dump layout h reading

/-- **Main theorem.** An expression whose numbers are read back is loaded again from what is dumped for it,
in every layout; with an allowance, exactly if the levels of its document are granted, and nothing but the
nesting is refused. The same goes for writing under an allowance. Whatever is loaded from the text is dumped
as that text again. -/
theorem dump_roundTrip (layout : Json.Layout) (e : Expr)
    (h : ∀ x ∈ e.numbers, Number.ReadsBack x) :
    load none (e.dump layout) = .ok e ∧
      (∀ allowance : Allowance, load allowance (e.dump layout) =
        if allowance.grants e.toJson.depth then .ok e else .error .nestedTooDeeply) ∧
      (∀ writing reading : Allowance, (e.dumpWithin writing layout).bind (load reading) =
        if writing.grants e.toJson.depth && reading.grants e.toJson.depth then .ok e
        else .error .nestedTooDeeply) ∧
      ∀ allowance e', load allowance (e.dump layout) = .ok e' → e'.dump layout = e.dump layout := by
  refine ⟨load_dump layout h none, load_dump layout h, load_dumpWithin layout h, ?_⟩
  intro allowance e' hload
  rw [load_dump layout h] at hload
  split at hload
  · cases hload
    rfl
  · cases hload

/-- A tree with all sorts of numbers, and with texts that have to be escaped. -/
def motley : Expr :=
  .binary .plus
    (.array [.literal (.array [.number 0.1, .number (-0.0), .number 1e300, .boolean true]),
      .literal (.number (0.0 / 0.0)), .literal (.number (-1.0 / 0.0))])
    (.ternary .conditional (.variable "größe") (.literal (.string "\"\\\x07😀\n"))
      (.call "f" []))

/-- It is loaded again from lines with two blanks for each level, fields sorted, ASCII only, if seven
levels are granted for writing and for reading. -/
theorem dump_roundTrip_motley :
    let layout : Json.Layout := ⟨some 2, true, true⟩
    (∀ x ∈ motley.numbers, Number.ReadsBack x) ∧
      load (some 7) (motley.dump layout) = .ok motley ∧
      load (some 6) (motley.dump layout) = .error .nestedTooDeeply ∧
      (motley.dumpWithin (some 7) layout).bind (load (some 7)) = .ok motley ∧
      (motley.dumpWithin (some 6) layout).bind (load (some 7)) = .error .nestedTooDeeply := by
  intro layout
  have hreads : ∀ x ∈ motley.numbers, Number.ReadsBack x := by
    show ∀ x ∈ [0.1, -0.0, 1e300, 0.0 / 0.0, -1.0 / 0.0], Number.ReadsBack x
    unfold Number.ReadsBack
    decide +kernel
  obtain ⟨-, hload, hwithin, -⟩ := dump_roundTrip layout motley hreads
  exact ⟨hreads, hload (some 7), hload (some 6), hwithin (some 7) (some 7), hwithin (some 6) (some 7)⟩

end Expr

end Reckon
