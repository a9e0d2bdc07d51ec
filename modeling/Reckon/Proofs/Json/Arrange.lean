import Reckon.Json.Printer
import Reckon.Proofs.Json.Agree

/-!
# `Proofs.Json.Arrange` — documents with their fields in the order of their names

A layout that sorts fields prints a document as the same layout without sorting prints the document with
its fields sorted, at every depth (`printAt_arrange`). Sorting changes neither what an object holds under a
name nor how deep a document is.
-/

namespace Reckon.Json

/-- The fields in the order of their names, if they are to be sorted. -/
def inOrder (sort : Bool) (fields : List (String × Json)) : List (String × Json) :=
  if sort then fields.mergeSort fun a b => a.1 ≤ b.1 else fields

mutual

/-- The document with all its fields in order. -/
def arrange (sort : Bool) : Json → Json
  | null => null
  | boolean b => boolean b
  | integer n => integer n
  | real x => real x
  | string s => string s
  | list items => list (arrangeItems sort items)
  | object fields => object (inOrder sort (arrangeFields sort fields))

def arrangeItems (sort : Bool) : List Json → List Json
  | [] => []
  | item :: rest => item.arrange sort :: arrangeItems sort rest

def arrangeFields (sort : Bool) : List (String × Json) → List (String × Json)
  | [] => []
  | (name, item) :: rest => (name, item.arrange sort) :: arrangeFields sort rest

end

variable {sort : Bool} {fields : List (String × Json)}

theorem inOrder_perm : (inOrder sort fields).Perm fields := by
  unfold inOrder
  split
  · exact List.mergeSort_perm fields _
  · exact .refl fields

theorem inOrder_singleton (field : String × Json) : inOrder sort [field] = [field] := by
  unfold inOrder
  split
  · exact List.mergeSort_singleton field
  · rfl

theorem arrangeItems_eq (items : List Json) : arrangeItems sort items = items.map (arrange sort) := by
  induction items with
  | nil => rfl
  | cons item rest ih =>
    rw [arrangeItems, ih]
    rfl

theorem arrangeFields_eq (fields : List (String × Json)) :
    arrangeFields sort fields = fields.map fun (name, item) => (name, item.arrange sort) := by
  induction fields with
  | nil => rfl
  | cons field rest ih =>
    rw [arrangeFields, ih]
    rfl

theorem map_fst_arrangeFields (fields : List (String × Json)) :
    (arrangeFields sort fields).map (·.1) = fields.map (·.1) := by
  rw [arrangeFields_eq, List.map_map]
  rfl

/-- Fields with distinct names are found in any order. -/
theorem lookup_inOrder (distinct : (fields.map (·.1)).Nodup) {name : String} {d : Json}
    (h : fields.lookup name = some d) : (inOrder sort fields).lookup name = some d := by
  apply lookup_of_mem
  · exact (inOrder_perm.map _).nodup_iff.mpr distinct
  · exact inOrder_perm.mem_iff.mpr (mem_of_lookup h)

/-! ## Depth -/

theorem fieldsDepth_perm {fields' : List (String × Json)} (h : fields.Perm fields') :
    fieldsDepth fields = fieldsDepth fields' := by
  induction h with
  | nil => rfl
  | cons field _ ih => rw [fieldsDepth, fieldsDepth, ih]
  | swap field field' rest =>
    simp only [fieldsDepth]
    omega
  | trans _ _ ih ih' => exact ih.trans ih'

mutual

theorem depth_arrange : ∀ d : Json, (d.arrange sort).depth = d.depth
  | null | boolean _ | integer _ | real _ | string _ => rfl
  | list items => by
    rw [arrange, depth, depth, itemsDepth_arrangeItems items]
  | object fields => by
    rw [arrange, depth, depth, fieldsDepth_perm inOrder_perm, fieldsDepth_arrangeFields fields]

theorem itemsDepth_arrangeItems : ∀ items : List Json,
    itemsDepth (arrangeItems sort items) = itemsDepth items
  | [] => rfl
  | item :: rest => by
    rw [arrangeItems, itemsDepth, itemsDepth, depth_arrange item, itemsDepth_arrangeItems rest]

theorem fieldsDepth_arrangeFields : ∀ fields : List (String × Json),
    fieldsDepth (arrangeFields sort fields) = fieldsDepth fields
  | [] => rfl
  | (name, item) :: rest => by
    rw [arrangeFields, fieldsDepth, fieldsDepth, depth_arrange item, fieldsDepth_arrangeFields rest]

end

/-! ## Printing -/

/-- The same layout, but fields stay in their order. -/
def Layout.unsorted (layout : Layout) : Layout :=
  { layout with sortFields := false }

section Printing

variable {layout : Layout} {level : Nat}

theorem printItems_eq (items : List Json) :
    printItems layout level items = items.map (printAt layout level) := by
  induction items with
  | nil => rfl
  | cons item rest ih =>
    rw [printItems, ih]
    rfl

theorem printFields_eq (fields : List (String × Json)) :
    printFields layout level fields = fields.map fun (name, item) =>
      (name, printString layout.asciiOnly name ++ ": " ++ printAt layout level item) := by
  induction fields with
  | nil => rfl
  | cons field rest ih =>
    rw [printFields, ih]
    rfl

/-- Fields may be sorted before they are printed or after. -/
theorem printFields_inOrder :
    printFields layout level (inOrder sort fields) =
      if sort then (printFields layout level fields).mergeSort fun a b => a.1 ≤ b.1
      else printFields layout level fields := by
  unfold inOrder
  split
  · rw [printFields_eq, printFields_eq]
    exact List.map_mergeSort fun _ _ _ _ => rfl
  · rfl

mutual

theorem printAt_arrange : ∀ (level : Nat) (d : Json),
    printAt layout level d = printAt layout.unsorted level (d.arrange layout.sortFields)
  | _, null | _, boolean _ | _, integer _ | _, real _ | _, string _ => rfl
  | level, list items => by
    rw [arrange, printAt, printAt, printItems_arrange (level + 1) items]
    rfl
  | level, object fields => by
    rw [arrange, printAt, printAt, printFields_inOrder, printFields_arrange (level + 1) fields]
    rfl

theorem printItems_arrange : ∀ (level : Nat) (items : List Json),
    printItems layout level items = printItems layout.unsorted level (arrangeItems layout.sortFields items)
  | _, [] => rfl
  | level, item :: rest => by
    rw [arrangeItems, printItems, printItems, printAt_arrange level item, printItems_arrange level rest]

theorem printFields_arrange : ∀ (level : Nat) (fields : List (String × Json)),
    printFields layout level fields =
      printFields layout.unsorted level (arrangeFields layout.sortFields fields)
  | _, [] => rfl
  | level, (name, item) :: rest => by
    rw [arrangeFields, printFields, printFields, printAt_arrange level item,
      printFields_arrange level rest]
    rfl

end

end Printing

end Reckon.Json
