import Mathlib.Data.List.Induction
import Mathlib.Data.List.Nodup
import Reckon.Registry

/-!
# `Proofs.Scope.Writes` — a registry is what was last written to it

A registry is written to in three ways: an entry is put under a key, a key is dropped, everything is
cleared. `Write.latest` says what a sequence of writes leaves under a key without looking at a registry: the
last write that says anything of the key decides.

Main statements: a registry answers as `Write.latest` says (`get?_writeAll`), and no key is in it twice
(`distinct_writeAll`), so its listings are strictly increasing (`pairwise_lt_mergeSort`).
-/

namespace Reckon

/-- A write to a registry. -/
inductive Write (α : Type) where
  | put (key : String) (entry : α)
  | drop (key : String)
  | clear

namespace Write

variable {α : Type}

/-- What a write says of a key: nothing, or what stands under it from now on. -/
def decision? (key : String) : Write α → Option (Option α)
  | put k entry => if key = k then some (some entry) else none
  | drop k => if key = k then some none else none
  | clear => some none

/-- What stands under a key after some writes: the last that says anything of the key decides. -/
def latest (ws : List (Write α)) (key : String) : Option α :=
  (ws.reverse.findSome? (decision? key)).join

/-- What stands under a key was put there. -/
theorem put_mem_of_latest {ws : List (Write α)} {key : String} {entry : α}
    (h : latest ws key = some entry) : put key entry ∈ ws := by
  obtain ⟨w, hw, hdecides⟩ := List.exists_of_findSome?_eq_some (Option.join_eq_some_iff.mp h)
  cases w with
  | put k a =>
    rw [decision?] at hdecides
    split at hdecides
    · next hkey =>
      cases hdecides
      rw [hkey]
      exact List.mem_reverse.mp hw
    · cases hdecides
  | drop k =>
    rw [decision?] at hdecides
    split at hdecides <;> cases hdecides
  | clear => cases hdecides

end Write

namespace Registry

variable {α : Type}

/-- The registry after a write. -/
def write (r : Registry α) : Write α → Registry α
  | .put key entry => r.insert key entry
  | .drop key => r.erase key
  | .clear => .empty

/-- The registry after some writes. -/
def writeAll (r : Registry α) (ws : List (Write α)) : Registry α :=
  ws.foldl write r

theorem get?_write (r : Registry α) (w : Write α) (key : String) :
    (r.write w).get? key = (w.decision? key).getD (r.get? key) := by
  cases w with
  | put k entry =>
    rw [write, get?_insert, Write.decision?]
    split <;> rfl
  | drop k =>
    rw [write, get?_erase, Write.decision?]
    split <;> rfl
  | clear => rfl

/-- **A registry answers with the last write.** -/
theorem get?_writeAll (ws : List (Write α)) (key : String) :
    (writeAll .empty ws).get? key = Write.latest ws key := by
  induction ws using List.reverseRecOn with
  | nil => rfl
  | append_singleton ws w ih =>
    unfold writeAll Write.latest at ih ⊢
    rw [List.foldl_append, List.foldl_cons, List.foldl_nil, get?_write, ih, List.reverse_concat,
      List.findSome?_cons]
    cases Write.decision? key w <;> rfl

/-! ## Keys -/

/-- No key stands in the registry twice. -/
def Distinct (r : Registry α) : Prop :=
  (r.entries.map (·.1)).Nodup

theorem Distinct.empty : (empty : Registry α).Distinct :=
  List.nodup_nil

theorem Distinct.erase {r : Registry α} (h : r.Distinct) (key : String) : (r.erase key).Distinct :=
  List.Nodup.sublist (List.filter_sublist.map _) h

theorem Distinct.insert {r : Registry α} (h : r.Distinct) (key : String) (entry : α) :
    (r.insert key entry).Distinct := by
  refine List.nodup_cons.mpr ⟨?_, h.erase key⟩
  intro hmem
  obtain ⟨e, he, hkey⟩ := List.mem_map.mp hmem
  have hne : e.1 ≠ key := bne_iff_ne.mp (List.mem_filter.mp he).2
  exact hne hkey

theorem Distinct.write {r : Registry α} (h : r.Distinct) (w : Write α) : (r.write w).Distinct := by
  cases w with
  | put key entry => exact h.insert key entry
  | drop key => exact h.erase key
  | clear => exact .empty

theorem distinct_writeAll (ws : List (Write α)) : (writeAll (.empty : Registry α) ws).Distinct := by
  induction ws using List.reverseRecOn with
  | nil => exact .empty
  | append_singleton ws w ih =>
    unfold writeAll at ih ⊢
    rw [List.foldl_append]
    exact ih.write w

theorem mem_keys_iff {r : Registry α} {key : String} :
    key ∈ r.keys ↔ (r.get? key).isSome = true := by
  unfold keys get?
  rw [List.mem_mergeSort, Option.isSome_map, List.find?_isSome, List.mem_map]
  constructor
  · rintro ⟨e, he, rfl⟩
    exact ⟨e, he, beq_self_eq_true e.1⟩
  · rintro ⟨e, he, hkey⟩
    exact ⟨e, he, beq_iff_eq.mp hkey⟩

/-- With no key twice, an entry is the one that its key gives. -/
theorem Distinct.mem_entries_iff {r : Registry α} (h : r.Distinct) {key : String} {entry : α} :
    (key, entry) ∈ r.entries ↔ r.get? key = some entry := by
  unfold get?
  rw [Option.map_eq_some_iff]
  constructor
  · intro hmem
    cases hfound : r.entries.find? (·.1 == key) with
    | none =>
      have hno := List.find?_eq_none.mp hfound _ hmem
      exact absurd (beq_self_eq_true key) hno
    | some e =>
      have hkey : e.1 = key := by simpa using List.find?_some hfound
      have he : e ∈ r.entries := List.mem_of_find?_eq_some hfound
      have hsame : e = (key, entry) := List.inj_on_of_nodup_map h he hmem hkey
      exact ⟨e, rfl, by rw [hsame]⟩
  · rintro ⟨e, hfound, rfl⟩
    have hkey : e.1 = key := by simpa using List.find?_some hfound
    rw [← hkey]
    exact List.mem_of_find?_eq_some hfound

end Registry

/-- Sorted by a text that none shares with another, a list is strictly increasing. -/
theorem pairwise_lt_mergeSort {α : Type} {l : List α} (text : α → String)
    (h : (l.map text).Nodup) :
    (l.mergeSort fun a b => text a ≤ text b).Pairwise fun a b => text a < text b := by
  have hsorted : (l.mergeSort fun a b => text a ≤ text b).Pairwise
      fun a b => decide (text a ≤ text b) = true := by
    refine List.pairwise_mergeSort ?_ ?_ l
    · intro a b c hab hbc
      exact decide_eq_true (String.le_trans (of_decide_eq_true hab) (of_decide_eq_true hbc))
    · intro a b
      rw [← Bool.decide_or]
      exact decide_eq_true (String.le_total _ _)
  have hdistinct : (l.mergeSort fun a b => text a ≤ text b).Pairwise fun a b => text a ≠ text b :=
    List.pairwise_map.mp (((List.mergeSort_perm l _).map text).nodup_iff.mpr h)
  refine hsorted.imp₂ ?_ hdistinct
  intro a b hle hne
  refine String.not_le.mp ?_
  intro hge
  exact hne (String.le_antisymm (of_decide_eq_true hle) hge)

end Reckon
