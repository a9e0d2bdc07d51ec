import Mathlib
import Reckon.Text.Search

/-!
# `Proofs.Text.Occurrence` — where a needle occurs in a text

The cut that finding, splitting and replacing rest on is made around the leftmost occurrence, if there is one
(`cut?_eq_none_iff`, `StartsAt.of_cut?`, `not_startsAt_of_cut?`). What comes before it holds no occurrence of
its own, since that would start further left; so the parts that are left by cutting again and again hold none
(`not_startsAt_of_mem_splitOn`), and joined by the needle they are the text (`intercalate_splitOn`).

Occurrences may overlap. A part ends where the leftmost occurrence starts, and the next part starts where that
occurrence ends, so of overlapping ones only the leftmost counts.
-/

namespace Reckon.Text

variable {needle s before after : List Char} {i : Nat}

/-! ## Occurrences -/

/-- The needle occurs in the text, from place `i` on. -/
def StartsAt (needle s : List Char) (i : Nat) : Prop :=
  needle <+: s.drop i

theorem startsAt_zero_iff : StartsAt needle s 0 ↔ needle.isPrefixOf s = true := by
  unfold StartsAt
  rw [List.drop_zero, List.isPrefixOf_iff_prefix]

/-- An occurrence lies within the text. -/
theorem StartsAt.length_le (h : StartsAt needle s i) (hne : needle ≠ []) : i + needle.length ≤ s.length := by
  have hlength : needle.length ≤ (s.drop i).length := List.IsPrefix.length_le h
  have hpos : 0 < needle.length := List.length_pos_iff.mpr hne
  rw [List.length_drop] at hlength
  omega

theorem StartsAt.append (h : StartsAt needle s i) (hi : i ≤ s.length) (rest : List Char) :
    StartsAt needle (s ++ rest) i := by
  unfold StartsAt
  rw [List.drop_append_of_le_length hi]
  exact h.trans (List.prefix_append _ _)

/-- A needle of one character occurs wherever the character stands. -/
theorem startsAt_singleton_iff {c : Char} : StartsAt [c] s i ↔ s[i]? = some c := by
  unfold StartsAt
  rw [← List.head?_drop]
  cases s.drop i with
  | nil => simp
  | cons d rest => simp [eq_comm]

theorem startsAt_iff_take : StartsAt needle s i ↔ (s.drop i).take needle.length = needle := by
  unfold StartsAt
  rw [List.prefix_iff_eq_take]
  exact eq_comm

/-! ## The cut -/

/-- There is no cut exactly if the needle occurs nowhere. -/
theorem cut?_eq_none_iff : cut? needle s = none ↔ ∀ i, ¬ StartsAt needle s i := by
  induction s with
  | nil =>
    have hstarts : ∀ i, StartsAt needle [] i ↔ needle = [] := by simp [StartsAt]
    cases needle <;> simp [cut?, hstarts]
  | cons c rest ih =>
    rw [cut?]
    by_cases hprefix : needle.isPrefixOf (c :: rest) = true
    · rw [if_pos hprefix]
      constructor
      · intro hcut
        cases hcut
      · intro hnone
        exact absurd (startsAt_zero_iff.mpr hprefix) (hnone 0)
    · rw [if_neg hprefix, Option.map_eq_none_iff, ih]
      constructor
      · intro hnone i
        cases i with
        | zero => exact mt startsAt_zero_iff.mp hprefix
        | succ i => exact hnone i
      · intro hnone i
        exact hnone (i + 1)

/-- The cut is made around an occurrence. -/
theorem StartsAt.of_cut? (h : cut? needle s = some (before, after)) : StartsAt needle s before.length := by
  rw [append_of_cut? h]
  unfold StartsAt
  rw [List.append_assoc, List.drop_left]
  exact List.prefix_append _ _

/-- No occurrence starts to the left of the cut. -/
theorem not_startsAt_of_cut? (h : cut? needle s = some (before, after)) (hi : i < before.length) :
    ¬ StartsAt needle s i := by
  induction s generalizing before i with
  | nil =>
    rw [cut?] at h
    split at h
    · cases h
      cases hi
    · cases h
  | cons c rest ih =>
    rw [cut?] at h
    by_cases hprefix : needle.isPrefixOf (c :: rest) = true
    · rw [if_pos hprefix] at h
      cases h
      cases hi
    · rw [if_neg hprefix] at h
      obtain ⟨⟨before', after'⟩, hcut, heq⟩ := Option.map_eq_some_iff.mp h
      cases heq
      cases i with
      | zero => exact mt startsAt_zero_iff.mp hprefix
      | succ i => exact ih hcut (Nat.lt_of_succ_lt_succ hi)

/-- What comes before the cut holds no occurrence: it would start to the left of the leftmost one. -/
theorem not_startsAt_before (hne : needle ≠ []) (h : cut? needle s = some (before, after)) (i : Nat) :
    ¬ StartsAt needle before i := by
  intro hstarts
  have hlength := hstarts.length_le hne
  have hpos : 0 < needle.length := List.length_pos_iff.mpr hne
  have hcut : ¬ StartsAt needle s i := not_startsAt_of_cut? h (by omega)
  rw [append_of_cut? h, List.append_assoc] at hcut
  exact hcut (hstarts.append (by omega) _)

/-! ## Finding -/

theorem find?_eq_none_iff : find? needle s = none ↔ ∀ i, ¬ StartsAt needle s i := by
  unfold find?
  rw [Option.map_eq_none_iff, cut?_eq_none_iff]

/-- What is found is the leftmost occurrence. -/
theorem startsAt_of_find? (h : find? needle s = some i) :
    StartsAt needle s i ∧ ∀ j, StartsAt needle s j → i ≤ j := by
  obtain ⟨⟨before, after⟩, hcut, rfl⟩ := Option.map_eq_some_iff.mp h
  refine ⟨.of_cut? hcut, ?_⟩
  intro j hj
  by_contra hlt
  exact not_startsAt_of_cut? hcut (Nat.lt_of_not_le hlt) hj

/-! ## Splitting -/

section Split

variable (hne : needle ≠ [])

include hne

theorem splitOn_of_none (h : cut? needle s = none) : splitOn needle s = [s] := by
  rw [splitOn, dif_neg hne]
  split
  · rfl
  · next hcut =>
    rw [h] at hcut
    cases hcut

theorem splitOn_of_some (h : cut? needle s = some (before, after)) :
    splitOn needle s = before :: splitOn needle after := by
  rw [splitOn, dif_neg hne]
  split
  · next hcut =>
    rw [h] at hcut
    cases hcut
  · next hcut =>
    rw [h] at hcut
    cases hcut
    rfl

theorem splitOn_ne_nil (s : List Char) : splitOn needle s ≠ [] := by
  cases h : cut? needle s with
  | none =>
    rw [splitOn_of_none hne h]
    nofun
  | some parts =>
    rw [splitOn_of_some hne h]
    nofun

/-- **Joined by the needle, the parts are the text.** -/
theorem intercalate_splitOn (s : List Char) : List.intercalate needle (splitOn needle s) = s := by
  fun_induction splitOn needle s with
  | case1 s hempty => exact absurd hempty hne
  | case2 s _ hnone => exact List.intercalate_singleton
  | case3 s _ before after hcut ih =>
    rw [List.intercalate_cons_of_ne_nil (splitOn_ne_nil hne after), ih]
    exact (append_of_cut? hcut).symm

/-- **No part holds the needle.** -/
theorem not_startsAt_of_mem_splitOn (s : List Char) :
    ∀ part ∈ splitOn needle s, ∀ i, ¬ StartsAt needle part i := by
  fun_induction splitOn needle s with
  | case1 s hempty => exact absurd hempty hne
  | case2 s _ hnone => exact List.forall_mem_singleton.mpr (cut?_eq_none_iff.mp hnone)
  | case3 s _ before after hcut ih => exact List.forall_mem_cons.mpr ⟨not_startsAt_before hne hcut, ih⟩

/-- There is more than one part exactly if the needle occurs, and then the first part ends where it does. -/
theorem splitOn_of_find? (h : find? needle s = some i) :
    2 ≤ (splitOn needle s).length ∧ (splitOn needle s).head? = some (s.take i) := by
  obtain ⟨⟨before, after⟩, hcut, rfl⟩ := Option.map_eq_some_iff.mp h
  have hpos : 0 < (splitOn needle after).length := List.length_pos_iff.mpr (splitOn_ne_nil hne after)
  rw [splitOn_of_some hne hcut]
  refine ⟨?_, ?_⟩
  · rw [List.length_cons]
    omega
  · rw [append_of_cut? hcut, List.append_assoc, List.take_left]
    rfl

theorem length_splitOn_of_find?_none (h : find? needle s = none) : (splitOn needle s).length = 1 := by
  rw [splitOn_of_none hne (Option.map_eq_none_iff.mp h)]
  rfl

end Split

/-- Split by a needle of one character, a text is split at every place where the character stands. -/
theorem splitOn_singleton (c : Char) (s : List Char) : splitOn [c] s = s.splitOn c := by
  have hmem : ∀ t : List Char, (∀ i, ¬ StartsAt [c] t i) → c ∉ t := by
    intro t hnone hc
    obtain ⟨i, hi⟩ := List.mem_iff_getElem?.mp hc
    exact hnone i (startsAt_singleton_iff.mpr hi)
  fun_induction splitOn [c] s with
  | case1 s hempty => exact absurd hempty (List.cons_ne_nil c [])
  | case2 s _ hnone => exact (List.splitOn_eq_singleton (hmem s (cut?_eq_none_iff.mp hnone))).symm
  | case3 s hne before after hcut ih =>
    have hbefore : c ∉ before := hmem before (not_startsAt_before hne hcut)
    have hs : s = before ++ c :: after := by simpa using append_of_cut? hcut
    rw [ih, hs, List.splitOn_append_cons_self_of_not_mem hbefore]

end Reckon.Text
