/-!
# `Text.Search` — finding, splitting and replacing

All three rest on one cut: the text before the first occurrence of a needle and the text after it.

  * `cut?` — the two parts around the first occurrence
  * `find?` — where the first occurrence starts
  * `splitOn` — the parts between all occurrences, left to right
  * `replace` — these parts joined by something else
-/

namespace Reckon.Text

/-- The parts of `s` before and after the first occurrence of `needle`. -/
def cut? (needle : List Char) : List Char → Option (List Char × List Char)
  | [] => if needle.isEmpty then some ([], []) else none
  | c :: rest =>
    if needle.isPrefixOf (c :: rest) then some ([], (c :: rest).drop needle.length)
    else (cut? needle rest).map fun parts => (c :: parts.1, parts.2)

/-- A cut loses nothing. -/
theorem append_of_cut? {needle s before after : List Char}
    (h : cut? needle s = some (before, after)) : s = before ++ needle ++ after := by
  induction s generalizing before with
  | nil =>
    simp only [cut?] at h
    split at h
    · obtain ⟨rfl, rfl⟩ := by simpa using h
      simp_all
    · simp at h
  | cons c rest ih =>
    simp only [cut?] at h
    split at h
    · obtain ⟨rfl, rfl⟩ := by simpa using h
      rename_i hp
      obtain ⟨t, ht⟩ := List.isPrefixOf_iff_prefix.1 hp
      simp [← ht]
    · obtain ⟨⟨b, a⟩, hcut, heq⟩ := Option.map_eq_some_iff.1 h
      obtain ⟨rfl, rfl⟩ := by simpa using heq
      simp [ih hcut]

/-- Where the first occurrence of `needle` starts. -/
def find? (needle s : List Char) : Option Nat :=
  (cut? needle s).map (·.1.length)

/-- The parts of `s` between the occurrences of `needle`; all of it when `needle` is empty. -/
def splitOn (needle s : List Char) : List (List Char) :=
  if _hn : needle = [] then [s]
  else
    match _h : cut? needle s with
    | none => [s]
    | some (before, after) => before :: splitOn needle after
termination_by s.length
decreasing_by
  have := append_of_cut? _h
  have : 0 < needle.length := List.length_pos_iff.2 _hn
  simp_all
  omega

/-- Every occurrence of `old` replaced; an empty `old` occurs around every character. -/
def replace (old new s : List Char) : List Char :=
  if old.isEmpty then new ++ s.flatMap (fun c => c :: new)
  else List.intercalate new (splitOn old s)

end Reckon.Text
