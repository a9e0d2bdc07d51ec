import Reckon.Proofs.Pattern.Progress

/-!
# `Proofs.Pattern.Scan` — going through a text match by match

A search asks one position after the other for a match and takes the first (`search_eq_some`), and finds nothing
only if no position has one (`search_eq_none`). A scan searches on from where the last match ended, and after an
empty match asks for one that moves. Every search either moves on or, once at a position, stays there, so twice the
length of the text bounds the number of searches, and the list of all matches is a scan to its end
(`scan_matchesOf`).

The matches of a scan follow each other, so they cut the text into segments, each of them what stands before a match
and the match itself, and what is left over after the last. The segments make up the text (`Scan.joined`).

Main statements: `search_eq_some`, `search_eq_none`, `scan_matchesOf`, `Scan.joined`.
-/

namespace Reckon.Pattern

variable {p : Pattern} {text : Array Char} {start : Nat} {moving : Bool} {m : PatternMatch}

/-! ## Searches -/

/-- The match at a position when a search starts at `start`: only there it may have to move. -/
def matchFor? (p : Pattern) (text : Array Char) (start : Nat) (moving : Bool) (position : Nat) :
    Option PatternMatch :=
  matchAt? p text position (moving && position == start)

/-- What a search finds is the match of the first position that has one. -/
structure Leftmost (p : Pattern) (text : Array Char) (start : Nat) (moving : Bool) (m : PatternMatch) : Prop where
  start_le : start ≤ m.whole.start
  start_le_stop : m.whole.start ≤ m.whole.stop
  stop_le : m.whole.stop ≤ text.size
  /-- A search that must move does. -/
  moves : moving = true → start < m.whole.stop
  found : matchFor? p text start moving m.whole.start = some m
  before : ∀ position, start ≤ position → position < m.whole.start → matchFor? p text start moving position = none

theorem matchFor?_start : matchFor? p text start moving start = matchAt? p text start moving := by
  rw [matchFor?, beq_self_eq_true, Bool.and_true]

theorem matchFor?_of_lt {position : Nat} (h : start < position) :
    matchFor? p text start moving position = matchAt? p text position false := by
  have hne : (position == start) = false := by
    rw [beq_eq_false_iff_ne]
    omega
  rw [matchFor?, hne, Bool.and_false]

/-- The positions are asked in turn. -/
theorem searchFrom_eq_some {count : Nat} (h : searchFrom p text start count = some m) :
    ∃ k, k < count ∧ matchAt? p text (start + k) false = some m ∧
      ∀ j, j < k → matchAt? p text (start + j) false = none := by
  induction count generalizing start with
  | zero => cases h
  | succ count ih =>
    rcases Option.or_eq_some_iff.mp h with hhere | ⟨hnone, hlater⟩
    · exact ⟨0, Nat.succ_pos _, hhere, fun j hj => absurd hj (Nat.not_lt_zero _)⟩
    · obtain ⟨k, hk, hfound, hbefore⟩ := ih hlater
      refine ⟨k + 1, Nat.succ_lt_succ hk, ?_, ?_⟩
      · rw [← hfound, Nat.add_assoc, Nat.add_comm 1]
      · intro j hj
        cases j with
        | zero => exact hnone
        | succ j =>
          rw [← hbefore j (Nat.lt_of_succ_lt_succ hj), Nat.add_assoc, Nat.add_comm 1]

theorem searchFrom_eq_none {count : Nat} (h : searchFrom p text start count = none) {k : Nat} (hk : k < count) :
    matchAt? p text (start + k) false = none := by
  induction count generalizing start k with
  | zero => cases hk
  | succ count ih =>
    obtain ⟨hhere, hlater⟩ := Option.or_eq_none_iff.mp h
    cases k with
    | zero => exact hhere
    | succ k =>
      rw [← ih hlater (Nat.lt_of_succ_lt_succ hk), Nat.add_assoc, Nat.add_comm 1]

/-- **A search finds the leftmost match.** -/
theorem search_eq_some (hstart : start ≤ text.size) (h : search p text start moving = some m) :
    Leftmost p text start moving m := by
  rw [search, if_neg (Nat.not_lt.mpr hstart)] at h
  rcases Option.or_eq_some_iff.mp h with hhere | ⟨hnone, hlater⟩
  · obtain ⟨hsame, hle, hsize, hmoves⟩ := matchAt?_bounds hstart hhere
    exact {
      start_le := hsame ▸ Nat.le_refl _
      start_le_stop := hsame ▸ hle
      stop_le := hsize
      moves := fun hmoving => Nat.lt_of_le_of_ne hle (hmoves hmoving).symm
      found := by rw [hsame, matchFor?_start, hhere]
      before := by
        intro position hfrom hto
        omega }
  · obtain ⟨k, hk, hfound, hbefore⟩ := searchFrom_eq_some hlater
    obtain ⟨hsame, hle, hsize, -⟩ := matchAt?_bounds (show start + 1 + k ≤ text.size by omega) hfound
    exact {
      start_le := by omega
      start_le_stop := by omega
      stop_le := hsize
      moves := fun _ => by omega
      found := by rw [hsame, matchFor?_of_lt (by omega), hfound]
      before := by
        intro position hfrom hto
        by_cases hfirst : position = start
        · rw [hfirst, matchFor?_start, hnone]
        · have hnone' := hbefore (position - (start + 1)) (by omega)
          rw [Nat.add_sub_cancel' (by omega)] at hnone'
          rw [matchFor?_of_lt (by omega), hnone'] }

/-- A search that finds nothing has asked every position. -/
theorem search_eq_none (h : search p text start moving = none) {position : Nat} (hfrom : start ≤ position)
    (hto : position ≤ text.size) : matchFor? p text start moving position = none := by
  rw [search, if_neg (by omega)] at h
  obtain ⟨hhere, hlater⟩ := Option.or_eq_none_iff.mp h
  by_cases hfirst : position = start
  · rw [hfirst, matchFor?_start, hhere]
  · have hnone := searchFrom_eq_none hlater (show position - (start + 1) < text.size - start by omega)
    rw [Nat.add_sub_cancel' (by omega)] at hnone
    rw [matchFor?_of_lt (by omega), hnone]

/-! ## Scans -/

/-- The matches from a position on, one search after the other until there is no more. -/
inductive Scan (p : Pattern) (text : Array Char) : Nat → Bool → List PatternMatch → Prop where
  | done {start : Nat} {moving : Bool} : search p text start moving = none → Scan p text start moving []
  | next {start : Nat} {moving : Bool} {m : PatternMatch} {rest : List PatternMatch} :
      search p text start moving = some m →
      Scan p text m.whole.stop (m.whole.stop == m.whole.start) rest → Scan p text start moving (m :: rest)

/-- At every position that is left there may be an empty match and one that moves. -/
def searchesLeft (text : Array Char) (start : Nat) (moving : Bool) : Nat :=
  2 * (text.size - start) + if moving then 0 else 1

/-- **A match leaves fewer searches.** -/
theorem searchesLeft_lt (h : Leftmost p text start moving m) :
    searchesLeft text m.whole.stop (m.whole.stop == m.whole.start) < searchesLeft text start moving := by
  have hfrom := h.start_le
  have hto := h.start_le_stop
  have hsize := h.stop_le
  rw [searchesLeft, searchesLeft]
  by_cases hadvanced : start < m.whole.stop
  · split <;> split <;> omega
  · -- an empty match at the start, which no search that must move finds
    have hempty : (m.whole.stop == m.whole.start) = true := by
      rw [beq_iff_eq]
      omega
    have hfree : moving = false := by
      rw [← Bool.not_eq_true]
      exact fun hmoving => hadvanced (h.moves hmoving)
    simp only [hempty, hfree, if_true, Bool.false_eq_true, if_false]
    omega

theorem scan_matchesFrom {fuel : Nat} (hstart : start ≤ text.size) (hfuel : searchesLeft text start moving < fuel) :
    Scan p text start moving (matchesFrom p text fuel start moving) := by
  induction fuel generalizing start moving with
  | zero => cases hfuel
  | succ fuel ih =>
    rw [matchesFrom]
    cases hsearch : search p text start moving with
    | none => exact .done hsearch
    | some m =>
      have hleft := search_eq_some hstart hsearch
      have hless := searchesLeft_lt hleft
      exact .next hsearch (ih hleft.stop_le (by omega))

/-- **All matches are a scan of the whole text to its end.** -/
theorem scan_matchesOf (p : Pattern) (text : Array Char) : Scan p text 0 false (matchesOf p text) := by
  refine scan_matchesFrom (Nat.zero_le _) ?_
  show 2 * (text.size - 0) + 1 < 2 * text.size + 2
  omega

/-- What a scan finds first is the leftmost match. -/
theorem Scan.leftmost {rest : List PatternMatch} (h : Scan p text start moving (m :: rest))
    (hstart : start ≤ text.size) : Leftmost p text start moving m := by
  cases h with
  | next hsearch _ => exact search_eq_some hstart hsearch

/-- A scan finds nothing only if no position has a match. -/
theorem Scan.nowhere (h : Scan p text start moving []) {position : Nat} (hfrom : start ≤ position)
    (hto : position ≤ text.size) : matchFor? p text start moving position = none := by
  cases h with
  | done hsearch => exact search_eq_none hsearch hfrom hto

/-- A scan begins with a search. -/
theorem Scan.head?_eq {found : List PatternMatch} (h : Scan p text start moving found) :
    found.head? = search p text start moving := by
  cases h with
  | done hsearch => exact hsearch.symm
  | next hsearch hrest => exact hsearch.symm

/-! ## Segments -/

/-- A match with what stands between it and the one before. -/
structure Segment where
  gap : List Char
  matched : List Char

/-- The text from a position on, cut after every match. -/
def segmentsFrom (text : Array Char) (position : Nat) : List PatternMatch → List Segment
  | [] => []
  | m :: rest =>
    ⟨(text.extract position m.whole.start).toList, m.whole.of text⟩ :: segmentsFrom text m.whole.stop rest

/-- What is left of the text after the last match. -/
def leftOver (text : Array Char) (position : Nat) : List PatternMatch → List Char
  | [] => (text.extract position text.size).toList
  | m :: rest => leftOver text m.whole.stop rest

/-- Segments as they stand in the text. -/
def whole (segments : List Segment) : List Char :=
  segments.flatMap fun segment => segment.gap ++ segment.matched

theorem map_matched_segmentsFrom (text : Array Char) (position : Nat) (found : List PatternMatch) :
    (segmentsFrom text position found).map (·.matched) = found.map (·.whole.of text) := by
  induction found generalizing position with
  | nil => rfl
  | cons m rest ih => exact congrArg _ (ih m.whole.stop)

theorem length_segmentsFrom (text : Array Char) (position : Nat) (found : List PatternMatch) :
    (segmentsFrom text position found).length = found.length := by
  have h := congrArg List.length (map_matched_segmentsFrom text position found)
  rwa [List.length_map, List.length_map] at h

/-- Parts of a text that follow each other are one. -/
theorem extract_append {i j k : Nat} (hij : i ≤ j) (hjk : j ≤ k) :
    (text.extract i j).toList ++ (text.extract j k).toList = (text.extract i k).toList := by
  rw [← Array.toList_append, Array.extract_append_extract, Nat.min_eq_left hij, Nat.max_eq_right hjk]

/-- **The segments and what is left over make up the text.** -/
theorem Scan.joined {found : List PatternMatch} (h : Scan p text start moving found) (hstart : start ≤ text.size) :
    whole (segmentsFrom text start found) ++ leftOver text start found = (text.extract start text.size).toList := by
  induction h with
  | done hsearch => rfl
  | @next start moving m rest hsearch hrest ih =>
    have hleft := search_eq_some hstart hsearch
    have hto : m.whole.start ≤ text.size := Nat.le_trans hleft.start_le_stop hleft.stop_le
    calc whole (segmentsFrom text start (m :: rest)) ++ leftOver text start (m :: rest)
        = (text.extract start m.whole.start).toList ++ ((text.extract m.whole.start m.whole.stop).toList ++
            (whole (segmentsFrom text m.whole.stop rest) ++ leftOver text m.whole.stop rest)) := by
          simp only [whole, segmentsFrom, leftOver, List.flatMap_cons, Span.of, List.append_assoc]
      _ = (text.extract start m.whole.start).toList ++ (text.extract m.whole.start text.size).toList := by
          rw [ih hleft.stop_le, extract_append hleft.start_le_stop hleft.stop_le]
      _ = (text.extract start text.size).toList := extract_append hleft.start_le hto

end Reckon.Pattern
