import Reckon.Library.Matching
import Reckon.Proofs.Number.Special
import Reckon.Proofs.Pattern.Substitution
import Reckon.Text.CharacterName

/-!
# `Proofs.Library.Matches` — the functions on patterns agree on what matches

Whether a pattern matches, what it matches, what the groups of the first match captured and what comes of it when
matches are replaced are questions about one scan of the text (`Proofs.Pattern.Scan`). The first and the third ask
its first search only, the others go through it to the end; none of them sees an empty match otherwise than the
rest. A limit counts matches from the left and has to be below `2 ^ 63`: one beyond ends the call without a report,
however few matches there are.

Main statement: `matches_agree`.
-/

namespace Reckon.Library

open Reckon.Pattern Reckon.Number

variable {named : CharacterNames} {haystack pattern : String} {p : Pattern} {x : Float} {n : Nat}

/-- A text as the functions go through it. -/
def charsOf (s : String) : Array Char :=
  s.toList.toArray

/-! ## The functions on a pattern that can be read -/

theorem patternOf_of_read (hp : Pattern.read named pattern = .ok p) : patternOf named (.string pattern) = .ok p := by
  unfold patternOf stringOf
  dsimp only [bind, Except.bind]
  rw [hp]
  rfl

theorem matchesSomewhere_eq (hp : Pattern.read named pattern = .ok p) :
    matchesSomewhere named (.string haystack) (.string pattern) =
      .ok (.boolean (search p (charsOf haystack) 0 false).isSome) := by
  rw [matchesSomewhere, patternOf_of_read hp]
  rfl

theorem allMatches_eq (hp : Pattern.read named pattern = .ok p) :
    allMatches named (.string haystack) (.string pattern) =
      .ok (.array ((matchesOf p (charsOf haystack)).map fun m => spanValue (charsOf haystack) m.whole)) := by
  rw [allMatches, patternOf_of_read hp]
  rfl

/-- What a group of the first match captured, or nothing. -/
def capturedText (text : Array Char) (first : Option PatternMatch) (index : Nat) : String :=
  match first.bind (·.group? index) with
  | some span => String.ofList (span.of text)
  | none => ""

theorem captures_eq (hp : Pattern.read named pattern = .ok p) :
    captures named (.string haystack) (.string pattern) =
      .ok (.array (((List.range (p.groupCount + 1)).map
        (capturedText (charsOf haystack) (search p (charsOf haystack) 0 false))).map .string)) := by
  have hitem : ∀ index, Value.string (capturedText (charsOf haystack) (search p (charsOf haystack) 0 false) index) =
      match (search p (charsOf haystack) 0 false).bind (·.group? index) with
      | some span => spanValue (charsOf haystack) span
      | none => .string "" := by
    intro index
    rw [capturedText]
    split
    · rfl
    · rfl
  rw [captures, patternOf_of_read hp, List.map_map]
  refine congrArg (fun items => Except.ok (Value.array items)) (List.map_congr_left fun index _ => ?_)
  exact (hitem index).symm

/-- The whole part of a limit that is not below zero counts. -/
theorem indexOf_of_wholePart? (hnonneg : ¬ x < 0.0) (hx : wholePart? x = some (n : Int)) : indexOf x = .ok n := by
  have hnumber : x.isNaN = false := by
    rw [← Bool.not_eq_true]
    intro hnan
    rw [eq_nan hnan] at hx
    cases hx
  rw [indexOf, hnumber, hx]
  simp [hnonneg]

/-- With a limit in hand its size is looked at before the replacement. -/
theorem replaceMatches_eq (hp : Pattern.read named pattern = .ok p) (hx : indexOf x = .ok n) (r : String) :
    replaceMatches named (.string haystack) (.string pattern) (some (.string r)) (some (.number x)) =
      if 2 ^ 63 ≤ n then .error (.broken (.overflow .size))
      else
        match readTemplate p r with
        | .error e => .error (readFailure "replacement" e)
        | .ok parts => .ok (.string (String.ofList (substitute p parts n (charsOf haystack)))) := by
  show ((patternOf named (.string pattern)) >>= fun p => indexOf x >>= fun count => _) = _
  rw [patternOf_of_read hp, hx]
  rfl

/-! ## Agreement -/

/-- What the functions make of a text that a pattern cuts into `segments` and `rest`. -/
structure MatchesAgree (named : CharacterNames) (haystack pattern : String) (p : Pattern) (segments : List Segment) (rest : List Char) :
    Prop where
  /-- The matches lie in the text one after the other. -/
  joined : whole segments ++ rest = haystack.toList
  find : allMatches named (.string haystack) (.string pattern) =
    .ok (.array (segments.map fun segment => .string (String.ofList segment.matched)))
  isMatch : matchesSomewhere named (.string haystack) (.string pattern) = .ok (.boolean !segments.isEmpty)
  /-- The first match and its groups are captured, or as many empty texts. -/
  capture : ∃ items : List String,
    captures named (.string haystack) (.string pattern) = .ok (.array (items.map .string)) ∧
    items.length = p.groupCount + 1 ∧
    (∀ segment, segments.head? = some segment → items.head? = some (String.ofList segment.matched)) ∧
    (segments = [] → ∀ item ∈ items, item = "")
  /-- The first matches are replaced, all of them for zero, and all else is kept. -/
  replace : ∀ {r : String} {x : Float} {n : Nat}, '\\' ∉ r.toList → ¬ x < 0.0 → wholePart? x = some (n : Int) →
    n < 2 ^ 63 →
    replaceMatches named (.string haystack) (.string pattern) (some (.string r)) (some (.number x)) =
      let most := if n = 0 then segments.length else n
      .ok (.string (String.ofList
        (replaced r.toList (segments.take most) ++ (whole (segments.drop most) ++ rest))))
  /-- A limit beyond ends the call. -/
  replace_overflow : ∀ {r : String} {x : Float} {n : Nat}, ¬ x < 0.0 → wholePart? x = some (n : Int) → 2 ^ 63 ≤ n →
    replaceMatches named (.string haystack) (.string pattern) (some (.string r)) (some (.number x)) =
      .error (.broken (.overflow .size))

/-- The items of a capture say whether there is a match, and which one is the first. -/
theorem capture_of_head? {found : List PatternMatch} {first : Option PatternMatch} (h : found.head? = first)
    (text : Array Char) (count : Nat) :
    (∀ segment, (segmentsFrom text 0 found).head? = some segment →
      ((List.range (count + 1)).map (capturedText text first)).head? = some (String.ofList segment.matched)) ∧
    (segmentsFrom text 0 found = [] → ∀ item ∈ (List.range (count + 1)).map (capturedText text first), item = "") := by
  subst h
  cases found with
  | nil =>
    refine ⟨nofun, fun _ item hitem => ?_⟩
    obtain ⟨index, -, rfl⟩ := List.mem_map.mp hitem
    rfl
  | cons m rest =>
    refine ⟨fun segment hsegment => ?_, nofun⟩
    cases hsegment
    rw [List.head?_map, List.head?_range, if_neg (Nat.succ_ne_zero count)]
    rfl

/-- **Main theorem.** Whatever the pattern is and whatever names characters have, the functions agree on its matches,
which are those of a scan of the text to its end. The first of them is the leftmost in the text, and there is none only
if no position has one. -/
theorem matches_agree (haystack : String) (hp : Pattern.read named pattern = .ok p) :
    Scan p (charsOf haystack) 0 false (matchesOf p (charsOf haystack)) ∧
    (∀ m rest, matchesOf p (charsOf haystack) = m :: rest → Leftmost p (charsOf haystack) 0 false m) ∧
    (matchesOf p (charsOf haystack) = [] →
      ∀ position, position ≤ (charsOf haystack).size → matchAt? p (charsOf haystack) position false = none) ∧
    MatchesAgree named haystack pattern p (segmentsFrom (charsOf haystack) 0 (matchesOf p (charsOf haystack)))
      (leftOver (charsOf haystack) 0 (matchesOf p (charsOf haystack))) := by
  have hscan := scan_matchesOf p (charsOf haystack)
  have hcapture := capture_of_head? hscan.head?_eq (charsOf haystack) p.groupCount
  refine ⟨hscan, ?_, ?_, ?_⟩
  · intro m rest hfound
    rw [hfound] at hscan
    exact hscan.leftmost (Nat.zero_le _)
  · intro hfound position hto
    rw [hfound] at hscan
    exact hscan.nowhere (Nat.zero_le _) hto
  exact {
    joined := by
      rw [hscan.joined (Nat.zero_le _), Array.extract_size]
      rfl
    find := by
      have hmatched := congrArg (List.map fun cs => Value.string (String.ofList cs))
        (map_matched_segmentsFrom (charsOf haystack) 0 (matchesOf p (charsOf haystack)))
      rw [List.map_map, List.map_map] at hmatched
      rw [allMatches_eq hp]
      exact congrArg (fun items => Except.ok (Value.array items)) hmatched.symm
    isMatch := by
      rw [matchesSomewhere_eq hp, ← hscan.head?_eq]
      cases matchesOf p (charsOf haystack) <;> rfl
    capture := by
      refine ⟨_, captures_eq hp, ?_, hcapture⟩
      rw [List.length_map, List.length_range]
    replace := by
      intro r x n hr hnonneg hx hlimit
      obtain ⟨parts, hparts, hexpand⟩ := exists_readTemplate p hr
      rw [replaceMatches_eq hp (indexOf_of_wholePart? hnonneg hx), if_neg (Nat.not_le.mpr hlimit), hparts]
      dsimp only
      rw [substitute_eq (hexpand _)]
    replace_overflow := by
      intro r x n hnonneg hx hlimit
      rw [replaceMatches_eq hp (indexOf_of_wholePart? hnonneg hx), if_pos hlimit] }

/-- A pattern that also matches nothing does so before, between and after what it else matches. -/
theorem matches_agree_empty : ∃ p, Pattern.read Text.namedCharacter? "a*" = .ok p ∧
    allMatches Text.namedCharacter? (.string "baac") (.string "a*") =
      .ok (.array [.string "", .string "aa", .string "", .string ""]) ∧
    replaceMatches Text.namedCharacter? (.string "baac") (.string "a*") (some (.string "-")) (some (.number 2.0)) =
      .ok (.string "-b-c") := by
  have hp : Pattern.read Text.namedCharacter? "a*" =
      .ok ⟨.repeated .greedy 0 none (.one ⟨[.code 97], false, false, false⟩), 0, []⟩ := by cbv
  have hlimit : wholePart? 2.0 = some ((2 : Nat) : Int) := by decide +kernel
  obtain ⟨-, -, -, hagree⟩ := matches_agree "baac" hp
  refine ⟨_, hp, hagree.find, ?_⟩
  exact hagree.replace (r := "-") (by decide) (by decide +kernel) hlimit (by decide)

/-- Three matches are found, and a limit that no number of matches comes near to ends the call. -/
theorem replacement_breaks_down : wholePart? 1e19 = some ((10 ^ 19 : Nat) : Int) ∧
    allMatches Text.namedCharacter? (.string "aaa") (.string "a") = .ok (.array [.string "a", .string "a", .string "a"]) ∧
    replaceMatches Text.namedCharacter? (.string "aaa") (.string "a") (some (.string "b")) (some (.number 1e19)) =
      .error (.broken (.overflow .size)) := by
  have hp : Pattern.read Text.namedCharacter? "a" = .ok ⟨.one ⟨[.code 97], false, false, false⟩, 0, []⟩ := by cbv
  have hlimit : wholePart? 1e19 = some ((10 ^ 19 : Nat) : Int) := by decide +kernel
  refine ⟨hlimit, allMatches_eq hp, ?_⟩
  rw [replaceMatches_eq hp (indexOf_of_wholePart? (by decide +kernel) hlimit), if_pos (by decide)]

end Reckon.Library
