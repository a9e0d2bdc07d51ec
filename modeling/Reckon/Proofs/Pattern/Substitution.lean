import Reckon.Pattern.Template
import Reckon.Proofs.Pattern.Scan

/-!
# `Proofs.Pattern.Substitution` — replacing the matches of a scan

A template without a backslash stands for itself (`exists_readTemplate`). To replace the first matches by it is to
put it after the gap of the first segments, and to leave the other segments, and what is left over, as they stand
(`substitute_eq`).

Main statements: `exists_readTemplate`, `substitute_eq`.
-/

namespace Reckon.Pattern

variable {p : Pattern} {text : Array Char} {parts : List TemplatePart} {literal : List Char}

/-! ## Templates without references -/

theorem scan_of_no_backslash {cs : List Char} (h : '\\' ∉ cs) : Glyph.scan cs = cs.map .plain := by
  induction cs with
  | nil => rfl
  | cons c cs ih =>
    have hc : c ≠ '\\' := by
      rintro rfl
      exact h List.mem_cons_self
    have hcs : '\\' ∉ cs := fun hmem => h (List.mem_cons_of_mem _ hmem)
    rw [List.map_cons, ← ih hcs, Glyph.scan]
    · intro hlast _
      exact hc hlast
    · intro _ _ hfirst _
      exact hc hfirst

theorem settled_map_plain (cs : List Char) : settled (cs.map .plain) = .ok () := by
  cases cs <;> rfl

theorem readParts_map_plain (cs : List Char) :
    readParts p (cs.map .plain) = .ok (cs.map fun c => .text [c]) := by
  induction cs with
  | nil => rw [List.map_nil, readParts, List.map_nil]
  | cons c cs ih =>
    rw [List.map_cons, readParts, settled_map_plain, ih]
    rfl

theorem expand_map_text (cs : List Char) (m : PatternMatch) :
    expand text (cs.map fun c => .text [c]) m = cs := by
  induction cs with
  | nil => rfl
  | cons c cs ih => exact congrArg (c :: ·) ih

/-- **A template without a backslash stands for itself.** -/
theorem exists_readTemplate (p : Pattern) {r : String} (h : '\\' ∉ r.toList) :
    ∃ parts, readTemplate p r = .ok parts ∧ ∀ text m, expand text parts m = r.toList := by
  refine ⟨r.toList.map fun c => .text [c], ?_, fun text m => expand_map_text _ m⟩
  have hread : readAllParts p (Glyph.scan r.toList) = .ok (r.toList.map fun c => .text [c]) := by
    rw [readAllParts, scan_of_no_backslash h, settled_map_plain]
    exact readParts_map_plain _
  rw [readTemplate]
  simp only [hread]

/-! ## Segments replaced -/

/-- The gaps of segments, and a text in the place of each match. -/
def replaced (literal : List Char) (segments : List Segment) : List Char :=
  segments.flatMap fun segment => segment.gap ++ literal

/-- What is left when the first `count` matches are replaced. -/
theorem substituteFrom_take {start : Nat} {moving : Bool} {found : List PatternMatch}
    (h : Scan p text start moving found) (hstart : start ≤ text.size) (hexpand : ∀ m, expand text parts m = literal)
    (count : Nat) :
    substituteFrom text parts start (found.take count) =
      replaced literal ((segmentsFrom text start found).take count) ++
        (whole ((segmentsFrom text start found).drop count) ++ leftOver text start found) := by
  induction h generalizing count with
  | done hsearch =>
    rw [List.take_nil]
    simp only [substituteFrom, segmentsFrom, List.take_nil, List.drop_nil, replaced, whole, leftOver, List.flatMap_nil,
      List.nil_append]
  | @next start moving m rest hsearch hrest ih =>
    cases count with
    | zero =>
      -- nothing is replaced, so the segments make up the text again
      have hjoined := (Scan.next hsearch hrest).joined hstart
      rw [List.take_zero, List.take_zero, List.drop_zero, hjoined]
      rfl
    | succ count =>
      have hleft := search_eq_some hstart hsearch
      simp only [List.take_succ_cons, substituteFrom, segmentsFrom, List.drop_succ_cons, leftOver, replaced,
        List.flatMap_cons, hexpand, List.append_assoc]
      rw [ih hleft.stop_le count, replaced]

/-- **The first matches are replaced, or all of them for zero, and what stands between matches is kept.** -/
theorem substitute_eq (hexpand : ∀ m, expand text parts m = literal) (count : Nat) :
    substitute p parts count text =
      let segments := segmentsFrom text 0 (matchesOf p text)
      let most := if count = 0 then segments.length else count
      replaced literal (segments.take most) ++ (whole (segments.drop most) ++ leftOver text 0 (matchesOf p text)) := by
  have hscan := scan_matchesOf p text
  have htake : (if count = 0 then matchesOf p text else (matchesOf p text).take count) =
      (matchesOf p text).take (if count = 0 then (segmentsFrom text 0 (matchesOf p text)).length else count) := by
    by_cases hall : count = 0
    · rw [if_pos hall, if_pos hall, length_segmentsFrom, List.take_length]
    · rw [if_neg hall, if_neg hall]
  unfold substitute
  dsimp only
  rw [htake, substituteFrom_take hscan (Nat.zero_le _) hexpand]

end Reckon.Pattern
