import Reckon.Proofs.Except
import Reckon.Proofs.Library.Position
import Reckon.Proofs.Text.Occurrence

/-!
# `Proofs.Library.Searching` — the functions that search a text agree

Whether a text is in another, where it is, what lies between its occurrences and what comes of it when they are
replaced are four questions about the same occurrences. The first two ask for the leftmost one, the others for
all, from left to right, where the next one is looked for after the end of the last. Read as places in lists of
characters they have one answer (`Proofs.Text.Occurrence`); what is left is that a position, as a number, says
such a place, and that no number below it says one as far to the right (`lt_of_textIndexOf`).

Main statement: `searches_agree`.
-/

namespace Reckon.Library

open Reckon.Number Reckon.Text

variable {first k j : Nat} {haystack needle : String}

/-! ## Positions of occurrences -/

/-- A number that is an index is not below zero, and the index is its whole part. -/
theorem exists_of_indexOf {q : Float} {index : Nat} (h : indexOf q = .ok index) :
    ¬ q < 0.0 ∧ ∃ z, wholePart? q = some z ∧ z.toNat = index := by
  unfold indexOf at h
  split at h
  · cases h
  · next hasked =>
    have hnonneg : ¬ q < 0.0 := by
      intro hneg
      exact hasked (by simp [hneg])
    split at h
    · next z hz => exact ⟨hnonneg, z, hz, Except.ok.inj h⟩
    · cases h

/-- A number below a position says a place further left, if it says any. -/
theorem lt_of_textIndexOf {q : Float} (hq : q < Float.ofNat (k + first)) (hexact : k + first < 2 ^ 53)
    (h : textIndexOf first q = .ok j) : j < k := by
  unfold textIndexOf at h
  obtain ⟨index, hindex, hfirst⟩ := Except.exists_of_bind_ok h
  obtain ⟨hnonneg, z, hz, rfl⟩ := exists_of_indexOf hindex
  have hbelow : z.toNat < k + first := wholePart_lt hq hnonneg hexact hz
  split at hfirst
  · cases hfirst
  · cases hfirst
    omega

/-- A copy of the length of a needle is the needle exactly where the needle occurs. -/
theorem copy_eq_needle_iff (hlength : needle.length < 2 ^ 53) (q : Float) :
    copy first (.string haystack) (.number q) (natural needle.length) = .ok (.string needle) ↔
      ∃ j, textIndexOf first q = .ok j ∧ StartsAt needle.toList haystack.toList j := by
  have hcopy := (sequence_string first).copy_eq haystack.toList q (Float.ofNat needle.length)
  rw [wholeOf_ofNat hlength] at hcopy
  simp only [String.ofList_toList] at hcopy
  have hcopy : copy first (.string haystack) (.number q) (natural needle.length) =
      textIndexOf first q >>= fun i =>
        .ok (.string (String.ofList ((haystack.toList.drop i).take needle.length))) := hcopy
  rw [hcopy]
  cases textIndexOf first q with
  | error failure =>
    constructor
    · nofun
    · rintro ⟨j, hj, -⟩
      cases hj
  | ok i =>
    have htake : (Except.ok (Value.string (String.ofList ((haystack.toList.drop i).take needle.length))) :
        Except Failure Value) = .ok (.string needle) ↔ StartsAt needle.toList haystack.toList i := by
      rw [startsAt_iff_take, Except.ok.injEq, Value.string.injEq, ← String.toList_inj, String.toList_ofList]
      rfl
    constructor
    · intro h
      exact ⟨i, rfl, htake.mp h⟩
    · rintro ⟨j, hj, hstarts⟩
      cases hj
      exact htake.mpr hstarts

/-! ## Parts of texts -/

/-- The parts of a text between the occurrences of another. -/
def partsOf (haystack needle : String) : List String :=
  (splitOn needle.toList haystack.toList).map String.ofList

theorem toList_ne_nil (hne : needle ≠ "") : needle.toList ≠ [] := by
  intro h
  exact hne (String.toList_inj.mp h)

theorem intercalate_partsOf (separator : String) : separator.intercalate (partsOf haystack needle) =
    String.ofList (List.intercalate separator.toList (splitOn needle.toList haystack.toList)) := by
  apply String.toList_inj.mp
  rw [String.toList_intercalate, String.toList_ofList, partsOf, List.map_map]
  congr 1
  simp

theorem split_eq_partsOf (hne : needle ≠ "") :
    split (.string haystack) (.string needle) = .ok (.array ((partsOf haystack needle).map .string)) := by
  have hempty : needle.isEmpty = false := by simpa using hne
  show (if needle.isEmpty = true then _ else _) = _
  rw [hempty, if_neg Bool.false_ne_true]
  show Except.ok (stringList (splitOn needle.toList haystack.toList)) = _
  rw [stringList, partsOf, List.map_map]
  rfl

theorem replace_eq_partsOf (hne : needle ≠ "") (new : Option Value) :
    replace (.string haystack) (.string needle) new =
      stringOr "" new >>= fun n => .ok (.string (n.intercalate (partsOf haystack needle))) := by
  have hempty : needle.toList.isEmpty = false := by simpa using toList_ne_nil hne
  refine congrArg (stringOr "" new >>= ·) (funext fun n => ?_)
  rw [intercalate_partsOf, Text.replace, hempty, if_neg Bool.false_ne_true]
  rfl

/-! ## Agreement -/

/-- The searches for `needle` in `haystack` agree, if finding gives `p` and splitting gives `items`. There is more
than one item exactly if the needle is found. -/
structure SearchesAgree (first : Nat) (haystack needle : String) (p : Float) (items : List String) : Prop where
  find_eq : find first (.string haystack) (.string needle) = .ok (.number p)
  split_eq : split (.string haystack) (.string needle) = .ok (.array (items.map .string))
  contains_eq :
    contains (.string haystack) (.string needle) = .ok (.boolean (decide (2 ≤ items.length)))
  position_iff : (Value.number p).greaterEqual (natural first) = true ↔ 2 ≤ items.length
  /-- At the position the needle stands, and at no smaller one. -/
  copy_found : 2 ≤ items.length →
    copy first (.string haystack) (.number p) (natural needle.length) = .ok (.string needle) ∧
      ∀ q : Float, q < p →
        copy first (.string haystack) (.number q) (natural needle.length) ≠ .ok (.string needle)
  /-- The first item is the text up to the position. -/
  head_found : 2 ≤ items.length → ∃ k, p = Float.ofNat (k + first) ∧
    items.head? = some (String.ofList (haystack.toList.take k)) ∧
      copy first (.string haystack) (natural first) (natural k) =
        .ok (.string (String.ofList (haystack.toList.take k)))
  position_missing : items.length < 2 → p = Float.ofInt ((first : Int) - 1)
  joined_eq : needle.intercalate items = haystack
  contains_item : ∀ item ∈ items, contains (.string item) (.string needle) = .ok (.boolean false)
  replace_eq (new : String) : replace (.string haystack) (.string needle) (some (.string new)) =
    .ok (.string (new.intercalate items))
  remove_eq : replace (.string haystack) (.string needle) none = .ok (.string ("".intercalate items))

theorem greaterEqual_natural (hexact : k + first < 2 ^ 53) :
    (Value.number (Float.ofNat (k + first))).greaterEqual (natural first) = true := by
  have horder : (Value.number (Float.ofNat (k + first))).order? (natural first) =
      some (compare (k + first) first) := compareNumbers_ofNat hexact (by omega)
  unfold Value.greaterEqual
  rw [horder]
  rcases Nat.eq_zero_or_pos k with rfl | hpos
  · rw [Nat.compare_eq_eq.mpr (Nat.zero_add first)]
  · rw [Nat.compare_eq_gt.mpr (by omega)]

/-- The position of what is not found comes before all positions. -/
theorem position_not_found (settings : Settings) :
    Float.ofNat settings.firstPosition - 1.0 = Float.ofInt ((settings.firstPosition : Int) - 1) ∧
      (Value.number (Float.ofNat settings.firstPosition - 1.0)).greaterEqual
        (natural settings.firstPosition) = false := by
  unfold Settings.firstPosition
  cases settings.zeroBasedStrings with
  | true => decide +kernel
  | false => decide +kernel

theorem contains_part (hne : needle ≠ "") :
    ∀ item ∈ partsOf haystack needle, contains (.string item) (.string needle) = .ok (.boolean false) := by
  intro item hitem
  obtain ⟨part, hpart, rfl⟩ := List.mem_map.mp hitem
  have hnone := find?_eq_none_iff.mpr (not_startsAt_of_mem_splitOn (toList_ne_nil hne) _ part hpart)
  show Except.ok (Value.boolean (Text.find? needle.toList (String.ofList part).toList).isSome) = _
  rw [String.toList_ofList, hnone]
  rfl

theorem joined_partsOf (hne : needle ≠ "") : needle.intercalate (partsOf haystack needle) = haystack := by
  rw [intercalate_partsOf, intercalate_splitOn (toList_ne_nil hne), String.ofList_toList]

theorem length_partsOf :
    (partsOf haystack needle).length = (splitOn needle.toList haystack.toList).length :=
  List.length_map _

theorem replace_text (hne : needle ≠ "") (new : String) :
    replace (.string haystack) (.string needle) (some (.string new)) =
      .ok (.string (new.intercalate (partsOf haystack needle))) :=
  replace_eq_partsOf hne (some (.string new))

theorem remove_text (hne : needle ≠ "") : replace (.string haystack) (.string needle) none =
    .ok (.string ("".intercalate (partsOf haystack needle))) :=
  replace_eq_partsOf hne none

theorem searchesAgree_of_none (settings : Settings) (hne : needle ≠ "")
    (hfind : Text.find? needle.toList haystack.toList = none) :
    SearchesAgree settings.firstPosition haystack needle (Float.ofNat settings.firstPosition - 1.0)
      (partsOf haystack needle) := by
  have hone : (partsOf haystack needle).length = 1 := by
    rw [length_partsOf, length_splitOn_of_find?_none (toList_ne_nil hne) hfind]
  have hfew : ¬ 2 ≤ (partsOf haystack needle).length := by omega
  obtain ⟨hposition, hless⟩ := position_not_found settings
  exact {
    find_eq := by
      rw [find, hfind]
    split_eq := split_eq_partsOf hne
    contains_eq := by
      rw [contains, hfind, decide_eq_false hfew]
      rfl
    position_iff := by
      rw [hless]
      exact ⟨nofun, fun h => absurd h hfew⟩
    copy_found := fun h => absurd h hfew
    head_found := fun h => absurd h hfew
    position_missing := fun _ => hposition
    joined_eq := joined_partsOf hne
    contains_item := contains_part hne
    replace_eq := replace_text hne
    remove_eq := remove_text hne }

theorem searchesAgree_of_some (hfirst : first ≤ 1) (hne : needle ≠ "") (hlength : haystack.length < 2 ^ 53)
    (hfind : Text.find? needle.toList haystack.toList = some k) :
    SearchesAgree first haystack needle (Float.ofNat (k + first)) (partsOf haystack needle) := by
  obtain ⟨hstarts, hleast⟩ := startsAt_of_find? hfind
  obtain ⟨htwo, hhead⟩ := splitOn_of_find? (toList_ne_nil hne) hfind
  -- the needle has a character, so that its place and all of it fit where numbers are exact
  have hwithin : k + needle.length ≤ haystack.length := hstarts.length_le (toList_ne_nil hne)
  have hpos : 0 < needle.length := List.length_pos_iff.mpr (toList_ne_nil hne)
  have hexact : k + first < 2 ^ 53 := by omega
  have hplace : Place first (Float.ofNat (k + first)) k := ⟨ofNat_beq_self hexact, hexact⟩
  have hneedle : needle.length < 2 ^ 53 := by omega
  have hmany : 2 ≤ (partsOf haystack needle).length := by
    rw [length_partsOf]
    exact htwo
  exact {
    find_eq := by
      rw [find, hfind]
      rfl
    split_eq := split_eq_partsOf hne
    contains_eq := by
      rw [contains, hfind, decide_eq_true hmany]
      rfl
    position_iff := ⟨fun _ => hmany, fun _ => greaterEqual_natural hexact⟩
    copy_found := fun _ => by
      refine ⟨(copy_eq_needle_iff hneedle _).mpr ⟨k, textIndexOf_of_place hplace, hstarts⟩, ?_⟩
      intro q hq hcopy
      obtain ⟨j, hj, hother⟩ := (copy_eq_needle_iff hneedle q).mp hcopy
      have hlt : j < k := lt_of_textIndexOf hq hexact hj
      have hle : k ≤ j := hleast j hother
      omega
    head_found := fun _ => by
      refine ⟨k, rfl, ?_, ?_⟩
      · rw [partsOf, List.head?_map, hhead]
        rfl
      · have hcopy := (sequence_string first).copy_place haystack.toList
          (place_start (show first < 2 ^ 53 by omega)) (wholeOf_ofNat (show k < 2 ^ 53 by omega))
        simp only [List.drop_zero, Int.toNat_natCast, String.ofList_toList] at hcopy
        exact hcopy
    position_missing := fun h => absurd hmany (by omega)
    joined_eq := joined_partsOf hne
    contains_item := contains_part hne
    replace_eq := replace_text hne
    remove_eq := remove_text hne }

/-- **Main theorem.** Wherever positions in texts start: for every text below `2 ^ 53` characters and every needle
that is not empty, finding gives a number and splitting gives items such that the searches agree. -/
theorem searches_agree (settings : Settings) (haystack needle : String) (hne : needle ≠ "")
    (hlength : haystack.length < 2 ^ 53) :
    ∃ p items, SearchesAgree settings.firstPosition haystack needle p items := by
  have hfirst : settings.firstPosition ≤ 1 := by
    unfold Settings.firstPosition
    split <;> decide
  cases hfind : Text.find? needle.toList haystack.toList with
  | none => exact ⟨_, _, searchesAgree_of_none settings hne hfind⟩
  | some k => exact ⟨_, _, searchesAgree_of_some hfirst hne hlength hfind⟩

/-- Of overlapping occurrences the leftmost one counts. -/
theorem searches_agree_aaa : "aa" ≠ "" ∧ "aaa".length < 2 ^ 53 ∧
    ∃ p, SearchesAgree 1 "aaa" "aa" p ["", "a"] := by
  have hne : "aa" ≠ "" := by decide
  have hlength : "aaa".length < 2 ^ 53 := by decide
  obtain ⟨p, items, hagree⟩ := searches_agree Settings.standard "aaa" "aa" hne hlength
  have hsplit : split (.string "aaa") (.string "aa") = .ok (.array (["", "a"].map .string)) := by cbv
  have hitems : items.map Value.string = ["", "a"].map .string :=
    Value.array.inj (Except.ok.inj (hagree.split_eq.symm.trans hsplit))
  obtain rfl : items = ["", "a"] := List.map_injective_iff.mpr (fun _ _ => Value.string.inj) hitems
  exact ⟨hne, hlength, p, hagree⟩

end Reckon.Library
