import Reckon.Proofs.Library.Breakdown
import Reckon.Proofs.Number.Whole
import Reckon.Value.Arithmetic

/-!
# `Proofs.Library.Position` — positions mean the same to all functions that take them

A position is a number, and says a place: so many characters or items from the start of a text or list, counted
from where positions start (`Place`). A whole number below that says none (`Before`).

`at`, `copy` and `insert` each read positions on their own, and each for texts and for lists. Seen as lists of
characters or items, texts and lists differ in where positions start and in what a single item is as a piece of
the whole; that they do not differ in anything else is `Sequence`. So what holds of positions is shown once for
both (`Sequence.positionLaws`).

Main statement: `positions_agree`.
-/

namespace Reckon.Library

open Reckon.Number

/-! ## Places -/

/-- The number is the position of the place that comes after `k` others. -/
structure Place (origin : Nat) (x : Float) (k : Nat) : Prop where
  equal : (x == Float.ofNat (k + origin)) = true
  exact : k + origin < 2 ^ 53

/-- The number is a whole one below all positions. -/
structure Before (origin : Nat) (x : Float) (z : Int) : Prop where
  equal : (x == Float.ofInt z) = true
  exact : z.natAbs < 2 ^ 53
  below : z < origin

variable {first origin k : Nat} {x : Float} {z : Int}

theorem place_start (h : origin < 2 ^ 53) : Place origin (Float.ofNat origin) 0 := by
  have hzero : 0 + origin = origin := Nat.zero_add origin
  refine ⟨?_, by omega⟩
  rw [hzero]
  exact ofNat_beq_self h

theorem wholeOf_ofNat (h : k < 2 ^ 53) : wholeOf (Float.ofNat k) = .ok (k : Int) := by
  unfold wholeOf
  rw [wholePart?_of_beq h (ofNat_beq_self h)]

theorem indexOf_of_beq (hexact : k < 2 ^ 53) (h : (x == Float.ofNat k) = true) : indexOf x = .ok k := by
  have hnan := not_isNaN_of_beq hexact h
  have hnonneg := not_lt_zero_of_beq hexact h
  have hasked : (x.isNaN || decide (x < 0.0)) = false := by
    rw [hnan, decide_eq_false hnonneg]
    rfl
  unfold indexOf
  rw [if_neg (Bool.eq_false_iff.mp hasked), wholePart?_of_beq hexact h]
  rfl

theorem indexOf_of_neg (hneg : x < 0.0) : indexOf x = .error .negativeIndex := by
  unfold indexOf
  simp [hneg]

/-- Positions in lists are positions in texts that start at zero. -/
theorem textIndexOf_zero (x : Float) : textIndexOf 0 x = indexOf x := by
  unfold textIndexOf
  cases indexOf x with
  | error failure => rfl
  | ok index => rfl

theorem textIndexOf_of_place (h : Place origin x k) : textIndexOf origin x = .ok k := by
  unfold textIndexOf
  rw [indexOf_of_beq h.exact h.equal]
  show (if k + origin < origin then _ else _) = _
  rw [if_neg (by omega), Nat.add_sub_cancel]

theorem textIndexOf_of_before (h : Before origin x z) : textIndexOf origin x = .error .negativeIndex := by
  have hexact := h.exact
  have hbelow := h.below
  unfold textIndexOf
  rcases Int.lt_or_le z 0 with hneg | hnonneg
  · rw [indexOf_of_neg (lt_zero_of_beq hneg (by omega) h.equal)]
    rfl
  · -- a whole number from zero on is a position in a list, but comes before the start of texts
    obtain ⟨n, rfl⟩ := Int.eq_ofNat_of_zero_le hnonneg
    rw [indexOf_of_beq (by omega) h.equal]
    show (if n < origin then _ else _) = _
    rw [if_pos (by omega)]

/-! ## Texts and lists as sequences -/

/-- A text or list as a sequence of items: how pieces of it are put together, where its positions start, and
what a single item is as a piece. -/
structure Sequence (first origin : Nat) (part : Value → Value) {α : Type} (value : List α → Value)
    (single : α → Value) : Prop where
  length_eq (l : List α) : (value l).length = l.length
  empty_eq (l : List α) : (value l).emptyLike = value []
  add_eq (l l' : List α) : (value l).add (value l') = .ok (value (l ++ l'))
  single_eq (a : α) : part (single a) = value [a]
  copy_eq (l : List α) (x c : Float) : copy first (value l) (.number x) (.number c) =
    wholeOf c >>= fun n => textIndexOf origin x >>= fun i => .ok (value ((l.drop i).take n.toNat))
  itemAt_eq (l : List α) (x : Float) : itemAt first (value l) (.number x) =
    textIndexOf origin x >>= fun i => match l[i]? with
      | some a => .ok (single a)
      | none => .error (.outOfBounds i)
  insert_eq (l added : List α) (source : Value) (x : Float) (h : part source = value added) :
    insert first (value l) source (.number x) =
      textIndexOf origin x >>= fun i =>
        if l.length < i then .error (.outOfBounds i) else .ok (value (l.take i ++ added ++ l.drop i))

theorem sequence_string (first : Nat) :
    Sequence first first id (fun l => .string (String.ofList l)) (fun c => .string (String.singleton c)) where
  length_eq l := by simp [Value.length]
  empty_eq l := rfl
  add_eq l l' := by simp [Value.add]
  single_eq c := rfl
  copy_eq l x c := by
    simp only [copy, numberOf, String.toList_ofList]
    rfl
  itemAt_eq l x := by
    simp only [itemAt, numberOf, String.toList_ofList]
    refine congrArg (textIndexOf first x >>= ·) (funext fun i => ?_)
    cases l[i]? with
    | some c => rfl
    | none => rfl
  insert_eq l added source x h := by
    obtain rfl : source = .string (String.ofList added) := h
    simp only [insert, numberOf, String.toList_ofList, String.length_ofList]
    rfl

theorem sequence_array (first : Nat) :
    Sequence first 0 (fun v => .array [v]) (fun l => .array l) id where
  length_eq l := rfl
  empty_eq l := rfl
  add_eq l l' := rfl
  single_eq v := rfl
  copy_eq l x c := by
    rw [textIndexOf_zero]
    rfl
  itemAt_eq l x := by
    rw [textIndexOf_zero]
    refine congrArg (indexOf x >>= ·) (funext fun i => ?_)
    cases l[i]? with
    | some item => rfl
    | none => rfl
  insert_eq l added source x h := by
    obtain rfl : [source] = added := Value.array.inj h
    simp only [textIndexOf_zero, List.append_assoc]
    rfl

/-! ## Laws of positions -/

/-- Positions mean the same to the three functions: `whole` is a text or list, `source` is what is put into it,
and `part` makes a piece of a single item. -/
structure PositionLaws (first origin : Nat) (part : Value → Value) (whole source : Value) : Prop where
  /-- What is put in stands between what is copied up to the place and what is copied from it on. -/
  insert_joins {x : Float} {k : Nat} (hplace : Place origin x k) (hk : k ≤ whole.length) :
    ∃ front back joined result,
      copy first whole (natural origin) (natural k) = .ok front ∧
      copy first whole (.number x) (natural whole.length) = .ok back ∧
      front.add (part source) = .ok joined ∧ joined.add back = .ok result ∧
      insert first whole source (.number x) = .ok result
  /-- The item at a place, as a piece, is what a copy of one from there is. -/
  itemAt_copied {x : Float} {k : Nat} (hplace : Place origin x k) (hk : k < whole.length) :
    ∃ item, itemAt first whole (.number x) = .ok item ∧
      copy first whole (.number x) (natural 1) = .ok (part item)
  insert_beyond {x : Float} {k : Nat} (hplace : Place origin x k) :
    insert first whole source (.number x) = .error (.outOfBounds k) ↔ whole.length < k
  itemAt_beyond {x : Float} {k : Nat} (hplace : Place origin x k) :
    itemAt first whole (.number x) = .error (.outOfBounds k) ↔ whole.length ≤ k
  /-- A copy from beyond the end is empty, however much is asked for. -/
  copy_beyond {x : Float} {k : Nat} (hplace : Place origin x k) (hk : whole.length ≤ k) {count : Float}
    (hnan : count.isNaN = false) (hinf : count.isInf = false) :
    copy first whole (.number x) (.number count) = .ok whole.emptyLike
  /-- Below all positions the three fail in the same way. -/
  fail_before {x : Float} {z : Int} (hbefore : Before origin x z) :
    insert first whole source (.number x) = .error .negativeIndex ∧
      itemAt first whole (.number x) = .error .negativeIndex ∧
      ∀ count : Float, count.isNaN = false → count.isInf = false →
        copy first whole (.number x) (.number count) = .error .negativeIndex

namespace Sequence

variable {α : Type} {part : Value → Value} {value : List α → Value} {single : α → Value}
  (S : Sequence first origin part value single) (l : List α)

include S

theorem copy_place (hplace : Place origin x k) {c : Float} {n : Int} (hc : wholeOf c = .ok n) :
    copy first (value l) (.number x) (.number c) = .ok (value ((l.drop k).take n.toNat)) := by
  rw [S.copy_eq, hc, textIndexOf_of_place hplace]
  rfl

theorem itemAt_place (hplace : Place origin x k) (hk : k < l.length) :
    itemAt first (value l) (.number x) = .ok (single l[k]) := by
  rw [S.itemAt_eq, textIndexOf_of_place hplace]
  show (match l[k]? with | some a => _ | none => _) = _
  rw [List.getElem?_eq_getElem hk]

theorem itemAt_past (hplace : Place origin x k) (hk : l.length ≤ k) :
    itemAt first (value l) (.number x) = .error (.outOfBounds k) := by
  rw [S.itemAt_eq, textIndexOf_of_place hplace]
  show (match l[k]? with | some a => _ | none => _) = _
  rw [List.getElem?_eq_none hk]

theorem insert_place {added : List α} {source : Value} (hsource : part source = value added)
    (hplace : Place origin x k) (hk : k ≤ l.length) :
    insert first (value l) source (.number x) = .ok (value (l.take k ++ added ++ l.drop k)) := by
  rw [S.insert_eq l added source x hsource, textIndexOf_of_place hplace]
  exact if_neg (by omega)

theorem insert_past {added : List α} {source : Value} (hsource : part source = value added)
    (hplace : Place origin x k) (hk : l.length < k) :
    insert first (value l) source (.number x) = .error (.outOfBounds k) := by
  rw [S.insert_eq l added source x hsource, textIndexOf_of_place hplace]
  exact if_pos hk

/-- What is a sequence follows the laws. -/
theorem positionLaws {added : List α} {source : Value} (hsource : part source = value added)
    (hlength : l.length < 2 ^ 53) : PositionLaws first origin part (value l) source where
  insert_joins {x k} hplace hk := by
    rw [S.length_eq] at hk ⊢
    have horigin : origin < 2 ^ 53 := by
      have hexact := hplace.exact
      omega
    have hfront := S.copy_place l (place_start horigin) (wholeOf_ofNat (show k < 2 ^ 53 by omega))
    have hback := S.copy_place l hplace (wholeOf_ofNat hlength)
    have hall : (l.drop k).take l.length = l.drop k := List.take_of_length_le (by simp)
    simp only [List.drop_zero, Int.toNat_natCast] at hfront
    simp only [Int.toNat_natCast, hall] at hback
    refine ⟨_, _, _, _, hfront, hback, ?_, S.add_eq (l.take k ++ added) (l.drop k),
      S.insert_place l hsource hplace hk⟩
    rw [hsource, S.add_eq]
  itemAt_copied {x k} hplace hk := by
    rw [S.length_eq] at hk
    have hone : (1 : Nat) < 2 ^ 53 := by decide
    have hcopy := S.copy_place l hplace (wholeOf_ofNat hone)
    have hfirst : (l.drop k).take 1 = [l[k]] := by
      rw [List.drop_eq_getElem_cons hk]
      rfl
    refine ⟨_, S.itemAt_place l hplace hk, ?_⟩
    rw [S.single_eq, ← hfirst]
    exact hcopy
  insert_beyond {x k} hplace := by
    rw [S.length_eq]
    refine ⟨?_, S.insert_past l hsource hplace⟩
    intro hfails
    by_contra hk
    rw [S.insert_place l hsource hplace (by omega)] at hfails
    cases hfails
  itemAt_beyond {x k} hplace := by
    rw [S.length_eq]
    refine ⟨?_, S.itemAt_past l hplace⟩
    intro hfails
    by_contra hk
    rw [S.itemAt_place l hplace (by omega)] at hfails
    cases hfails
  copy_beyond {x k} hplace hk {count} hnan hinf := by
    rw [S.length_eq] at hk
    obtain ⟨n, hn⟩ := exists_wholeOf hnan hinf
    rw [S.copy_place l hplace hn, List.drop_of_length_le hk, S.empty_eq]
    simp
  fail_before {x z} hbefore := by
    have hindex := textIndexOf_of_before hbefore
    refine ⟨?_, ?_, ?_⟩
    · rw [S.insert_eq l added source x hsource, hindex]
      rfl
    · rw [S.itemAt_eq, hindex]
      rfl
    · intro count hnan hinf
      obtain ⟨n, hn⟩ := exists_wholeOf hnan hinf
      rw [S.copy_eq, hn, hindex]
      rfl

end Sequence

theorem positionLaws_string (first : Nat) (s t : String) (hlength : s.length < 2 ^ 53) :
    PositionLaws first first id (.string s) (.string t) := by
  have hs : String.ofList s.toList = s := String.ofList_toList
  have ht : id (Value.string t) = .string (String.ofList t.toList) :=
    congrArg Value.string String.ofList_toList.symm
  have hlaws := (sequence_string first).positionLaws s.toList ht hlength
  rwa [hs] at hlaws

theorem positionLaws_array (first : Nat) (items : List Value) (v : Value)
    (hlength : items.length < 2 ^ 53) :
    PositionLaws first 0 (fun v => .array [v]) (.array items) v :=
  (sequence_array first).positionLaws items rfl hlength

/-- An item that is put into a list is found at its place, and the others are as they were. -/
theorem insert_array_kept {items : List Value} (v : Value) (hplace : Place 0 x k)
    (hk : k ≤ items.length) :
    ∃ items', insert first (.array items) v (.number x) = .ok (.array items') ∧
      itemAt first (.array items') (.number x) = .ok v ∧ items'.eraseIdx k = items := by
  have S := sequence_array first
  have hfront : (items.take k).length = k := List.length_take_of_le hk
  have hitem : (items.take k ++ [v] ++ items.drop k)[k]? = some v := by
    simp [hfront]
  obtain ⟨hbound, hget⟩ := List.getElem?_eq_some_iff.mp hitem
  refine ⟨items.take k ++ [v] ++ items.drop k, S.insert_place items rfl hplace hk, ?_, ?_⟩
  · rw [S.itemAt_place _ hplace hbound, hget]
    rfl
  · simp [List.eraseIdx_append_of_length_le, hfront]

/-- **Main theorem.** Whether positions in texts start at zero or at one: in texts they mean the same to `insert`,
`copy` and `at`, and so they do in lists, where they start at zero. And a list keeps its items when one is put
into it, which then is at its place. Lengths and positions are below `2 ^ 53`, as far as numbers are exact. -/
theorem positions_agree (settings : Settings) :
    (∀ s t : String, s.length < 2 ^ 53 →
      PositionLaws settings.firstPosition settings.firstPosition id (.string s) (.string t)) ∧
    ∀ (items : List Value) (v : Value), items.length < 2 ^ 53 →
      PositionLaws settings.firstPosition 0 (fun v => .array [v]) (.array items) v ∧
      ∀ (x : Float) (k : Nat), Place 0 x k → k ≤ items.length →
        ∃ items', insert settings.firstPosition (.array items) v (.number x) = .ok (.array items') ∧
          itemAt settings.firstPosition (.array items') (.number x) = .ok v ∧
          items'.eraseIdx k = items := by
  refine ⟨positionLaws_string settings.firstPosition, ?_⟩
  intro items v hlength
  refine ⟨positionLaws_array settings.firstPosition items v hlength, ?_⟩
  intro x k hplace hk
  exact insert_array_kept v hplace hk

theorem positions_agree_abc : "abc".length < 2 ^ 53 ∧ Place 1 (Float.ofNat 2) 1 ∧
    ∃ front back joined result,
      copy 1 (.string "abc") (natural 1) (natural 1) = .ok front ∧
      copy 1 (.string "abc") (natural 2) (natural 3) = .ok back ∧
      front.add (.string "-") = .ok joined ∧ joined.add back = .ok result ∧
      insert 1 (.string "abc") (.string "-") (natural 2) = .ok result := by
  have hlength : "abc".length < 2 ^ 53 := by decide
  have hplace : Place 1 (Float.ofNat 2) 1 := ⟨by decide +kernel, by decide⟩
  exact ⟨hlength, hplace,
    ((positions_agree Settings.standard).1 "abc" "-" hlength).insert_joins hplace (by decide)⟩

end Reckon.Library
