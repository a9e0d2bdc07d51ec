import Reckon.Proofs.Json.Reading
import Reckon.Proofs.Number.Digits

/-!
# `Proofs.Json.Limits` — what the reader does not read

Apart from defects, which are reported with their place, the reader stops for two reasons: at a run of
more digits than a whole number may have, and where nesting goes deeper than it is allowed to. So every
whole number in a document that was read can be written out again.

`Read` says this of an outcome in front of any text; each function of the reader keeps it.
-/

namespace Reckon.Json

/-- An outcome of reading `s`: something with a property and the end of `s`, or a stop for a reason. -/
inductive Read {α : Type} (allowance : Allowance) (made : α → Prop) (s : List Char) :
    Except Stop (α × List Char) → Prop where
  | ok {a : α} {rest : List Char} (holds : made a) (left : rest <:+ s) :
      Read allowance made s (.ok (a, rest))
  | defect (what : Defect) (left : Nat) : Read allowance made s (.error (.defect what left))
  | tooManyDigits {digits : List Char} (run : digits <:+: s) (all : ∀ c ∈ digits, c.isDigit = true)
      (many : Number.mostDigits < digits.length) :
      Read allowance made s (.error (.tooManyDigits digits.length))
  | nestedTooDeeply (bounded : allowance ≠ none) : Read allowance made s (.error .nestedTooDeeply)

namespace Read

variable {α β : Type} {allowance inner : Allowance} {made : α → Prop} {made' : β → Prop}
  {s s' : List Char} {r : Except Stop (α × List Char)}

theorem of_suffix (h : s' <:+ s) (hr : Read allowance made s' r) : Read allowance made s r := by
  cases hr with
  | ok holds left => exact .ok holds (left.trans h)
  | defect what left => exact .defect what left
  | tooManyDigits run all many => exact .tooManyDigits (run.trans h.isInfix) all many
  | nestedTooDeeply bounded => exact .nestedTooDeeply bounded

theorem of_descend (h : allowance.descend = some inner) (hr : Read inner made s r) :
    Read allowance made s r := by
  cases hr with
  | ok holds left => exact .ok holds left
  | defect what left => exact .defect what left
  | tooManyDigits run all many => exact .tooManyDigits run all many
  | nestedTooDeeply bounded =>
    refine .nestedTooDeeply ?_
    rintro rfl
    cases h
    exact bounded rfl

theorem of_error {stop : Stop} (h : Read allowance made s (.error stop)) :
    Read allowance made' s (.error stop) := by
  cases h with
  | defect what left => exact .defect what left
  | tooManyDigits run all many => exact .tooManyDigits run all many
  | nestedTooDeeply bounded => exact .nestedTooDeeply bounded

theorem bind {f : α × List Char → Except Stop (β × List Char)} (hr : Read allowance made s r)
    (hf : ∀ a rest, r = .ok (a, rest) → made a → rest <:+ s →
      Read allowance made' s (f (a, rest))) :
    Read allowance made' s (r.bind f) := by
  cases r with
  | error stop => exact hr.of_error
  | ok p =>
    cases hr with
    | ok holds left => exact hf _ _ rfl holds left

theorem map {f : α → β} (hr : Read allowance made s r) (hf : ∀ a, made a → made' (f a)) :
    Read allowance made' s (r.map fun p => (f p.1, p.2)) := by
  cases r with
  | error stop => exact hr.of_error
  | ok p =>
    cases hr with
    | ok holds left => exact .ok (hf _ holds) left

end Read

/-! ## Texts, numbers and words -/

theorem skipSpace_suffix (s : List Char) : skipSpace s <:+ s :=
  List.dropWhile_suffix _

/-- What stands behind a mark, blanks aside. -/
theorem suffix_of_skipSpace {s more : List Char} {c : Char} (h : skipSpace s = c :: more) :
    more <:+ s := by
  have hmore : more <:+ c :: more := List.suffix_cons c more
  rw [← h] at hmore
  exact hmore.trans (skipSpace_suffix s)

theorem readString_read (allowance : Allowance) (opening : Nat) (s : List Char) :
    Read allowance (fun _ => True) s (readString opening s) := by
  -- the reader stops at a defect, or at the closing quote, or goes on further down
  fun_induction readString opening s
  all_goals
    first
    | exact .defect _ _
    | exact .ok trivial (List.suffix_cons _ _)
    | rw [consRead_eq]
      refine (Read.of_suffix ?_ ‹_›).map fun _ _ => trivial
      simp [List.suffix_cons_iff]

section Number

variable {s rest whole : List Char}

theorem of_readWhole? (h : readWhole? s = some (whole, rest)) :
    s = whole ++ rest ∧ ∀ c ∈ whole, c.isDigit = true := by
  unfold readWhole? at h
  split at h
  · cases h
  · next c more =>
    split at h
    · next hzero =>
      cases h
      rw [beq_iff_eq.mp hzero]
      exact ⟨rfl, List.forall_mem_singleton.mpr rfl⟩
    · split at h
      · next hdigit =>
        cases h
        refine ⟨by rw [List.cons_append, List.takeWhile_append_dropWhile], ?_⟩
        intro d hd
        rcases List.mem_cons.mp hd with rfl | hd
        · exact hdigit
        · exact List.all_eq_true.mp List.all_takeWhile d hd
      · cases h

theorem readFraction_suffix (s : List Char) : (readFraction s).2 <:+ s := by
  unfold readFraction
  split
  · next rest =>
    dsimp only
    split
    · exact List.suffix_refl _
    · exact (List.dropWhile_suffix _).trans (List.suffix_cons _ _)
  · exact List.suffix_refl _

theorem exponentDigits_suffix {negative : Bool} (h : rest <:+ s) :
    (exponentDigits negative s rest).2 <:+ s := by
  unfold exponentDigits
  dsimp only
  split
  · exact List.suffix_refl _
  · exact (List.dropWhile_suffix _).trans h

theorem readExponent_suffix (s : List Char) : (readExponent s).2 <:+ s := by
  unfold readExponent
  split
  · next mark rest =>
    have hrest : rest <:+ mark :: rest := List.suffix_cons mark rest
    split
    · split
      · exact exponentDigits_suffix ((List.suffix_cons _ _).trans hrest)
      · exact exponentDigits_suffix ((List.suffix_cons _ _).trans hrest)
      · exact exponentDigits_suffix hrest
    · exact List.suffix_refl _
  · exact List.suffix_refl _

theorem of_readNumber? {number : NumberText} (h : readNumber? s = some (number, rest)) :
    rest <:+ s ∧ number.whole <:+: s ∧ ∀ c ∈ number.whole, c.isDigit = true := by
  unfold readNumber? at h
  obtain ⟨⟨whole, after⟩, hwhole, hnumber⟩ := Option.map_eq_some_iff.mp h
  cases hnumber
  obtain ⟨happend, hdigits⟩ := of_readWhole? hwhole
  have hunsigned : whole ++ after <:+ s := by
    rw [← happend]
    split
    · exact List.suffix_cons _ _
    · exact List.suffix_refl _
  refine ⟨?_, (List.prefix_append whole after).isInfix.trans hunsigned.isInfix, hdigits⟩
  exact ((readExponent_suffix _).trans (readFraction_suffix _)).trans
    ((List.suffix_append _ _).trans hunsigned)

end Number

/-- Every whole number of the document can be written out. -/
abbrev Writable (d : Json) : Prop := d.allIntegers Number.isWritable = true

/-- So can every whole number of the items. -/
abbrev WritableItems (items : List Json) : Prop := allIntegersIn Number.isWritable items = true

/-- So can every whole number of the fields. -/
abbrev WritableFields (fields : List (String × Json)) : Prop :=
  allIntegersOf Number.isWritable fields = true

theorem writableItems_cons {item : Json} {items : List Json} (h : Writable item)
    (hitems : WritableItems items) : WritableItems (item :: items) := by
  show (item.allIntegers _ && allIntegersIn _ items) = true
  rw [h, hitems]
  rfl

theorem NumberText.document_read {allowance : Allowance} {s rest : List Char} {number : NumberText}
    (hleft : rest <:+ s) (hrun : number.whole <:+: s)
    (hdigits : ∀ c ∈ number.whole, c.isDigit = true) :
    Read allowance Writable s (number.document.map fun d => (d, rest)) := by
  unfold NumberText.document
  split
  · split
    · next hmany => exact .tooManyDigits hrun hdigits hmany
    · next hfew =>
      refine .ok ?_ hleft
      show Number.isWritable _ = true
      refine Number.isWritable_of_natAbs_eq hdigits (Nat.le_of_not_lt hfew) ?_
      split
      · rw [Int.natAbs_neg, Int.natAbs_natCast]
      · rw [Int.natAbs_natCast]
  · exact .ok rfl hleft

theorem of_leadingWord? {s after : List Char} {d : Json} (h : leadingWord? s = some (d, after)) :
    Writable d ∧ after <:+ s := by
  obtain ⟨⟨word, found⟩, hword, h⟩ := List.exists_of_findSome?_eq_some h
  have hwritable : ∀ word ∈ words, Writable word.2 := by
    simp only [words, List.forall_mem_cons]
    exact ⟨rfl, rfl, rfl, rfl, rfl, rfl, List.forall_mem_nil _⟩
  dsimp only at h
  split at h
  · cases h
    exact ⟨hwritable _ hword, List.drop_suffix _ s⟩
  · cases h

/-! ## Fields -/

theorem allIntegersOf_append (p : Int → Bool) (fields more : List (String × Json)) :
    allIntegersOf p (fields ++ more) = (allIntegersOf p fields && allIntegersOf p more) := by
  induction fields with
  | nil => rfl
  | cons field rest ih =>
    obtain ⟨name, item⟩ := field
    rw [List.cons_append, allIntegersOf, allIntegersOf, ih, Bool.and_assoc]

theorem allIntegersOf_replace {p : Int → Bool} {fields : List (String × Json)} {name : String}
    {item : Json} (hfields : allIntegersOf p fields = true) (hitem : item.allIntegers p = true) :
    allIntegersOf p (fields.map fun field => if field.1 == name then (name, item) else field) =
      true := by
  induction fields with
  | nil => rfl
  | cons field rest ih =>
    obtain ⟨key, old⟩ := field
    rw [allIntegersOf, Bool.and_eq_true] at hfields
    rw [List.map_cons]
    split
    · rw [allIntegersOf, hitem, ih hfields.2]
      rfl
    · rw [allIntegersOf, hfields.1, ih hfields.2]
      rfl

theorem allIntegersOf_setField {p : Int → Bool} {fields : List (String × Json)} {name : String}
    {item : Json} (hfields : allIntegersOf p fields = true) (hitem : item.allIntegers p = true) :
    allIntegersOf p (setField fields name item) = true := by
  unfold setField
  split
  · exact allIntegersOf_replace hfields hitem
  · rw [allIntegersOf_append, hfields, allIntegersOf, hitem]
    rfl

/-! ## Documents -/

mutual

theorem readValue_read (allowance : Allowance) (s : List Char) :
    Read allowance Writable s (plain (readValue allowance s)) := by
  cases s with
  | nil =>
    rw [readValue_nil]
    exact .defect _ _
  | cons c rest =>
    have hrest : rest <:+ c :: rest := List.suffix_cons c rest
    have hbody : skipSpace rest <:+ c :: rest := (skipSpace_suffix rest).trans hrest
    have hlength := (skipSpace_suffix rest).length_le
    by_cases hquote : c = '"'
    · subst hquote
      rw [readValue_quote]
      have hread := readString_read allowance (rest.length + 1) rest
      exact (hread.of_suffix hrest).map (f := fun text => string (String.ofList text)) fun _ _ => rfl
    by_cases hbrace : c = '\x7b'
    · subst hbrace
      rw [readValue_brace]
      cases hinner : allowance.descend with
      | none =>
        refine .nestedTooDeeply ?_
        rintro rfl
        cases hinner
      | some inner =>
        dsimp only
        split
        · next after hclosed =>
          exact .ok rfl ((suffix_of_skipSpace hclosed).trans hrest)
        · have hread := readFields_read inner (skipSpace rest) [] rfl
          exact ((hread.of_descend hinner).of_suffix hbody).map fun _ h => h
    by_cases hbracket : c = '['
    · subst hbracket
      rw [readValue_bracket]
      cases hinner : allowance.descend with
      | none =>
        refine .nestedTooDeeply ?_
        rintro rfl
        cases hinner
      | some inner =>
        dsimp only
        split
        · next after hclosed =>
          exact .ok rfl ((suffix_of_skipSpace hclosed).trans hrest)
        · have hread := readItems_read inner (skipSpace rest)
          exact ((hread.of_descend hinner).of_suffix hbody).map fun _ h => h
    rw [readValue_other allowance rest hquote hbrace hbracket]
    split
    · next hword =>
      obtain ⟨hwritable, hleft⟩ := of_leadingWord? hword
      exact .ok hwritable hleft
    · split
      · exact .defect _ _
      · next hnumber =>
        obtain ⟨hleft, hrun, hdigits⟩ := of_readNumber? hnumber
        exact NumberText.document_read hleft hrun hdigits
termination_by (s.length, 1)

theorem readItems_read (allowance : Allowance) (s : List Char) :
    Read allowance WritableItems s (plain (readItems allowance s)) := by
  rw [readItems_eq]
  refine (readValue_read allowance s).bind ?_
  intro item rest hok hitem hrest
  have hlength := length_of_plain hok
  dsimp only
  split
  · next after hclosed =>
    exact .ok (writableItems_cons hitem rfl) ((suffix_of_skipSpace hclosed).trans hrest)
  · next more hmore =>
    have hsuffix : skipSpace more <:+ rest :=
      (skipSpace_suffix more).trans (suffix_of_skipSpace hmore)
    have hless := hsuffix.length_le
    have hread := readItems_read allowance (skipSpace more)
    exact (hread.of_suffix (hsuffix.trans hrest)).map fun _ hitems =>
      writableItems_cons hitem hitems
  · exact .defect _ _
termination_by (s.length, 2)

theorem readFields_read (allowance : Allowance) (s : List Char) (before : List (String × Json))
    (hbefore : WritableFields before) :
    Read allowance WritableFields s (plain (readFields allowance before s)) := by
  by_cases hquote : ∃ rest, s = '"' :: rest
  · obtain ⟨rest, hs⟩ := hquote
    have hrest : rest <:+ s := hs ▸ List.suffix_cons _ rest
    have hless : rest.length < s.length := hs ▸ Nat.lt_succ_self _
    rw [hs, readFields_quote, ← hs]
    refine ((readString_read allowance _ rest).of_suffix hrest).bind ?_
    intro name afterName hname _ hafterName
    have hnameLess := readString_length hname
    dsimp only
    split
    · next value hcolon =>
      have hvalue : skipSpace value <:+ afterName :=
        (skipSpace_suffix value).trans (suffix_of_skipSpace hcolon)
      have hvalueLess := hvalue.length_le
      have hread := readValue_read allowance (skipSpace value)
      refine ((hread.of_suffix hvalue).of_suffix hafterName).bind ?_
      intro item tail hitem hwritable htail
      have htailLess := length_of_plain hitem
      have hfields : WritableFields (setField before (String.ofList name) item) :=
        allIntegersOf_setField hbefore hwritable
      dsimp only
      split
      · next after hclosed => exact .ok hfields ((suffix_of_skipSpace hclosed).trans htail)
      · next more hmore =>
        have hsuffix : skipSpace more <:+ tail :=
          (skipSpace_suffix more).trans (suffix_of_skipSpace hmore)
        have hless := hsuffix.length_le
        exact (readFields_read allowance (skipSpace more) _ hfields).of_suffix
          (hsuffix.trans htail)
      · exact .defect _ _
    · exact .defect _ _
  · rw [readFields_other allowance fun rest h => hquote ⟨rest, h⟩]
    exact .defect _ _
termination_by (s.length, 0)

end

theorem readDocument_read (allowance : Allowance) (s : List Char) :
    Read allowance Writable s ((readDocument allowance s).map fun d => (d, [])) := by
  by_cases hmark : ∃ rest, s = '\uFEFF' :: rest
  · obtain ⟨rest, rfl⟩ := hmark
    exact .defect _ _
  · rw [readDocument_eq allowance fun rest h => hmark ⟨rest, h⟩]
    have hread := (readValue_read allowance (skipSpace s)).of_suffix (skipSpace_suffix s)
    generalize plain (readValue allowance (skipSpace s)) = r at hread
    cases r with
    | error stop => exact hread.of_error
    | ok p =>
      cases hread with
      | ok holds left =>
        dsimp only [Except.bind]
        split
        · exact .ok holds (List.nil_suffix ..)
        · exact .defect _ _

section Read

variable {allowance : Allowance} {text : String}

theorem writable_of_read {d : Json} (h : read allowance text = .ok d) : Writable d := by
  have hread := readDocument_read allowance text.toList
  unfold read at h
  split at h
  · next hdocument =>
    cases h
    rw [hdocument] at hread
    cases hread with
    | ok holds left => exact holds
  · cases h
  · cases h
  · cases h

/-- A whole number is refused only for its digits, which stand in the text. -/
theorem digits_of_read {count : Nat} (h : read allowance text = .error (.tooManyDigits count)) :
    ∃ digits, digits <:+: text.toList ∧ (∀ c ∈ digits, c.isDigit = true) ∧
      digits.length = count ∧ Number.mostDigits < count := by
  have hread := readDocument_read allowance text.toList
  unfold read at h
  split at h
  · cases h
  · cases h
  · next hdocument =>
    cases h
    rw [hdocument] at hread
    cases hread with
    | @tooManyDigits digits run all many => exact ⟨digits, run, all, rfl, many⟩
  · cases h

variable (text) in
theorem read_unbounded : read none text ≠ .error .nestedTooDeeply := by
  have hread := readDocument_read none text.toList
  unfold read
  split
  · nofun
  · nofun
  · nofun
  · next hdocument =>
    rw [hdocument] at hread
    cases hread with
    | nestedTooDeeply bounded => exact absurd rfl bounded

end Read

end Reckon.Json
