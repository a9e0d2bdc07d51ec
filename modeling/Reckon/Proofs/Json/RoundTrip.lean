import Reckon.Proofs.Json.Arrange
import Reckon.Proofs.Json.Scalar
import Reckon.Proofs.Nesting

/-!
# `Proofs.Json.RoundTrip` — printed documents read back

A text `Spells` a document if it is read as that document whatever follows it, and if nothing but the nesting
can get in the way. What a layout without sorting prints for a legible document spells it, by induction on
the document: items and fields are read one by one up to what closes them, with a separator in between
(`readItems_intercalate`, `readFields_intercalate`). Sorting is dealt with beforehand, by `printAt_arrange`.
-/

namespace Reckon.Json

open Lexer Number

/-- The document can be read from what is printed for it. -/
inductive Legible : Json → Prop where
  | null : Legible null
  | boolean (b : Bool) : Legible (boolean b)
  | integer {n : Int} (writable : isWritable n = true) : Legible (integer n)
  | real {x : Float} (readsBack : ReadsBack x) : Legible (real x)
  | string (s : String) : Legible (string s)
  | list {items : List Json} (each : ∀ d ∈ items, Legible d) : Legible (list items)
  | object {fields : List (String × Json)} (distinct : (fields.map (·.1)).Nodup)
      (each : ∀ field ∈ fields, Legible field.2) : Legible (object fields)

theorem Legible.arrange {d : Json} (h : Legible d) (sort : Bool) : Legible (d.arrange sort) := by
  induction h with
  | null => exact .null
  | boolean b => exact .boolean b
  | integer writable => exact .integer writable
  | real readsBack => exact .real readsBack
  | string s => exact .string s
  | list _ ih =>
    refine .list ?_
    rw [arrangeItems_eq]
    exact List.forall_mem_map.mpr ih
  | object distinct _ ih =>
    refine .object ?_ fun field hfield => ?_
    · rwa [(inOrder_perm.map _).nodup_iff, map_fst_arrangeFields]
    · rw [inOrder_perm.mem_iff, arrangeFields_eq] at hfield
      obtain ⟨⟨name, item⟩, hitem, rfl⟩ := List.mem_map.mp hfield
      exact ih (name, item) hitem

/-! ## Blanks -/

section Blanks

variable {blanks rest : List Char}

/-- Nothing but blanks. -/
def Blank (s : List Char) : Prop :=
  ∀ c ∈ s, isSpace c = true

theorem skipSpace_append (h : Blank blanks) (rest : List Char) :
    skipSpace (blanks ++ rest) = skipSpace rest :=
  List.dropWhile_append_of_pos h

theorem skipSpace_cons {c : Char} (h : isSpace c = false) : skipSpace (c :: rest) = c :: rest := by
  rw [skipSpace, List.dropWhile_cons, if_neg (by simp [h])]

theorem blank_spaces (n : Nat) : Blank (List.replicate n ' ') := by
  intro c hc
  rw [List.eq_of_mem_replicate hc]
  rfl

theorem blank_lineBreak (layout : Layout) (level : Nat) : Blank (layout.lineBreak level).toList := by
  unfold Layout.lineBreak
  split
  · exact nofun
  · next width _ =>
    have htext : ("\n" ++ String.ofList (List.replicate (width * level) ' ')).toList =
        '\n' :: List.replicate (width * level) ' ' := by simp
    rw [htext]
    exact List.forall_mem_cons.mpr ⟨rfl, blank_spaces _⟩

theorem exists_separator (layout : Layout) (level : Nat) :
    ∃ blanks, Blank blanks ∧ (layout.separator level).toList = ',' :: blanks := by
  unfold Layout.separator
  split
  · exact ⟨[' '], blank_spaces 1, rfl⟩
  · next width _ =>
    refine ⟨'\n' :: List.replicate (width * level) ' ',
      List.forall_mem_cons.mpr ⟨rfl, blank_spaces _⟩, ?_⟩
    simp

/-- A number ends before blanks, and before what does not go on with it. -/
theorem ends_goesOn {c : Char} (h : Blank blanks) (hc : goesOn c = false) :
    Ends goesOn (blanks ++ c :: rest) := by
  have hspace : ∀ d, isSpace d = true → goesOn d = false := by
    intro d hd
    simp only [isSpace, Bool.or_eq_true, beq_iff_eq] at hd
    rcases hd with ((rfl | rfl) | rfl) | rfl <;> rfl
  cases blanks with
  | nil => exact ends_cons.mpr hc
  | cons d more => exact ends_cons.mpr (hspace d (h d List.mem_cons_self))

end Blanks

/-! ## The front of a document -/

/-- What does not stand in front of a document. -/
def strays : List Char := [' ', '\t', '\n', '\r', ']', '\uFEFF']

theorem readValue_stray (allowance : Allowance) {c : Char} (h : c ∈ strays) (rest : List Char) :
    plain (readValue allowance (c :: rest)) = .error (.defect .expectedValue (rest.length + 1)) := by
  have hall : ∀ c ∈ strays, plain (readValue allowance (c :: rest)) =
      .error (.defect .expectedValue (rest.length + 1)) := by
    simp only [strays, List.forall_mem_cons]
    refine ⟨?_, ?_, ?_, ?_, ?_, ?_, List.forall_mem_nil _⟩ <;>
      exact readValue_other allowance rest (by decide) (by decide) (by decide)
  exact hall c h

/-- Where a document was read, none of these was in front. -/
theorem exists_front {allowance : Allowance} {s : List Char} {p : Json × List Char}
    (h : plain (readValue allowance s) = .ok p) : ∃ c more, s = c :: more ∧ c ∉ strays := by
  cases s with
  | nil =>
    rw [readValue_nil] at h
    cases h
  | cons c more =>
    refine ⟨c, more, rfl, fun hstray => ?_⟩
    rw [readValue_stray allowance hstray] at h
    cases h

/-! ## Documents -/

/-- The text is read as the document, in front of whatever a number does not go on with, if the levels of
the document are granted. -/
def Spells (text : String) (d : Json) : Prop :=
  ∀ (allowance : Allowance) (rest : List Char), Ends goesOn rest →
    plain (readValue allowance (text.toList ++ rest)) =
      if allowance.grants d.depth then .ok (d, rest) else .error .nestedTooDeeply

theorem Spells.exists_front {text : String} {d : Json} (h : Spells text d) :
    ∃ c more, text.toList = c :: more ∧ isSpace c = false ∧ c ≠ ']' ∧ c ≠ '\uFEFF' := by
  have hread := h none [] ends_nil
  rw [List.append_nil, show Allowance.grants none d.depth = true from rfl, if_pos rfl] at hread
  obtain ⟨c, more, htext, hstray⟩ := Json.exists_front hread
  simp only [strays, List.mem_cons, List.not_mem_nil, or_false, not_or] at hstray
  obtain ⟨hspace, htab, hline, hreturn, hbracket, hmark⟩ := hstray
  exact ⟨c, more, htext, by simp [isSpace, *], hbracket, hmark⟩

theorem Spells.skipSpace {text : String} {d : Json} (h : Spells text d) (rest : List Char) :
    skipSpace (text.toList ++ rest) = text.toList ++ rest := by
  obtain ⟨c, more, htext, hspace, -⟩ := h.exists_front
  rw [htext, List.cons_append, skipSpace_cons hspace]

theorem exists_intercalate (separator text : String) (texts : List String) :
    ∃ more, (separator.intercalate (text :: texts)).toList = text.toList ++ more := by
  cases texts with
  | nil => exact ⟨[], by rw [String.intercalate_singleton, List.append_nil]⟩
  | cons text' others =>
    rw [String.intercalate_cons_cons, String.append_assoc, String.toList_append]
    exact ⟨_, rfl⟩

/-- Texts with separators between them start with a blank no more than the first of them. -/
theorem skipSpace_intercalate {text : String}
    (h : ∀ rest, skipSpace (text.toList ++ rest) = text.toList ++ rest) (separator : String)
    (texts : List String) (rest : List Char) :
    skipSpace ((separator.intercalate (text :: texts)).toList ++ rest) =
      (separator.intercalate (text :: texts)).toList ++ rest := by
  obtain ⟨more, hmore⟩ := exists_intercalate separator text texts
  rw [hmore, List.append_assoc, h]

section Items

variable {allowance : Allowance} {text : String} {d : Json} {blanks rest : List Char}

theorem readItems_last (h : Spells text d) (hblanks : Blank blanks) :
    plain (readItems allowance (text.toList ++ (blanks ++ ']' :: rest))) =
      if allowance.grants d.depth then .ok ([d], rest) else .error .nestedTooDeeply := by
  rw [readItems_eq, h _ _ (ends_goesOn hblanks rfl)]
  split
  · dsimp only [Except.bind]
    rw [skipSpace_append hblanks, skipSpace_cons rfl]
    rfl
  · rfl

theorem readItems_more (h : Spells text d) (hblanks : Blank blanks) {s : List Char}
    (hs : skipSpace s = s) :
    plain (readItems allowance (text.toList ++ ',' :: (blanks ++ s))) =
      if allowance.grants d.depth then
        (plain (readItems allowance s)).map fun q => (d :: q.1, q.2)
      else .error .nestedTooDeeply := by
  rw [readItems_eq, h _ _ (ends_cons.mpr rfl)]
  split
  · dsimp only [Except.bind]
    rw [skipSpace_cons rfl]
    show (plain (readItems allowance (skipSpace (blanks ++ s)))).map _ = _
    rw [skipSpace_append hblanks, hs]
  · rfl

/-- Items with separators between them are read up to the bracket that closes them. -/
theorem readItems_intercalate {print : Json → String} {separator : String} {blanks' : List Char}
    (hseparator : separator.toList = ',' :: blanks) (hblanks : Blank blanks)
    (hblanks' : Blank blanks') {items : List Json} (hne : items ≠ [])
    (h : ∀ d ∈ items, Spells (print d) d) :
    plain (readItems allowance ((separator.intercalate (items.map print)).toList ++
        (blanks' ++ ']' :: rest))) =
      if allowance.grants (itemsDepth items) then .ok (items, rest)
      else .error .nestedTooDeeply := by
  induction items with
  | nil => exact absurd rfl hne
  | cons d more ih =>
    have hd := h d List.mem_cons_self
    rw [itemsDepth, Allowance.grants_max]
    cases more with
    | nil =>
      rw [List.map_cons, List.map_nil, String.intercalate_singleton, readItems_last hd hblanks',
        itemsDepth, Allowance.grants_zero, Bool.and_true]
    | cons d' others =>
      have hd' := h d' (by simp)
      rw [List.map_cons, List.map_cons, String.intercalate_cons_cons, String.toList_append,
        String.toList_append, hseparator, List.append_assoc, List.append_assoc, List.cons_append,
        readItems_more hd hblanks (skipSpace_intercalate hd'.skipSpace _ _ _), ← List.map_cons,
        ih (by simp) fun d hd => h d (List.mem_cons_of_mem _ hd)]
      cases allowance.grants d.depth with
      | false => rfl
      | true => cases allowance.grants (itemsDepth (d' :: others)) <;> rfl

end Items

section Fields

variable {allowance : Allowance} {asciiOnly : Bool} {print : Json → String} {name : String} {d : Json}
  {blanks rest : List Char} {before : List (String × Json)}

/-- A field in print. -/
def fieldText (asciiOnly : Bool) (print : Json → String) (field : String × Json) : String :=
  printString asciiOnly field.1 ++ ": " ++ print field.2

theorem toList_fieldText (rest : List Char) :
    (fieldText asciiOnly print (name, d)).toList ++ rest =
      '"' :: (name.toList.flatMap (escapeChar asciiOnly) ++
        '"' :: ':' :: ' ' :: ((print d).toList ++ rest)) := by
  simp [fieldText, printString]

theorem skipSpace_fieldText (field : String × Json) (rest : List Char) :
    skipSpace ((fieldText asciiOnly print field).toList ++ rest) =
      (fieldText asciiOnly print field).toList ++ rest := by
  rw [toList_fieldText, skipSpace_cons rfl]

/-- A field that is not there yet is put behind the others. -/
theorem setField_of_fresh (h : name ∉ before.map (·.1)) :
    setField before name d = before ++ [(name, d)] := by
  rw [setField, if_neg]
  rw [List.any_eq_true]
  rintro ⟨field, hfield, hname⟩
  exact h (List.mem_map.mpr ⟨field, hfield, beq_iff_eq.mp hname⟩)

/-- One step: a field is read, and then what follows it counts. -/
theorem readFields_field (h : Spells (print d) d) (hfresh : name ∉ before.map (·.1))
    (hends : Ends goesOn rest) :
    plain (readFields allowance before ((fieldText asciiOnly print (name, d)).toList ++ rest)) =
      if allowance.grants d.depth then
        match skipSpace rest with
        | '\x7d' :: after => .ok (before ++ [(name, d)], after)
        | ',' :: more => plain (readFields allowance (before ++ [(name, d)]) (skipSpace more))
        | other => .error (.defect .expectedComma other.length)
      else .error .nestedTooDeeply := by
  have hblank : Blank [' '] := blank_spaces 1
  rw [← setField_of_fresh hfresh, toList_fieldText, readFields_quote, readString_flatMap]
  dsimp only [Except.bind]
  rw [skipSpace_cons rfl]
  show (plain (readValue allowance (skipSpace ([' '] ++ ((print d).toList ++ rest))))).bind _ = _
  rw [skipSpace_append hblank, h.skipSpace, h allowance rest hends, String.ofList_toList]
  split <;> rfl

theorem readFields_last (h : Spells (print d) d) (hfresh : name ∉ before.map (·.1))
    (hblanks : Blank blanks) :
    plain (readFields allowance before
        ((fieldText asciiOnly print (name, d)).toList ++ (blanks ++ '\x7d' :: rest))) =
      if allowance.grants d.depth then .ok (before ++ [(name, d)], rest)
      else .error .nestedTooDeeply := by
  rw [readFields_field h hfresh (ends_goesOn hblanks rfl), skipSpace_append hblanks,
    skipSpace_cons rfl]
  rfl

theorem readFields_more (h : Spells (print d) d) (hfresh : name ∉ before.map (·.1))
    (hblanks : Blank blanks) {s : List Char} (hs : skipSpace s = s) :
    plain (readFields allowance before
        ((fieldText asciiOnly print (name, d)).toList ++ ',' :: (blanks ++ s))) =
      if allowance.grants d.depth then plain (readFields allowance (before ++ [(name, d)]) s)
      else .error .nestedTooDeeply := by
  rw [readFields_field h hfresh (ends_cons.mpr rfl), skipSpace_cons rfl]
  show (if _ then plain (readFields allowance _ (skipSpace (blanks ++ s))) else _) = _
  rw [skipSpace_append hblanks, hs]

/-- Fields with separators between them are read up to the brace that closes them, behind the fields that
are there. -/
theorem readFields_intercalate {separator : String} {blanks' : List Char}
    (hseparator : separator.toList = ',' :: blanks) (hblanks : Blank blanks)
    (hblanks' : Blank blanks') {fields : List (String × Json)} (hne : fields ≠ [])
    (distinct : ((before ++ fields).map (·.1)).Nodup)
    (h : ∀ field ∈ fields, Spells (print field.2) field.2) :
    plain (readFields allowance before
        ((separator.intercalate (fields.map (fieldText asciiOnly print))).toList ++
          (blanks' ++ '\x7d' :: rest))) =
      if allowance.grants (fieldsDepth fields) then .ok (before ++ fields, rest)
      else .error .nestedTooDeeply := by
  induction fields generalizing before with
  | nil => exact absurd rfl hne
  | cons field more ih =>
    obtain ⟨name, d⟩ := field
    have hd : Spells (print d) d := h (name, d) List.mem_cons_self
    have hfresh : name ∉ before.map (·.1) := by
      rw [List.map_append, List.map_cons, List.nodup_append] at distinct
      intro hmem
      exact distinct.2.2 name hmem name List.mem_cons_self rfl
    rw [fieldsDepth, Allowance.grants_max]
    cases more with
    | nil =>
      rw [List.map_cons, List.map_nil, String.intercalate_singleton,
        readFields_last hd hfresh hblanks', fieldsDepth, Allowance.grants_zero, Bool.and_true]
    | cons field' others =>
      rw [List.append_cons] at distinct
      rw [List.map_cons, List.map_cons, String.intercalate_cons_cons, String.toList_append,
        String.toList_append, hseparator, List.append_assoc, List.append_assoc, List.cons_append,
        readFields_more hd hfresh hblanks (skipSpace_intercalate (skipSpace_fieldText field') _ _ _),
        ← List.map_cons,
        ih (by simp) distinct fun field hfield => h field (List.mem_cons_of_mem _ hfield)]
      cases allowance.grants d.depth with
      | false => rfl
      | true =>
        rw [List.append_assoc]
        rfl

end Fields

section Print

variable {layout : Layout}

/-- Items do not start with the bracket that closes a list. -/
theorem Spells.intercalate_ne {text : String} {d : Json} (h : Spells text d) (separator : String)
    (texts : List String) (rest after : List Char) :
    (separator.intercalate (text :: texts)).toList ++ rest ≠ ']' :: after := by
  obtain ⟨c, more, htext, -, hbracket, -⟩ := h.exists_front
  obtain ⟨tail, htail⟩ := exists_intercalate separator text texts
  rw [htail, htext]
  exact fun heq => hbracket (List.cons.inj heq).1

theorem toList_printAt_list {level : Nat} {items : List Json} (hne : items ≠ []) (rest : List Char) :
    (printAt layout level (list items)).toList ++ rest =
      '[' :: ((layout.lineBreak (level + 1)).toList ++
        (((layout.separator (level + 1)).intercalate
          (items.map (printAt layout (level + 1)))).toList ++
          ((layout.lineBreak level).toList ++ ']' :: rest))) := by
  cases items with
  | nil => exact absurd rfl hne
  | cons d more =>
    rw [printAt, printItems_eq]
    simp

theorem spells_list {items : List Json} (layout : Layout) (level : Nat)
    (h : ∀ d ∈ items, Spells (printAt layout (level + 1) d) d) :
    Spells (printAt layout level (list items)) (list items) := by
  intro allowance rest _
  rw [depth, Allowance.grants_succ]
  cases items with
  | nil =>
    have hprint : (printAt layout level (list [])).toList ++ rest = '[' :: ']' :: rest := by
      rw [printAt, printItems]
      simp
    rw [hprint, readValue_bracket, skipSpace_cons rfl, itemsDepth]
    cases allowance.descend with
    | none => rfl
    | some inner =>
      show _ = if inner.grants 0 then _ else _
      rw [Allowance.grants_zero]
      rfl
  | cons d more =>
    have hd := h d List.mem_cons_self
    obtain ⟨blanks, hblanks, hseparator⟩ := exists_separator layout (level + 1)
    rw [toList_printAt_list (by simp), readValue_bracket, skipSpace_append (blank_lineBreak _ _),
      List.map_cons, skipSpace_intercalate hd.skipSpace, ← List.map_cons]
    cases allowance.descend with
    | none => rfl
    | some inner =>
      dsimp only [Option.any_some]
      split
      · next heq => exact absurd heq (hd.intercalate_ne _ _ _ _)
      · rw [readItems_intercalate hseparator hblanks (blank_lineBreak _ _) (by simp) h]
        split <;> rfl

/-- Fields do not start with the brace that closes an object. -/
theorem intercalate_fieldText_ne {asciiOnly : Bool} {print : Json → String} (field : String × Json)
    (separator : String) (texts : List String) (rest after : List Char) :
    (separator.intercalate (fieldText asciiOnly print field :: texts)).toList ++ rest ≠
      '\x7d' :: after := by
  obtain ⟨tail, htail⟩ := exists_intercalate separator (fieldText asciiOnly print field) texts
  rw [htail, List.append_assoc, toList_fieldText]
  exact fun heq => absurd (List.cons.inj heq).1 (by decide)

theorem toList_printAt_object {level : Nat} {fields : List (String × Json)}
    (hunsorted : layout.sortFields = false) (hne : fields ≠ []) (rest : List Char) :
    (printAt layout level (object fields)).toList ++ rest =
      '\x7b' :: ((layout.lineBreak (level + 1)).toList ++
        (((layout.separator (level + 1)).intercalate
          (fields.map (fieldText layout.asciiOnly (printAt layout (level + 1))))).toList ++
          ((layout.lineBreak level).toList ++ '\x7d' :: rest))) := by
  cases fields with
  | nil => exact absurd rfl hne
  | cons field more =>
    rw [printAt, printFields_eq, hunsorted]
    simp [fieldText, Function.comp_def]

theorem spells_object {fields : List (String × Json)} (hunsorted : layout.sortFields = false)
    (level : Nat) (distinct : (fields.map (·.1)).Nodup)
    (h : ∀ field ∈ fields, Spells (printAt layout (level + 1) field.2) field.2) :
    Spells (printAt layout level (object fields)) (object fields) := by
  intro allowance rest _
  rw [depth, Allowance.grants_succ]
  cases fields with
  | nil =>
    have hprint : (printAt layout level (object [])).toList ++ rest = '\x7b' :: '\x7d' :: rest := by
      rw [printAt, printFields, hunsorted]
      simp
    rw [hprint, readValue_brace, skipSpace_cons rfl, fieldsDepth]
    cases allowance.descend with
    | none => rfl
    | some inner =>
      show _ = if inner.grants 0 then _ else _
      rw [Allowance.grants_zero]
      rfl
  | cons field more =>
    obtain ⟨blanks, hblanks, hseparator⟩ := exists_separator layout (level + 1)
    rw [toList_printAt_object hunsorted (by simp), readValue_brace,
      skipSpace_append (blank_lineBreak _ _), List.map_cons,
      skipSpace_intercalate (skipSpace_fieldText field), ← List.map_cons]
    cases allowance.descend with
    | none => rfl
    | some inner =>
      dsimp only [Option.any_some]
      split
      · next heq => exact absurd heq (intercalate_fieldText_ne field _ _ _ _)
      · rw [readFields_intercalate hseparator hblanks (blank_lineBreak _ _) (by simp) distinct h]
        split <;> rfl

/-- Whatever is read without going down is read whatever is granted. -/
theorem Spells.of_depth_zero {text : String} {d : Json} (hdepth : d.depth = 0)
    (h : ∀ allowance rest, Ends goesOn rest →
      plain (readValue allowance (text.toList ++ rest)) = .ok (d, rest)) : Spells text d := by
  intro allowance rest hends
  rw [hdepth, Allowance.grants_zero, if_pos rfl]
  exact h allowance rest hends

/-- A legible document is spelled by what a layout without sorting prints for it. -/
theorem spells_printAt (hunsorted : layout.sortFields = false) {d : Json} (h : Legible d)
    (level : Nat) : Spells (printAt layout level d) d := by
  induction h generalizing level with
  | null =>
    exact .of_depth_zero rfl fun allowance _ _ => readValue_word allowance (by simp [words, printAt])
  | boolean b =>
    refine .of_depth_zero rfl fun allowance _ _ => ?_
    cases b with
    | false => exact readValue_word allowance (by simp [words, printAt])
    | true => exact readValue_word allowance (by simp [words, printAt])
  | integer writable =>
    exact .of_depth_zero rfl fun allowance _ hends => readValue_integer allowance writable hends
  | real readsBack =>
    exact .of_depth_zero rfl fun allowance _ hends => readValue_real allowance readsBack hends
  | string s =>
    exact .of_depth_zero rfl fun allowance rest _ =>
      readValue_string allowance layout.asciiOnly s rest
  | list _ ih => exact spells_list layout level fun d hd => ih d hd (level + 1)
  | object distinct _ ih =>
    exact spells_object hunsorted level distinct fun field hfield => ih field hfield (level + 1)

theorem Spells.read {text : String} {d : Json} (h : Spells text d) (allowance : Allowance) :
    read allowance text = if allowance.grants d.depth then .ok d else .error .nestedTooDeeply := by
  have hdocument : readDocument allowance text.toList =
      if allowance.grants d.depth then .ok d else .error .nestedTooDeeply := by
    obtain ⟨c, more, htext, -, -, hmark⟩ := h.exists_front
    have hskip := h.skipSpace []
    have hread := h allowance [] ends_nil
    rw [List.append_nil] at hskip hread
    rw [readDocument_eq, hskip, hread]
    · split <;> rfl
    · rw [htext]
      rintro rest heq
      exact hmark (List.cons.inj heq).1
  rw [Json.read, hdocument]
  cases allowance.grants d.depth <;> rfl

/-- **Main theorem.** What is printed for a legible document is read as the document with its fields in
the order of the layout, exactly if its levels are granted. -/
theorem read_print (layout : Layout) {d : Json} (h : Legible d) (allowance : Allowance) :
    Json.read allowance (print layout d) =
      if allowance.grants d.depth then .ok (d.arrange layout.sortFields)
      else .error .nestedTooDeeply := by
  have hunsorted : layout.unsorted.sortFields = false := rfl
  have hspells := spells_printAt hunsorted (h.arrange layout.sortFields) 0
  rw [print, printAt_arrange, hspells.read, depth_arrange]

end Print

end Reckon.Json
