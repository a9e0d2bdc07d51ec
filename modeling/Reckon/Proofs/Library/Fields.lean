import Reckon.Library.Strings
import Reckon.Proofs.Text.Occurrence

/-!
# `Proofs.Library.Fields` — a line is cut into fields outside its double quotes

Reading a line goes through it once and remembers whether it stands within quotes. What that amounts to can be
said without going through: a place lies within quotes if an odd number of double quotes comes before it, and a
separator at a place that does not is a cut (`separatesAt`). The fields are the pieces between the cuts, less
their double quotes (`parseFields_eq_pieces`); from this follow what characters they hold together and how many
they are. Fields that are each put in double quotes are read back as they were (`parseFields_joined`).

Main statement: `fields_cut_outside_quotes`.
-/

namespace Reckon.Library

open Reckon.Text

variable {separator : Char}

/-! ## Cuts and pieces -/

/-- A separator stands at a place, and an even number of double quotes comes before it. -/
def separatesAt (separator : Char) (text : List Char) (place : Nat) : Bool :=
  text[place]? == some separator && (text.take place).count '"' % 2 == 0

/-- The characters of a piece, which each have their place, less the double quotes. -/
def unquoted (piece : List (Char × Nat)) : List Char :=
  (piece.map Prod.fst).filter (· != '"')

/-- A field in double quotes. -/
def quoted (field : List Char) : List Char :=
  '"' :: field ++ ['"']

theorem unquoted_cons_of_ne {c : Char} (hc : c ≠ '"') (place : Nat) (piece : List (Char × Nat)) :
    unquoted ((c, place) :: piece) = c :: unquoted piece := by
  simp [unquoted, hc]

theorem unquoted_cons_quote (place : Nat) (piece : List (Char × Nat)) :
    unquoted (('"', place) :: piece) = unquoted piece := by
  simp [unquoted]

theorem unquoted_reverse (piece : List (Char × Nat)) : (unquoted piece).reverse = unquoted piece.reverse := by
  unfold unquoted
  rw [← List.filter_reverse, List.map_reverse]

/-- What comes after `front` lies within quotes. -/
def leavesQuoted (front : List Char) : Bool :=
  front.count '"' % 2 == 1

theorem leavesQuoted_append_quote (front : List Char) : leavesQuoted (front ++ ['"']) = !leavesQuoted front := by
  unfold leavesQuoted
  rcases Nat.mod_two_eq_zero_or_one (front.count '"') with h | h <;> simp [h, Nat.add_mod]

theorem leavesQuoted_append_of_ne {c : Char} (hc : c ≠ '"') (front : List Char) :
    leavesQuoted (front ++ [c]) = leavesQuoted front := by
  simp [leavesQuoted, hc]

/-- At the place after `front` a cut is made if the reader makes one there. -/
theorem separatesAt_append_cons (front rest : List Char) (c : Char) :
    separatesAt separator (front ++ c :: rest) front.length =
      ([c] == [separator] && !leavesQuoted front) := by
  have hparity : (front.count '"' % 2 == 0) = !leavesQuoted front := by
    unfold leavesQuoted
    rcases Nat.mod_two_eq_zero_or_one (front.count '"') with h | h <;> simp [h]
  have hplace : (front ++ c :: rest)[front.length]? = some c := by simp
  unfold separatesAt
  rw [hplace, List.take_left, hparity]
  simp

/-- The reader, with `front` behind it and the characters of `piece` put into the current field, the last one
first, makes the cuts of the whole line. -/
theorem fieldsFrom_eq_pieces (hs : separator ≠ '"') (front rest : List Char) (piece : List (Char × Nat)) :
    fieldsFrom (fun c => [c] == [separator]) (leavesQuoted front) (unquoted piece) rest =
      (List.splitOnPPrepend (fun place => separatesAt separator (front ++ rest) place.2)
        (rest.zipIdx front.length) piece).map unquoted := by
  induction rest generalizing front piece with
  | nil =>
    rw [fieldsFrom, List.zipIdx_nil, List.splitOnPPrepend_nil, unquoted_reverse]
    rfl
  | cons c rest ih =>
    have hfront : front ++ c :: rest = front ++ [c] ++ rest := by simp
    have hlength : front.length + 1 = (front ++ [c]).length := by simp
    rw [fieldsFrom, List.zipIdx_cons, List.splitOnPPrepend_cons_eq_if]
    simp only [separatesAt_append_cons]
    rw [hfront, hlength]
    by_cases hcut : ([c] == [separator] && !leavesQuoted front) = true
    · obtain ⟨hc, hopen⟩ : c = separator ∧ leavesQuoted front = false := by simpa using hcut
      have hne : c ≠ '"' := by
        rw [hc]
        exact hs
      rw [if_pos hcut, if_pos hcut, List.map_cons, unquoted_reverse, ← List.splitOnPPrepend_nil_right,
        ← ih (front ++ [c]) [], leavesQuoted_append_of_ne hne]
      rfl
    · rw [if_neg hcut, if_neg hcut, ← ih (front ++ [c])]
      by_cases hc : c = '"'
      · subst hc
        rw [leavesQuoted_append_quote, unquoted_cons_quote]
        rfl
      · rw [if_neg (by simpa using hc), leavesQuoted_append_of_ne hc, unquoted_cons_of_ne hc]

/-- **The fields are the pieces between the cuts, less their double quotes.** -/
theorem parseFields_eq_pieces (hs : separator ≠ '"') (text : List Char) :
    parseFields text [separator] =
      (text.zipIdx.splitOnP fun place => separatesAt separator text place.2).map unquoted := by
  have hfields := fieldsFrom_eq_pieces hs [] text []
  rw [List.splitOnPPrepend_nil_right] at hfields
  exact hfields

/-! ## What the fields hold, and how many they are -/

theorem flatten_splitOnP {α : Type} (p : α → Bool) (l : List α) :
    (l.splitOnP p).flatten = l.filter fun a => !p a := by
  induction l with
  | nil => simp
  | cons a l ih =>
    obtain ⟨head, tail, hsplit⟩ := List.exists_cons_of_ne_nil (List.splitOnP_ne_nil p l)
    rw [List.splitOnP_cons_eq_if_modifyHead]
    by_cases ha : p a = true
    · simp [ha, ih]
    · rw [hsplit] at ih ⊢
      simp only [List.flatten_cons] at ih
      simp [ha, ih]

theorem length_splitOnP {α : Type} (p : α → Bool) (l : List α) : (l.splitOnP p).length = l.countP p + 1 := by
  induction l with
  | nil => simp
  | cons a l ih =>
    rw [List.splitOnP_cons_eq_if_modifyHead]
    by_cases ha : p a = true
    · simp [ha, ih]
    · simp [ha, ih]

theorem flatten_parseFields (hs : separator ≠ '"') (text : List Char) :
    (parseFields text [separator]).flatten =
      (text.zipIdx.filter fun (c, place) => c != '"' && !separatesAt separator text place).map Prod.fst := by
  have hflat : ∀ pieces : List (List (Char × Nat)), (pieces.map unquoted).flatten = unquoted pieces.flatten := by
    intro pieces
    unfold unquoted
    rw [List.map_flatten, List.filter_flatten, List.map_map]
    rfl
  rw [parseFields_eq_pieces hs, hflat, flatten_splitOnP, unquoted, List.filter_map, List.filter_filter]
  rfl

theorem length_parseFields (hs : separator ≠ '"') (text : List Char) :
    (parseFields text [separator]).length =
      (List.range text.length).countP (separatesAt separator text) + 1 := by
  have hplaces : List.range text.length = text.zipIdx.map Prod.snd := by
    rw [List.zipIdx_map_snd, List.range_eq_range']
  rw [parseFields_eq_pieces hs, List.length_map, length_splitOnP, hplaces, List.countP_map]
  rfl

/-! ## Fields in double quotes -/

/-- Within quotes everything up to the next double quote goes into the current field. -/
theorem fieldsFrom_within {isSeparator : Char → Bool} {field : List Char} (hfield : '"' ∉ field)
    (current rest : List Char) :
    fieldsFrom isSeparator true current (field ++ '"' :: rest) =
      fieldsFrom isSeparator false (field.reverse ++ current) rest := by
  induction field generalizing current with
  | nil => simp [fieldsFrom]
  | cons c field ih =>
    have hc : c ≠ '"' := fun h => hfield (h ▸ List.mem_cons_self)
    have hrest : '"' ∉ field := fun h => hfield (List.mem_cons_of_mem c h)
    have hread : fieldsFrom isSeparator true current (c :: field ++ '"' :: rest) =
        fieldsFrom isSeparator true (c :: current) (field ++ '"' :: rest) := by
      simp [fieldsFrom, hc]
    rw [hread, ih hrest, List.reverse_cons, List.append_assoc]
    rfl

/-- **Fields that are put in double quotes and joined are read back.** -/
theorem parseFields_joined (hs : separator ≠ '"') {fields : List (List Char)} (hne : fields ≠ [])
    (hfields : ∀ field ∈ fields, '"' ∉ field) :
    parseFields (List.intercalate [separator] (fields.map quoted)) [separator] = fields := by
  have hquoted : ∀ {field : List Char}, '"' ∉ field → ∀ rest,
      fieldsFrom (fun c => [c] == [separator]) false [] (quoted field ++ rest) =
        fieldsFrom (fun c => [c] == [separator]) false field.reverse rest := by
    intro field hfield rest
    have hopen : quoted field ++ rest = '"' :: (field ++ '"' :: rest) := by simp [quoted]
    have hquote : (['"'] == [separator]) = false := by simpa using hs.symm
    rw [hopen, fieldsFrom, hquote]
    simp only [Bool.false_and, Bool.false_eq_true, if_false, beq_self_eq_true, if_true, Bool.not_false]
    rw [fieldsFrom_within hfield, List.append_nil]
  unfold parseFields
  induction fields with
  | nil => exact absurd rfl hne
  | cons field others ih =>
    obtain ⟨hfield, hothers⟩ := List.forall_mem_cons.mp hfields
    cases others with
    | nil =>
      have hread := hquoted hfield []
      rw [List.append_nil] at hread
      simpa [fieldsFrom] using hread
    | cons next others =>
      have hjoined : List.intercalate [separator] ((field :: next :: others).map quoted) =
          quoted field ++ separator :: List.intercalate [separator] ((next :: others).map quoted) := by
        simp [List.intercalate_cons_cons]
      rw [hjoined, hquoted hfield, fieldsFrom]
      simp only [beq_self_eq_true, Bool.not_false, Bool.and_self, if_true, List.reverse_reverse]
      rw [ih (List.cons_ne_nil _ _) hothers]

/-! ## Lines without double quotes -/

/-- Without double quotes the reader makes a cut at every separator. -/
theorem fieldsFrom_plain {isSeparator : Char → Bool} {text : List Char} (htext : '"' ∉ text)
    (current : List Char) :
    fieldsFrom isSeparator false current text = List.splitOnPPrepend isSeparator text current := by
  induction text generalizing current with
  | nil => rw [fieldsFrom, List.splitOnPPrepend_nil]
  | cons c text ih =>
    have hc : c ≠ '"' := fun h => htext (h ▸ List.mem_cons_self)
    have hrest : '"' ∉ text := fun h => htext (List.mem_cons_of_mem c h)
    rw [fieldsFrom, List.splitOnPPrepend_cons_eq_if, ← List.splitOnPPrepend_nil_right, ih hrest, ih hrest]
    simp [hc]

theorem parseFields_eq_splitOn {text : List Char} (htext : '"' ∉ text) :
    parseFields text [separator] = Text.splitOn [separator] text := by
  have hsame : (fun c => [c] == [separator]) = (· == separator) := by
    funext c
    simp
  rw [splitOn_singleton, List.splitOn_eq_splitOnP, ← List.splitOnPPrepend_nil_right, parseFields, hsame]
  exact fieldsFrom_plain htext []

/-- The function that reads fields and the one that splits give the same list. -/
theorem splitFields_eq_split {text : String} (htext : '"' ∉ text.toList) :
    splitFields (.string text) (some (.string (String.singleton separator))) =
      split (.string text) (.string (String.singleton separator)) := by
  have hlist : (String.singleton separator).toList = [separator] := by simp
  have hfields : splitFields (.string text) (some (.string (String.singleton separator))) =
      .ok (stringList (parseFields text.toList (String.singleton separator).toList)) := by
    simp [splitFields, stringOf]
  have hsplit : split (.string text) (.string (String.singleton separator)) =
      .ok (stringList (Text.splitOn (String.singleton separator).toList text.toList)) := by
    have hempty : (String.singleton separator).isEmpty = false := by simp
    show (if (String.singleton separator).isEmpty = true then _ else _) = _
    rw [hempty, if_neg Bool.false_ne_true]
    rfl
  rw [hfields, hsplit, hlist, parseFields_eq_splitOn htext]

/-- **Main theorem.** For a separator that is not the double quote: fields without double quotes are read back
when each is put in double quotes and they are joined by it. Of any line the fields hold all characters, in
order, but the double quotes and the separators outside of quotes, and there is one more field than there are
such separators. A line without double quotes is split. -/
theorem fields_cut_outside_quotes (separator : Char) (hs : separator ≠ '"') :
    (∀ fields : List (List Char), fields ≠ [] → (∀ field ∈ fields, '"' ∉ field) →
      parseFields (List.intercalate [separator] (fields.map quoted)) [separator] = fields) ∧
    (∀ text : List Char,
      (parseFields text [separator]).flatten =
        (text.zipIdx.filter fun (c, place) => c != '"' && !separatesAt separator text place).map Prod.fst ∧
      (parseFields text [separator]).length =
        (List.range text.length).countP (separatesAt separator text) + 1) ∧
    ∀ text : String, '"' ∉ text.toList →
      parseFields text.toList [separator] = Text.splitOn [separator] text.toList ∧
      splitFields (.string text) (some (.string (String.singleton separator))) =
        split (.string text) (.string (String.singleton separator)) := by
  refine ⟨?_, ?_, ?_⟩
  · intro fields hne hfields
    exact parseFields_joined hs hne hfields
  · intro text
    exact ⟨flatten_parseFields hs text, length_parseFields hs text⟩
  · intro text htext
    exact ⟨parseFields_eq_splitOn htext, splitFields_eq_split htext⟩

/-- A separator within a field is kept, and a field may be empty. -/
theorem fields_cut_outside_quotes_semicolon : ';' ≠ '"' ∧
    (∀ field ∈ [['a', ';'], []], '"' ∉ field) ∧
    parseFields ['"', 'a', ';', '"', ';', '"', '"'] [';'] = [['a', ';'], []] ∧
    '"' ∉ "a;b".toList ∧ parseFields "a;b".toList [';'] = Text.splitOn [';'] "a;b".toList := by
  have hs : ';' ≠ '"' := by decide
  have hfields : ∀ field ∈ [['a', ';'], []], '"' ∉ field := by decide
  have htext : '"' ∉ "a;b".toList := by decide
  obtain ⟨hjoined, -, hplain⟩ := fields_cut_outside_quotes ';' hs
  exact ⟨hs, hfields, hjoined [['a', ';'], []] (by decide) hfields, htext, (hplain "a;b" htext).1⟩

end Reckon.Library
