import Reckon.Calendar.Reading
import Reckon.Proofs.Calendar.Spelling

/-!
# `Proofs.Calendar.Layout` — what a plain layout writes

A layout is plain if its directives are the year, month, day, hour, minute and second, and anything else stands for
itself. It is given by the items that a reader takes it for (`layoutOf`), and it is written item after item: no
directive of it is filled in before the others (`fillFraction_field`), each is carried out to the digits of its field
(`carryOut_field`), and there is always room (`two_mul_lt_room`).

Main statement: `layOut_plain`.
-/

namespace Reckon.Calendar

open Number Text

/-! ## Fields in digits -/

namespace Field

/-- The fields that are written in digits and give a part of the date or of the time. -/
def numerals : List Field :=
  [year, month, day, hour, minute, second]

/-- The digits that a field is written in at least. -/
def digits : Field → Nat
  | year => 1
  | _ => 2

/-- What a field says of a moment. -/
def value (m : Moment) : Field → Nat
  | year => m.date.year
  | month => m.date.month
  | day => m.date.day
  | hour => m.clock.hour
  | minute => m.clock.minute
  | second => m.clock.second
  | _ => 0

/-- A field as it is written for a moment. -/
def text (m : Moment) (f : Field) : List Char :=
  (padded f.digits (f.value m)).toList

/-- What holds of the six fields holds of each. -/
theorem forall_numerals {P : Field → Prop} (hyear : P year) (hmonth : P month) (hday : P day) (hhour : P hour)
    (hminute : P minute) (hsecond : P second) : ∀ f ∈ numerals, P f := by
  intro f hf
  simp only [numerals, List.mem_cons, List.not_mem_nil, or_false] at hf
  rcases hf with rfl | rfl | rfl | rfl | rfl | rfl <;> assumption

/-- A field but for the year has two digits. -/
theorem spells_text (m : Moment) : ∀ f ∈ numerals, f ≠ year → Spells (f.text m) 2 (f.value m) :=
  forall_numerals (fun h => absurd rfl h) (fun _ => m.date.spells_month) (fun _ => m.date.spells_day)
    (fun _ => m.clock.spells_hour) (fun _ => m.clock.spells_minute) (fun _ => m.clock.spells_second)

theorem year_text (m : Moment) : year.text m = (Nat.repr m.date.year).toList := by
  have hpos : 0 < (Nat.repr m.date.year).length := Nat.length_repr_pos
  exact congrArg String.toList (padded_eq_repr hpos)

theorem length_text_le (m : Moment) {f : Field} (hf : f ∈ numerals) : (f.text m).length ≤ 4 := by
  by_cases hyear : f = year
  · have hle := m.date.inBounds.year_le
    rw [hyear, year_text, String.length_toList]
    exact (Nat.length_repr_le_iff (by decide)).mpr (by omega)
  · rw [(spells_text m f hf hyear).length_eq]
    decide

end Field

/-! ## Plain items -/

namespace Item

/-- An item as a layout has it. -/
def chars : Item → List Char
  | mark c => [c]
  | blanks => [' ']
  | field f => ['%', f.letter]

/-- An item as it is written for a moment. -/
def text (m : Moment) : Item → List Char
  | mark c => [c]
  | blanks => [' ']
  | field f => f.text m

/-- Items that stand for themselves, or for a field in digits. -/
def IsPlain : Item → Prop
  | mark c => c ≠ '%' ∧ c ≠ '\x00' ∧ isBlank c = false
  | blanks => True
  | field f => f ∈ Field.numerals

instance (item : Item) : Decidable item.IsPlain :=
  match item with
  | mark _ => inferInstanceAs (Decidable (_ ∧ _ ∧ _))
  | blanks => inferInstanceAs (Decidable True)
  | field _ => inferInstanceAs (Decidable (_ ∈ _))

end Item

variable {items : List Item}

/-! ## Carrying out -/

section Writing

variable (m : Moment) (most : Nat)

/-- A character that is no percent sign stands for itself. -/
theorem fillFraction_cons {c : Char} (h : c ≠ '%') (rest : List Char) :
    fillFraction m (c :: rest) = c :: fillFraction m rest := by
  rw [fillFraction]
  all_goals
    intros
    exact absurd ‹c = '%'› h

theorem carryOut_cons {c : Char} (h : c ≠ '%') (rest : List Char) :
    carryOut m most (c :: rest) = c :: carryOut m most rest := by
  rw [carryOut, if_neg h]

/-- No directive of a field in digits is filled in early. -/
theorem fillFraction_field (rest : List Char) : ∀ f ∈ Field.numerals,
    fillFraction m ('%' :: f.letter :: rest) = '%' :: f.letter :: fillFraction m rest :=
  Field.forall_numerals rfl rfl rfl rfl rfl rfl

/-- A letter right after the percent sign is the whole directive. -/
theorem readFlags_letter (rest : List Char) : ∀ f ∈ Field.numerals,
    Directive.start.readFlags (f.letter :: rest) =
      ({ Directive.start with letter := some f.letter, source := ['%', f.letter] }, rest) :=
  Field.forall_numerals rfl rfl rfl rfl rfl rfl

theorem content?_letter : ∀ f ∈ Field.numerals,
    content? m f.letter = some (.number .zeros f.digits (f.value m)) :=
  Field.forall_numerals rfl rfl rfl rfl rfl rfl

/-- With neither flags nor width a number has zeros up to its digits. -/
theorem write_number {d : Directive} {digits value : Nat} (hpadding : d.padding = none) (hwidth : d.width = 0)
    (hcontent : d.content? m = some (.number .zeros digits value)) : d.write m = (padded digits value).toList := by
  unfold Directive.write
  rw [hcontent]
  simp only [Directive.writeNumber, hpadding, hwidth, Option.getD_none, Nat.max_zero, toList_padded,
    String.length_toList]

/-- A directive of a field is carried out to its digits. -/
theorem carryOut_field {f : Field} (hf : f ∈ Field.numerals) (rest : List Char) :
    carryOut m most ('%' :: f.letter :: rest) = f.text m ++ carryOut m most rest := by
  rw [carryOut, if_pos rfl, readFlags_letter rest f hf]
  refine congrArg (· ++ carryOut m most rest) (write_number m rfl (Nat.zero_min most) ?_)
  exact content?_letter m f hf

end Writing

/-! ## Whole layouts -/

/-- The text of a layout that asks for some items. -/
def layoutOf (items : List Item) : String :=
  String.ofList (items.flatMap Item.chars)

section Plain

variable (m : Moment) (most : Nat) (hplain : ∀ item ∈ items, item.IsPlain)

include hplain in
theorem fillFraction_plain : fillFraction m (items.flatMap Item.chars) = items.flatMap Item.chars := by
  induction items with
  | nil => rfl
  | cons item items ih =>
    obtain ⟨hitem, hitems⟩ := List.forall_mem_cons.mp hplain
    rw [List.flatMap_cons]
    cases item with
    | mark c => exact (fillFraction_cons m hitem.1 _).trans (congrArg (c :: ·) (ih hitems))
    | blanks => exact (fillFraction_cons m (by decide) _).trans (congrArg (' ' :: ·) (ih hitems))
    | field f => exact (fillFraction_field m _ f hitem).trans (congrArg ('%' :: f.letter :: ·) (ih hitems))

include hplain in
theorem carryOut_plain : carryOut m most (items.flatMap Item.chars) = items.flatMap (Item.text m) := by
  induction items with
  | nil => rw [List.flatMap_nil, List.flatMap_nil, carryOut]
  | cons item items ih =>
    obtain ⟨hitem, hitems⟩ := List.forall_mem_cons.mp hplain
    rw [List.flatMap_cons, List.flatMap_cons]
    cases item with
    | mark c => exact (carryOut_cons m most hitem.1 _).trans (congrArg (c :: ·) (ih hitems))
    | blanks => exact (carryOut_cons m most (by decide) _).trans (congrArg (' ' :: ·) (ih hitems))
    | field f => exact (carryOut_field m most hitem _).trans (congrArg (f.text m ++ ·) (ih hitems))

include hplain in
/-- No item writes more than twice the characters that it takes in the layout. -/
theorem length_text_le : (items.flatMap (Item.text m)).length ≤ 2 * (items.flatMap Item.chars).length := by
  induction items with
  | nil => exact Nat.le_refl _
  | cons item items ih =>
    obtain ⟨hitem, hitems⟩ := List.forall_mem_cons.mp hplain
    have hrest := ih hitems
    have hone : (item.text m).length ≤ 2 * item.chars.length := by
      cases item with
      | mark c => exact Nat.le_succ 1
      | blanks => exact Nat.le_succ 1
      | field f => exact f.length_text_le m hitem
    rw [List.flatMap_cons, List.flatMap_cons, List.length_append, List.length_append]
    omega

include hplain in
/-- A plain layout has no null character, so all of it counts. -/
theorem takeWhile_plain :
    (items.flatMap Item.chars).takeWhile (· != '\x00') = items.flatMap Item.chars := by
  refine List.takeWhile_eq_self_iff.mpr fun c hc => bne_iff_ne.mpr ?_
  obtain ⟨item, hitem, hc⟩ := List.mem_flatMap.mp hc
  have hthis := hplain item hitem
  cases item with
  | mark d =>
    rw [List.mem_singleton.mp hc]
    exact hthis.2.1
  | blanks =>
    rw [List.mem_singleton.mp hc]
    decide
  | field f =>
    have hletter : ∀ f ∈ Field.numerals, f.letter ≠ '\x00' := by decide
    rcases List.mem_cons.mp hc with rfl | hc
    · decide
    · rw [List.mem_singleton.mp hc]
      exact hletter f hthis

end Plain

/-- There is room for twice as many characters as a layout has, and more. -/
theorem two_mul_lt_room (n : Nat) : 2 * n < room n := by
  unfold room
  split
  · omega
  · have hlog : (n - 1) / 4 < Nat.pow 2 (((n - 1) / 4).log2 + 1) := Nat.lt_log2_self
    omega

/-- **A plain layout is written item after item.** -/
theorem layOut_plain (m : Moment) (hplain : ∀ item ∈ items, item.IsPlain) :
    layOut (layoutOf items) m = String.ofList (items.flatMap (Item.text m)) := by
  have hroom : (items.flatMap (Item.text m)).length < room (items.flatMap Item.chars).length :=
    (length_text_le m hplain).trans_lt (two_mul_lt_room _)
  unfold layOut layoutOf
  simp only [String.toList_ofList, takeWhile_plain hplain, fillFraction_plain m hplain, carryOut_plain m _ hplain,
    if_pos hroom]

end Reckon.Calendar
