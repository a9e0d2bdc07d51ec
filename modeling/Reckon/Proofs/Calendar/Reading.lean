import Reckon.Proofs.Calendar.Layout
import Reckon.Proofs.Calendar.Shape

/-!
# `Proofs.Calendar.Reading` — plain layouts read what they write

A text written by a plain layout is cut up item after item again (`fit_plain`). For each field this rests on its
shape, which takes all digits of the field before it tries less (`Field.takesFirst_text`), whatever follows them. The
exception is the year: it is written in as few digits as it has and read in four, so a year before 1000 is not read
at all (`readBy_of_short_year`).

What the fields say is then put together as the parts of the moment that was written (`Parts.set`).

Main statements: `readBy_plain`, `readBy_of_short_year`.
-/

namespace Reckon.Calendar

open Number Text

/-- The field that an item asks for. -/
def Item.field? : Item → Option Field
  | .field f => some f
  | _ => none

/-- The items of a plain layout, where no blanks follow blanks and no field stands twice. -/
structure ArePlain (items : List Item) : Prop where
  plain : ∀ item ∈ items, item.IsPlain
  apart : items.IsChain fun a b => a = .blanks → b ≠ .blanks
  nodup : (items.filterMap Item.field?).Nodup

instance (items : List Item) : Decidable (ArePlain items) :=
  decidable_of_iff ((∀ item ∈ items, item.IsPlain) ∧ (items.IsChain fun a b => a = .blanks → b ≠ .blanks) ∧
      (items.filterMap Item.field?).Nodup)
    ⟨fun h => ⟨h.1, h.2.1, h.2.2⟩, fun h => ⟨h.plain, h.apart, h.nodup⟩⟩

variable {items : List Item}

/-! ## Layouts -/

theorem readItems_field {f : Field} (hf : f ∈ Field.numerals) (layout : String) (inBlanks : Bool) (rest : List Char) :
    readItems layout inBlanks ('%' :: f.letter :: rest) = (readItems layout false rest).map (.field f :: ·) := by
  have hspecial : ∀ f ∈ Field.numerals, Shape.isSpecial f.letter = false := by decide
  have hitems : ∀ f ∈ Field.numerals, itemsOfLetter? f.letter = some [.field f] :=
    Field.forall_numerals rfl rfl rfl rfl rfl rfl
  have hrange : ∀ f ∈ Field.numerals, 0x20 < f.letter.toNat ∧ f.letter.toNat < 0x85 := by decide
  rw [readItems, hspecial f hf, isBlank_of_toNat (hrange f hf).1 (hrange f hf).2, hitems f hf]
  rfl

theorem readItems_mark {c : Char} (hc : c ≠ '%') (hblank : isBlank c = false) (layout : String) (inBlanks : Bool)
    (rest : List Char) : readItems layout inBlanks (c :: rest) = (readItems layout false rest).map (.mark c :: ·) := by
  rw [readItems, hblank]
  · rfl
  all_goals
    intros
    exact absurd ‹c = '%'› hc

theorem readItems_blank (layout : String) (rest : List Char) :
    readItems layout false (' ' :: rest) = (readItems layout true rest).map (.blanks :: ·) := by
  rw [readItems, isBlank_space]
  · rfl
  all_goals
    intros
    contradiction

/-- **A plain layout is taken for the items that it was made of.** -/
theorem readItems_plain (layout : String) (hplain : ∀ item ∈ items, item.IsPlain)
    (hapart : items.IsChain fun a b => a = .blanks → b ≠ .blanks) {inBlanks : Bool}
    (hfirst : inBlanks = true → items.head? ≠ some .blanks) :
    readItems layout inBlanks (items.flatMap Item.chars) = .ok items := by
  induction items generalizing inBlanks with
  | nil => rfl
  | cons item items ih =>
    obtain ⟨hitem, hitems⟩ := List.forall_mem_cons.mp hplain
    obtain ⟨hnext, hrest⟩ := List.isChain_cons.mp hapart
    have hread : readItems layout false (items.flatMap Item.chars) = .ok items := ih hitems hrest nofun
    cases item with
    | mark c =>
      obtain ⟨hc, -, hblank⟩ := hitem
      show readItems layout inBlanks (c :: items.flatMap Item.chars) = _
      rw [readItems_mark hc hblank, hread]
      rfl
    | blanks =>
      have hfalse : inBlanks = false := Bool.eq_false_iff.mpr fun htrue => hfirst htrue rfl
      have hread' : readItems layout true (items.flatMap Item.chars) = .ok items :=
        ih hitems hrest fun _ hhead => hnext _ hhead rfl rfl
      show readItems layout inBlanks (' ' :: items.flatMap Item.chars) = _
      rw [hfalse, readItems_blank, hread']
      rfl
    | field f =>
      show readItems layout inBlanks ('%' :: f.letter :: items.flatMap Item.chars) = _
      rw [readItems_field hitem, hread]
      rfl

/-- Fields that are all different are accepted. -/
theorem checkFields_plain (hnodup : (items.filterMap Item.field?).Nodup) {known : List (Field × Nat)}
    (hknown : ∀ f ∈ items.filterMap Item.field?, known.lookup f = none) (before groups : Nat) :
    checkFields before groups known items = .ok () := by
  induction items generalizing before groups known with
  | nil => rfl
  | cons item items ih =>
    cases item with
    | mark c => exact ih hnodup hknown _ _
    | blanks => exact ih hnodup hknown _ _
    | field f =>
      obtain ⟨hnew, hnodup⟩ := List.nodup_cons.mp hnodup
      obtain ⟨hf, hknown⟩ := List.forall_mem_cons.mp hknown
      rw [checkFields, hf]
      refine ih hnodup (fun f' hf' => ?_) _ _
      have hne : f' ≠ f := fun heq => hnew (heq ▸ hf')
      rw [List.lookup_cons, beq_false_of_ne hne]
      exact hknown f' hf'

theorem readLayout_plain (h : ArePlain items) : readLayout (layoutOf items) = .ok items := by
  have hread : readItems (layoutOf items) false (layoutOf items).toList = .ok items := by
    unfold layoutOf
    rw [String.toList_ofList]
    exact readItems_plain _ h.plain h.apart nofun
  unfold readLayout
  rw [hread]
  show (checkFields 0 0 [] items).bind _ = _
  rw [checkFields_plain h.nodup fun _ _ => rfl]
  rfl

/-! ## Fields of two digits -/

namespace Field

open Shape

variable {s : List Char} {n : Nat}

theorem digits_text (m : Moment) (f : Field) : Digits (f.text m) :=
  digits_padded _ _

/-- The month: ones up to two after a one, and from one on after a zero. -/
theorem takesFirst_month (h : Spells s 2 n) (hpos : 1 ≤ n) (hle : n ≤ 12) (rest : List Char) :
    month.shape.TakesFirst (s ++ rest) (s, rest) := by
  obtain ⟨tens, htens, ones, hones, rfl, rfl⟩ := h.exists_pair
  obtain rfl | rfl : tens = 0 ∨ tens = 1 := by omega
  · have hone : agree '1' '0' = false := agree_digitChar (show 1 < 10 by decide) htens (by decide)
    refine .right (ends_markRange_of_not_agree hone) (.left (takesFirst_of_eq (ends_markRange ?_ ?_)))
    · exact digitChar_le_digitChar 1 (by decide) ones hones (by omega)
    · exact digitChar_le_digitChar ones hones 9 (by decide) (by omega)
  · refine .left (takesFirst_of_eq (ends_markRange ?_ ?_))
    · exact digitChar_le_digitChar 0 (by decide) ones hones (by omega)
    · exact digitChar_le_digitChar ones hones 2 (by decide) (by omega)

/-- The day: ones up to one after a three, any after a one or a two, and from one on after a zero. -/
theorem takesFirst_day (h : Spells s 2 n) (hpos : 1 ≤ n) (hle : n ≤ 31) (rest : List Char) :
    day.shape.TakesFirst (s ++ rest) (s, rest) := by
  have hthree : ∀ tens < 3, agree '3' (Nat.digitChar tens) = false := fun tens htens =>
    agree_digitChar (show 3 < 10 by decide) (by omega) (by omega)
  obtain ⟨tens, htens, ones, hones, rfl, rfl⟩ := h.exists_pair
  obtain rfl | hmiddle | rfl : tens = 0 ∨ (1 ≤ tens ∧ tens ≤ 2) ∨ tens = 3 := by omega
  · refine .right (ends_markRange_of_not_agree (hthree 0 (by decide))) (.right (ends_rangeDigit_of_lt (by decide))
      (.left (takesFirst_of_eq (ends_markRange ?_ ?_))))
    · exact digitChar_le_digitChar 1 (by decide) ones hones (by omega)
    · exact digitChar_le_digitChar ones hones 9 (by decide) (by omega)
  · refine .right (ends_markRange_of_not_agree (hthree tens (by omega))) (.left (takesFirst_of_eq
      (ends_rangeDigit ?_ ?_ (isDecimalDigit_digitChar hones))))
    · exact digitChar_le_digitChar 1 (by decide) tens htens hmiddle.1
    · exact digitChar_le_digitChar tens htens 2 (by decide) hmiddle.2
  · refine .left (takesFirst_of_eq (ends_markRange ?_ ?_))
    · exact digitChar_le_digitChar 0 (by decide) ones hones (by omega)
    · exact digitChar_le_digitChar ones hones 1 (by decide) (by omega)

/-- The hour: ones up to three after a two, and any after a zero or a one. -/
theorem takesFirst_hour (h : Spells s 2 n) (hlt : n < 24) (rest : List Char) :
    hour.shape.TakesFirst (s ++ rest) (s, rest) := by
  have htwo : ∀ tens < 2, agree '2' (Nat.digitChar tens) = false := fun tens htens =>
    agree_digitChar (show 2 < 10 by decide) (by omega) (by omega)
  obtain ⟨tens, htens, ones, hones, rfl, rfl⟩ := h.exists_pair
  obtain hlow | rfl : tens ≤ 1 ∨ tens = 2 := by omega
  · refine .right (ends_markRange_of_not_agree (htwo tens (by omega))) (.left (takesFirst_of_eq
      (ends_rangeDigit ?_ ?_ (isDecimalDigit_digitChar hones))))
    · exact digitChar_le_digitChar 0 (by decide) tens htens (by omega)
    · exact digitChar_le_digitChar tens htens 1 (by decide) hlow
  · refine .left (takesFirst_of_eq (ends_markRange ?_ ?_))
    · exact digitChar_le_digitChar 0 (by decide) ones hones (by omega)
    · exact digitChar_le_digitChar ones hones 3 (by decide) (by omega)

/-- The minute: tens up to five. -/
theorem takesFirst_minute (h : Spells s 2 n) (hlt : n < 60) (rest : List Char) :
    minute.shape.TakesFirst (s ++ rest) (s, rest) := by
  obtain ⟨tens, htens, ones, hones, rfl, rfl⟩ := h.exists_pair
  refine .left (takesFirst_of_eq (ends_rangeDigit ?_ ?_ (isDecimalDigit_digitChar hones)))
  · exact digitChar_le_digitChar 0 (by decide) tens htens (by omega)
  · exact digitChar_le_digitChar tens htens 5 (by decide) (by omega)

/-- The second: as the minute, for no moment has one after the fifty-ninth. -/
theorem takesFirst_second (h : Spells s 2 n) (hlt : n < 60) (rest : List Char) :
    second.shape.TakesFirst (s ++ rest) (s, rest) := by
  have hsix : ∀ tens < 6, agree '6' (Nat.digitChar tens) = false := fun tens htens =>
    agree_digitChar (show 6 < 10 by decide) (by omega) (by omega)
  obtain ⟨tens, htens, ones, hones, rfl, rfl⟩ := h.exists_pair
  refine .right (ends_markRange_of_not_agree (hsix tens (by omega))) (.left (takesFirst_of_eq
    (ends_rangeDigit ?_ ?_ (isDecimalDigit_digitChar hones))))
  · exact digitChar_le_digitChar 0 (by decide) tens htens (by omega)
  · exact digitChar_le_digitChar tens htens 5 (by decide) (by omega)

/-- Every field but the year is taken as it is written. -/
theorem takesFirst_text (m : Moment) (rest : List Char) :
    ∀ f ∈ numerals, f ≠ year → f.shape.TakesFirst (f.text m ++ rest) (f.text m, rest) := by
  have hdate := m.date.inBounds
  have hclock := m.clock.inBounds
  have hday := hdate.day_le.trans (monthLength_le _ _)
  exact forall_numerals (fun h => absurd rfl h)
    (fun _ => takesFirst_month m.date.spells_month hdate.month_pos hdate.month_le rest)
    (fun _ => takesFirst_day m.date.spells_day hdate.day_pos hday rest)
    (fun _ => takesFirst_hour m.clock.spells_hour hclock.hour_lt rest)
    (fun _ => takesFirst_minute m.clock.spells_minute hclock.minute_lt rest)
    (fun _ => takesFirst_second m.clock.spells_second hclock.second_lt rest)

/-! ## The year -/

/-- A year of four digits is taken as it is written. -/
theorem takesFirst_year {m : Moment} (h : 1000 ≤ m.date.year) (rest : List Char) :
    year.shape.TakesFirst (year.text m ++ rest) (year.text m, rest) := by
  have hle := m.date.inBounds.year_le
  have hmost := (Nat.length_repr_le_iff (n := m.date.year) (k := 4) (by decide)).mpr (by omega)
  have hleast := mt (Nat.length_repr_le_iff (n := m.date.year) (k := 3) (by decide)).mp (by omega)
  have hlength : (year.text m).length = 4 := by
    rw [year_text, String.length_toList]
    omega
  have hdigit : ∀ c ∈ year.text m, isDecimalDigit c = true :=
    fun c hc => isDecimalDigit_of_isDigit ((digits_text m year).all c hc)
  have hends := ends_digits hdigit rest
  rw [hlength] at hends
  exact takesFirst_of_eq hends

/-- A year of less is not taken, if no digit follows it. -/
theorem ends_year_of_short {m : Moment} (h : m.date.year < 1000) {c : Char} (hc : isDecimalDigit c = false)
    (rest : List Char) : year.shape.ends (year.text m ++ c :: rest) = [] := by
  have hlength : (year.text m).length < 4 := by
    rw [year_text, String.length_toList]
    exact Nat.lt_succ_of_le ((Nat.length_repr_le_iff (by decide)).mpr h)
  exact ends_digits_of_short hlength hc rest

end Field

/-! ## Cutting up -/

/-- A year that is asked for must have four digits. -/
def YearIsFull (m : Moment) (items : List Item) : Prop :=
  .field .year ∈ items → 1000 ≤ m.date.year

theorem fit_mark (c : Char) (items : List Item) (rest : List Char) :
    fit (.mark c :: items) (c :: rest) = fit items rest := by
  rw [fit, agree_self]
  rfl

/-- A space that no blank follows is all the blanks there are. -/
theorem fit_blanks {items : List Item} {rest : List Char} (hrest : rest.takeWhile isBlank = [])
    {r : List Filled × List Char} (h : fit items rest = some r) : fit (.blanks :: items) (' ' :: rest) = some r := by
  have hends : blankEnds (' ' :: rest) = [rest] := by
    unfold blankEnds
    rw [List.takeWhile_cons_of_pos isBlank_space, hrest]
    rfl
  rw [fit, hends, List.findSome?_cons, h]

theorem fit_field {f : Field} {items : List Item} {t rest : List Char} {r : List Filled × List Char}
    (hfirst : f.shape.TakesFirst (t ++ rest) (t, rest)) (h : fit items rest = some r) :
    fit (.field f :: items) (t ++ rest) = some ((f, t) :: r.1, r.2) := by
  obtain ⟨more, hends⟩ := hfirst
  rw [fit, hends, List.findSome?_cons, h]
  rfl

/-- What a plain item writes does not begin with a blank, unless it is one. -/
theorem takeWhile_text (m : Moment) (hplain : ∀ item ∈ items, item.IsPlain) (hfirst : items.head? ≠ some .blanks) :
    (items.flatMap (Item.text m)).takeWhile isBlank = [] := by
  cases items with
  | nil => rfl
  | cons item items =>
    have hitem := hplain item List.mem_cons_self
    cases item with
    | mark c => exact List.takeWhile_cons_of_neg (by rw [hitem.2.2]; exact Bool.false_ne_true)
    | blanks => exact absurd rfl hfirst
    | field f =>
      obtain ⟨d, more, htext, hd⟩ := (f.digits_text m).exists_cons
      show (f.text m ++ _).takeWhile isBlank = []
      rw [htext]
      exact List.takeWhile_cons_of_neg (by rw [isBlank_of_isDigit hd]; exact Bool.false_ne_true)

/-- **What plain items write is cut up by them again.** -/
theorem fit_plain (m : Moment) (hplain : ∀ item ∈ items, item.IsPlain)
    (hapart : items.IsChain fun a b => a = .blanks → b ≠ .blanks) (hyear : YearIsFull m items) :
    fit items (items.flatMap (Item.text m)) =
      some ((items.filterMap Item.field?).map fun f => (f, f.text m), []) := by
  induction items with
  | nil => rfl
  | cons item items ih =>
    obtain ⟨hitem, hitems⟩ := List.forall_mem_cons.mp hplain
    obtain ⟨hnext, hrest⟩ := List.isChain_cons.mp hapart
    have hcut := ih hitems hrest fun hmem => hyear (List.mem_cons_of_mem item hmem)
    cases item with
    | mark c => exact (fit_mark c items _).trans hcut
    | blanks => exact fit_blanks (takeWhile_text m hitems fun hhead => hnext _ hhead rfl rfl) hcut
    | field f =>
      by_cases hf : f = .year
      · subst hf
        exact fit_field (Field.takesFirst_year (hyear List.mem_cons_self) _) hcut
      · exact fit_field (Field.takesFirst_text m _ f hitem hf) hcut

/-! ## What the fields say -/

theorem numberOf_text (m : Moment) (f : Field) : numberOf (f.text m) = f.value m := by
  obtain ⟨d, more, htext, hd⟩ := (f.digits_text m).exists_cons
  have htrim : trimStart (f.text m) = f.text m := by
    rw [htext, trimStart]
    exact List.dropWhile_cons_of_neg (by rw [isBlank_of_isDigit hd]; exact Bool.false_ne_true)
  rw [numberOf, htrim, Field.text, toList_padded, natOfDigits_zeros_append, natOfDigits_repr]

/-- The parts with what a field says of a moment. -/
def Parts.set (m : Moment) (p : Parts) : Field → Parts
  | .year => { p with year := some m.date.year }
  | .month => { p with month := m.date.month }
  | .day => { p with day := m.date.day }
  | .hour => { p with hour := m.clock.hour }
  | .minute => { p with minute := m.clock.minute }
  | .second => { p with second := m.clock.second }
  | _ => p

theorem add_text (m : Moment) (afternoon : Bool) (p : Parts) :
    ∀ f ∈ Field.numerals, p.add afternoon (f, f.text m) = .ok (p.set m f) := by
  have hvalue := numberOf_text m
  apply Field.forall_numerals <;>
    simp only [Parts.add, hvalue, Parts.set, Field.value]

theorem foldlM_text (m : Moment) (afternoon : Bool) {fields : List Field} (hfields : ∀ f ∈ fields, f ∈ Field.numerals)
    (p : Parts) :
    (fields.map fun f => (f, f.text m)).foldlM (Parts.add afternoon) p = .ok (fields.foldl (Parts.set m) p) := by
  induction fields generalizing p with
  | nil => rfl
  | cons f fields ih =>
    obtain ⟨hf, hfields⟩ := List.forall_mem_cons.mp hfields
    rw [List.map_cons, List.foldlM_cons, add_text m afternoon p f hf, List.foldl_cons]
    exact ih hfields _

/-- The parts that the fields of some items give. -/
def Parts.ofItems (m : Moment) (items : List Item) : Parts :=
  (items.filterMap Item.field?).foldl (Parts.set m) {}

section Text

variable {layout text : String} {fields : List Filled}

/-- The fields of a text that is cut up without a rest are put together. -/
theorem readBy_of_fit (hread : readLayout layout = .ok items) (hfit : fit items text.toList = some (fields, [])) :
    readBy layout text = (Parts.ofFilled fields).bind Parts.stamp := by
  unfold readBy
  rw [hread]
  dsimp only [Bind.bind, Except.bind]
  rw [hfit]
  rfl

theorem readBy_of_fit_none (hread : readLayout layout = .ok items) (hfit : fit items text.toList = none) :
    readBy layout text = .error (.mismatch text layout) := by
  unfold readBy
  rw [hread]
  dsimp only [Bind.bind, Except.bind]
  rw [hfit]

end Text

/-- **A plain layout reads what it wrote**, as the parts of the moment that it asks for. -/
theorem readBy_plain {m : Moment} (h : ArePlain items) (hyear : YearIsFull m items) :
    readBy (layoutOf items) (layOut (layoutOf items) m) = (Parts.ofItems m items).stamp := by
  have hfields : ∀ f ∈ items.filterMap Item.field?, f ∈ Field.numerals := by
    intro f hf
    obtain ⟨item, hitem, hasked⟩ := List.mem_filterMap.mp hf
    have hplain := h.plain item hitem
    cases item with
    | mark c => cases hasked
    | blanks => cases hasked
    | field f' =>
      rw [← Option.some.inj hasked]
      exact hplain
  have hfit : fit items (layOut (layoutOf items) m).toList =
      some ((items.filterMap Item.field?).map fun f => (f, f.text m), []) := by
    rw [layOut_plain m h.plain, String.toList_ofList]
    exact fit_plain m h.plain h.apart hyear
  rw [readBy_of_fit (readLayout_plain h) hfit, Parts.ofFilled, foldlM_text m _ hfields]
  rfl

/-- **A year before 1000 is not read**, where it comes first and no digit follows it. -/
theorem readBy_of_short_year {m : Moment} {c : Char} {rest : List Item} (h : ArePlain items)
    (hitems : items = .field .year :: .mark c :: rest) (hc : isDecimalDigit c = false) (hyear : m.date.year < 1000) :
    readBy (layoutOf items) (layOut (layoutOf items) m) =
      .error (.mismatch (layOut (layoutOf items) m) (layoutOf items)) := by
  refine readBy_of_fit_none (readLayout_plain h) ?_
  have htext : (layOut (layoutOf items) m).toList = Field.year.text m ++ c :: rest.flatMap (Item.text m) := by
    rw [layOut_plain m h.plain, String.toList_ofList, hitems]
    rfl
  rw [htext, hitems, fit, Field.ends_year_of_short hyear hc]
  rfl

/-! ## Putting it together -/

/-- Parts that name a day and a time, and nothing else. -/
theorem Parts.stamp_eq {p : Parts} {d : Date} {c : Clock} (hweekYear : p.weekYear = none) (hweek : p.week = none)
    (hdayOfYear : p.dayOfYear = none) (hweekday : p.weekday = none) (hoffset : p.offset = none)
    (hyear : p.year = none → p.month = 1) (hdate : Date.of p.impliedYear p.month p.day = .ok d)
    (hclock : Clock.of p.hour p.minute p.second p.microsecond = .ok c) :
    p.stamp = .ok ⟨⟨d, c⟩, none⟩ := by
  have hmoved : ¬ (p.year.isNone ∧ p.month = 2 ∧ p.day = 29) := by
    rintro ⟨hnone, hmonth, -⟩
    rw [hyear (Option.isNone_iff_eq_none.mp hnone)] at hmonth
    cases hmonth
  have hchecked : p.checkWeeks = .ok () := by
    unfold Parts.checkWeeks
    rw [hweekYear, hweek]
    rfl
  have hordinal : p.ordinal? = .ok none := by
    unfold Parts.ordinal?
    rw [hdayOfYear, hweekday]
    rfl
  have hday : p.date = .ok d := by
    unfold Parts.date
    rw [hchecked]
    show (p.ordinal?.bind fun o => _) = _
    rw [hordinal]
    show (Date.of p.impliedYear p.month p.day).mapError _ = _
    rw [hdate]
    rfl
  unfold Parts.stamp
  rw [hday, hoffset, hclock]
  show (if p.year.isNone ∧ p.month = 2 ∧ p.day = 29 then _ else _) = _
  rw [if_neg hmoved]
  rfl

/-! ## The usual layouts -/

/-- The items of a day, as `%Y-%m-%d` asks for them. -/
def dateItems : List Item :=
  [.field .year, .mark '-', .field .month, .mark '-', .field .day]

/-- The items of a time of day, as `%H:%M:%S` asks for them. -/
def clockItems : List Item :=
  [.field .hour, .mark ':', .field .minute, .mark ':', .field .second]

/-- The items of a moment, as `%Y-%m-%d %H:%M:%S` asks for them. -/
def momentItems : List Item :=
  dateItems ++ .blanks :: clockItems

theorem layoutOf_dateItems : layoutOf dateItems = "%Y-%m-%d" := rfl

theorem layoutOf_clockItems : layoutOf clockItems = "%H:%M:%S" := rfl

theorem layoutOf_momentItems : layoutOf momentItems = "%Y-%m-%d %H:%M:%S" := rfl

theorem arePlain_dateItems : ArePlain dateItems where
  plain := by simp [dateItems, Item.IsPlain, isBlank_of_toNat, Field.numerals]
  apart := by decide
  nodup := by decide

theorem arePlain_clockItems : ArePlain clockItems where
  plain := by simp [clockItems, Item.IsPlain, isBlank_of_toNat, Field.numerals]
  apart := by decide
  nodup := by decide

theorem arePlain_momentItems : ArePlain momentItems where
  plain item hitem := by
    rcases List.mem_append.mp hitem with hitem | hitem
    · exact arePlain_dateItems.plain item hitem
    · rcases List.mem_cons.mp hitem with rfl | hitem
      · trivial
      · exact arePlain_clockItems.plain item hitem
  apart := by decide
  nodup := by decide

section Usual

variable {m : Moment}

/-- A day from year 1000 on is read as its midnight. -/
theorem readBy_date (hyear : 1000 ≤ m.date.year) :
    readBy "%Y-%m-%d" (layOut "%Y-%m-%d" m) = .ok ⟨.startOf m.date, none⟩ := by
  have hread := readBy_plain (m := m) arePlain_dateItems fun _ => hyear
  rw [layoutOf_dateItems] at hread
  rw [hread]
  exact Parts.stamp_eq rfl rfl rfl rfl rfl nofun m.date.of_parts Clock.midnight.of_parts

/-- A time of day in whole seconds is read as that time, on the first day of 1900. -/
theorem readBy_clock (hseconds : m.clock.IsSeconds) :
    readBy "%H:%M:%S" (layOut "%H:%M:%S" m) = .ok ⟨⟨⟨1900, 1, 1, by decide⟩, m.clock⟩, none⟩ := by
  have hread := readBy_plain (m := m) arePlain_clockItems fun hmem => absurd hmem (by decide)
  have hclock := m.clock.of_parts
  rw [hseconds] at hclock
  rw [layoutOf_clockItems] at hread
  rw [hread]
  exact Parts.stamp_eq rfl rfl rfl rfl rfl (fun _ => rfl) rfl hclock

/-- A moment in whole seconds from year 1000 on is read as it was. -/
theorem readBy_moment (hseconds : m.clock.IsSeconds) (hyear : 1000 ≤ m.date.year) :
    readBy "%Y-%m-%d %H:%M:%S" (layOut "%Y-%m-%d %H:%M:%S" m) = .ok ⟨m, none⟩ := by
  have hread := readBy_plain (m := m) arePlain_momentItems fun _ => hyear
  have hclock := m.clock.of_parts
  rw [hseconds] at hclock
  rw [layoutOf_momentItems] at hread
  rw [hread]
  exact Parts.stamp_eq rfl rfl rfl rfl rfl nofun m.date.of_parts hclock

/-- A day before year 1000 is not read. -/
theorem readBy_date_of_short_year (hyear : m.date.year < 1000) :
    readBy "%Y-%m-%d" (layOut "%Y-%m-%d" m) = .error (.mismatch (layOut "%Y-%m-%d" m) "%Y-%m-%d") := by
  have hread := readBy_of_short_year arePlain_dateItems rfl (by decide) hyear
  rwa [layoutOf_dateItems] at hread

/-- Nor is a moment before year 1000. -/
theorem readBy_moment_of_short_year (hyear : m.date.year < 1000) :
    readBy "%Y-%m-%d %H:%M:%S" (layOut "%Y-%m-%d %H:%M:%S" m) =
      .error (.mismatch (layOut "%Y-%m-%d %H:%M:%S" m) "%Y-%m-%d %H:%M:%S") := by
  have hread := readBy_of_short_year arePlain_momentItems rfl (by decide) hyear
  rwa [layoutOf_momentItems] at hread

end Usual

end Reckon.Calendar
