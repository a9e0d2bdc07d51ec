import Reckon.Calendar.MailDate
import Reckon.Proofs.Calendar.Spelling
import Reckon.Proofs.Text.Occurrence

/-!
# `Proofs.Calendar.MailDate` — what the header form of a date is read as

The reader of header dates was made for many forms, and most of what it does leaves a date alone that is written to
the letter: its words are the ones it was written with (`wordsOf_writeMailDate`), the comma gives the weekday away,
the five words that are left need no splitting, and each is in its place already
(`settleMonth?_mailWords`, `settleYear?_mailWords`). So every part
is read as it was written, with one exception. The year is written in four digits, but only its value counts, and a
year of less than three digits is moved to this century or the last (`Date.inMailYear`).

Main statement: `readMailDate_written`.
-/

namespace Reckon.Calendar

open Number Text

/-! ## Words -/

/-- A word has some character, and no blank. -/
structure IsWord (w : List Char) : Prop where
  ne_nil : w ≠ []
  not_blank : ∀ c ∈ w, isBlank c = false

theorem IsWord.isEmpty_reverse {w : List Char} (h : IsWord w) : w.reverse.isEmpty = false := by
  rw [List.isEmpty_reverse]
  exact List.isEmpty_eq_false_iff.mpr h.ne_nil

theorem isWord_of_all {w : List Char} (hne : w ≠ []) (hall : w.all (fun c => 0x20 < c.toNat && c.toNat < 0x85) = true) :
    IsWord w := by
  refine ⟨hne, fun c hc => ?_⟩
  obtain ⟨hlow, hhigh⟩ := Bool.and_eq_true_iff.mp (List.all_eq_true.mp hall c hc)
  exact isBlank_of_toNat (of_decide_eq_true hlow) (of_decide_eq_true hhigh)

theorem isWord_of_spells {s : List Char} {width n : Nat} (h : Spells s (width + 1) n) : IsWord s where
  ne_nil := (h.digits (Nat.succ_pos _)).ne_nil
  not_blank c hc := isBlank_of_isDigit (h.all c hc)

/-- Characters that are no blanks belong to the current word. -/
theorem wordsFrom_append {w : List Char} (h : ∀ c ∈ w, isBlank c = false) (word rest : List Char) :
    wordsFrom word (w ++ rest) = wordsFrom (w.reverse ++ word) rest := by
  induction w generalizing word with
  | nil => rfl
  | cons c w ih =>
    obtain ⟨hc, hw⟩ := List.forall_mem_cons.mp h
    rw [List.cons_append, wordsFrom, if_neg (by rw [hc]; exact Bool.false_ne_true), ih hw, List.reverse_cons,
      List.append_assoc, List.singleton_append]

/-- A blank ends a word. -/
theorem wordsFrom_word {w : List Char} (h : IsWord w) (rest : List Char) :
    wordsFrom [] (w ++ ' ' :: rest) = w :: wordsFrom [] rest := by
  rw [wordsFrom_append h.not_blank, List.append_nil, wordsFrom, if_pos isBlank_space, h.isEmpty_reverse,
    if_neg Bool.false_ne_true, List.reverse_reverse]

/-- **Words joined by spaces are found again.** -/
theorem wordsFrom_intercalate {ws : List (List Char)} (h : ∀ w ∈ ws, IsWord w) :
    wordsFrom [] ([' '].intercalate ws) = ws := by
  induction ws with
  | nil => rfl
  | cons w ws ih =>
    obtain ⟨hw, hws⟩ := List.forall_mem_cons.mp h
    cases ws with
    | nil =>
      have hread := wordsFrom_append hw.not_blank [] []
      rw [List.append_nil, List.append_nil] at hread
      rw [List.intercalate_singleton, hread, wordsFrom, hw.isEmpty_reverse, if_neg Bool.false_ne_true,
        List.reverse_reverse]
    | cons w' ws =>
      rw [List.intercalate_cons_cons, List.append_assoc, List.singleton_append, wordsFrom_word hw, ih hws]

/-! ## Names -/

namespace Date

/-- The first three letters of the weekday. -/
def weekdayChars (d : Date) : List Char :=
  (shortName d.weekdayName).toList

/-- The first three letters of the month. -/
def monthChars (d : Date) : List Char :=
  (shortName d.monthName).toList

theorem weekday_lt (d : Date) : d.weekday < 7 :=
  Nat.mod_lt _ (by decide)

theorem isWord_weekday (d : Date) : IsWord (d.weekdayChars ++ [',']) := by
  have hnames : ∀ k < 7, ((shortName (weekdayNames.getD k "")).toList ++ [',']).all
      (fun c => 0x20 < c.toNat && c.toNat < 0x85) = true := by decide
  exact isWord_of_all (List.append_ne_nil_of_right_ne_nil _ (List.cons_ne_nil _ _)) (hnames _ d.weekday_lt)

theorem month_pred_lt (d : Date) : d.month - 1 < 12 := by
  have hpos := d.inBounds.month_pos
  have hle := d.inBounds.month_le
  omega

theorem isWord_month (d : Date) : IsWord d.monthChars := by
  have hnames : ∀ k < 12, (shortName (monthNames.getD k "")).toList ≠ [] ∧
      (shortName (monthNames.getD k "")).toList.all (fun c => 0x20 < c.toNat && c.toNat < 0x85) = true := by decide
  obtain ⟨hne, hall⟩ := hnames _ d.month_pred_lt
  exact isWord_of_all hne hall

/-- The name of a month is known by its first three letters. -/
theorem monthOfWord?_monthChars (d : Date) : monthOfWord? d.monthChars = some d.month := by
  have hnames : ∀ k < 12, monthOfWord? (shortName (monthNames.getD k "")).toList = some (k + 1) := by
    decide +kernel
  have hread := hnames _ d.month_pred_lt
  rwa [Nat.sub_add_cancel d.inBounds.month_pos] at hread

end Date

/-! ## The words of a moment -/

namespace Moment

/-- The words of the date, without the weekday. -/
def mailWords (m : Moment) : MailWords where
  day := (padded 2 m.date.day).toList
  month := m.date.monthChars
  year := (padded 4 m.date.year).toList
  time := m.clock.text.toList
  zone := ['+', '0', '0', '0', '0']

end Moment

/-- All words of a date, in their order. -/
def MailWords.toList (w : MailWords) : List (List Char) :=
  [w.day, w.month, w.year, w.time, w.zone]

theorem toList_writeMailDate (m : Moment) :
    (writeMailDate m).toList = [' '].intercalate ((m.date.weekdayChars ++ [',']) :: m.mailWords.toList) := by
  have hcomma : ", ".toList = [',', ' '] := rfl
  have hspace : " ".toList = [' '] := rfl
  have hzone : " +0000".toList = [' ', '+', '0', '0', '0', '0'] := rfl
  show (shortName m.date.weekdayName ++ ", " ++ padded 2 m.date.day ++ " " ++ shortName m.date.monthName ++ " " ++
    padded 4 m.date.year ++ " " ++ (m.clock.text ++ " +0000")).toList = _
  simp only [String.toList_append, hcomma, hspace, hzone, Date.weekdayChars, Date.monthChars, Moment.mailWords,
    MailWords.toList, List.intercalate_cons_cons, List.intercalate_singleton, List.append_assoc, List.cons_append,
    List.nil_append]

theorem isWord_mailWords (m : Moment) : ∀ w ∈ m.mailWords.toList, IsWord w := by
  have hcolon : isBlank ':' = false := isBlank_of_toNat (by decide) (by decide)
  have hclock : IsWord m.clock.text.toList := by
    constructor
    · rw [Clock.toList_text]
      exact List.append_ne_nil_of_right_ne_nil _ (List.cons_ne_nil _ _)
    · exact m.clock.forall_mem_text (P := fun c => isBlank c = false) hcolon fun _ => isBlank_of_isDigit
  have hzone : IsWord ['+', '0', '0', '0', '0'] := isWord_of_all (List.cons_ne_nil _ _) (by decide)
  simp only [MailWords.toList, Moment.mailWords, List.forall_mem_cons]
  exact ⟨isWord_of_spells m.date.spells_day, m.date.isWord_month, isWord_of_spells m.date.spells_year, hclock, hzone,
    nofun⟩

/-- The words of a written date are the ones it was written with. -/
theorem wordsOf_writeMailDate (m : Moment) :
    wordsOf (writeMailDate m) = (m.date.weekdayChars ++ [',']) :: m.mailWords.toList := by
  unfold wordsOf
  rw [toList_writeMailDate]
  exact wordsFrom_intercalate (List.forall_mem_cons.mpr ⟨m.date.isWord_weekday, isWord_mailWords m⟩)

theorem read?_writeMailDate (m : Moment) : MailWords.read? (writeMailDate m) = some m.mailWords := by
  have hcomma : isWeekday (m.date.weekdayChars ++ [',']) = true := by
    unfold isWeekday
    rw [List.getLast?_concat]
    rfl
  have hempty : ∀ w ∈ m.mailWords.toList, w.isEmpty = false :=
    fun w hw => List.isEmpty_eq_false_iff.mpr (isWord_mailWords m w hw).ne_nil
  simp only [MailWords.toList, List.forall_mem_cons] at hempty
  obtain ⟨hday, hmonth, hyear, -⟩ := hempty
  have hsplit : splitZone (splitDate m.mailWords.toList) = m.mailWords.toList := rfl
  unfold MailWords.read?
  rw [wordsOf_writeMailDate, withoutWeekday, if_pos hcomma, hsplit]
  simp only [MailWords.toList, hday, hmonth, hyear, Bool.or_false, Bool.false_eq_true, if_false]

/-! ## Words in their places -/

/-- A text with no comma at its end stays as it is. -/
theorem withoutComma_of_not_mem {w : List Char} (h : ',' ∉ w) : withoutComma w = w := by
  unfold withoutComma
  rw [if_neg fun hlast => h (List.mem_of_getLast? hlast)]

theorem startsWithDigit_of_spells {s : List Char} {width n : Nat} (h : Spells s (width + 1) n) :
    startsWithDigit s = true := by
  obtain ⟨c, rest, rfl, hc⟩ := h.exists_cons
  show (isDecimalDigit c || _) = true
  rw [isDecimalDigit_of_isDigit hc]
  rfl

/-- The month is where a month should be. -/
theorem settleMonth?_mailWords (m : Moment) : m.mailWords.settleMonth? = some (m.mailWords, m.date.month) := by
  unfold MailWords.settleMonth? Moment.mailWords
  rw [m.date.monthOfWord?_monthChars]

/-- The year is where a year should be, for it has no colon and starts with a digit. -/
theorem settleYear?_mailWords (m : Moment) : m.mailWords.settleYear? = some m.mailWords := by
  have hspells := m.date.spells_year
  have hcolon : (padded 4 m.date.year).toList.contains ':' = false := by
    rw [List.contains_eq_mem]
    exact decide_eq_false (hspells.not_mem rfl)
  have hcomma := withoutComma_of_not_mem (hspells.not_mem (c := ',') rfl)
  have hempty : (padded 4 m.date.year).toList.isEmpty = false :=
    List.isEmpty_eq_false_iff.mpr (hspells.digits (by decide)).ne_nil
  have hstarts := startsWithDigit_of_spells hspells
  unfold MailWords.settleYear? Moment.mailWords
  simp only [hcolon, Bool.and_false, Bool.false_eq_true, if_false, hcomma, hempty, hstarts, if_true]

/-- A time is cut at its colons. -/
theorem timeWords?_mailWords (m : Moment) :
    timeWords? (withoutComma m.mailWords.time) =
      some ((padded 2 m.clock.hour).toList, (padded 2 m.clock.minute).toList, (padded 2 m.clock.second).toList) := by
  have hcomma : ',' ∉ m.clock.text.toList := fun hmem =>
    m.clock.forall_mem_text (P := fun d => d ≠ ',') (by decide) (fun _ h => ne_of_isDigit h rfl) _ hmem rfl
  unfold Moment.mailWords timeWords?
  rw [withoutComma_of_not_mem hcomma, splitOn_singleton, m.clock.toList_text,
    List.splitOn_append_cons_self_of_not_mem (m.clock.spells_hour.not_mem rfl),
    List.splitOn_append_cons_self_of_not_mem (m.clock.spells_minute.not_mem rfl),
    List.splitOn_eq_singleton (m.clock.spells_second.not_mem rfl)]

/-! ## Years -/

theorem isLeap_fullMailYear {year : Nat} (h : 1 ≤ year) : isLeap (fullMailYear year).toNat = isLeap year := by
  have hshort : ∀ year < 100, 1 ≤ year → isLeap (fullMailYear (year : Nat)).toNat = isLeap year := by decide
  by_cases hlt : year < 100
  · exact hshort year hlt h
  · have hle : (100 : Int) ≤ year := by omega
    rw [fullMailYear, if_pos hle, Int.toNat_natCast]

/-- A year of three digits or more stays, and one of less is from 1969 to 2068. -/
theorem fullMailYear_bounds {year : Nat} (hpos : 1 ≤ year) (hle : year ≤ 9999) :
    (fullMailYear year = year ∧ 100 ≤ year) ∨
      (year < 100 ∧ 1969 ≤ fullMailYear year ∧ fullMailYear year ≤ 2068) := by
  unfold fullMailYear
  split
  · exact Or.inl ⟨rfl, by omega⟩
  · split
    · exact Or.inr (by omega)
    · exact Or.inr (by omega)

theorem isDate_fullMailYear (d : Date) : IsDate (fullMailYear d.year).toNat d.month d.day := by
  have hbounds := d.inBounds
  have hyear := fullMailYear_bounds hbounds.year_pos hbounds.year_le
  have hlength : monthLength (fullMailYear d.year).toNat d.month = monthLength d.year d.month := by
    unfold monthLength
    rw [isLeap_fullMailYear hbounds.year_pos]
  have hle := hbounds.year_le
  refine Date.isDate_natCast.mpr ⟨by omega, by omega, hbounds.month_pos, hbounds.month_le, hbounds.day_pos, ?_⟩
  rw [hlength]
  exact hbounds.day_le

/-- The same day of the year that readers of header dates take the year for. -/
def Date.inMailYear (d : Date) : Date :=
  ⟨(fullMailYear d.year).toNat, d.month, d.day, isDate_fullMailYear d⟩

/-- The years from 100 on are the ones that are kept. -/
theorem Date.inMailYear_eq_iff {d : Date} : d.inMailYear = d ↔ 100 ≤ d.year := by
  have hyear := fullMailYear_bounds d.inBounds.year_pos d.inBounds.year_le
  constructor
  · intro h
    have hsame : (fullMailYear d.year).toNat = d.year := congrArg Date.year h
    omega
  · intro h
    refine Date.eq_of_parts ?_ rfl rfl
    show (fullMailYear d.year).toNat = d.year
    omega

/-! ## Numbers -/

/-- A number of few digits is read. -/
theorem wholeOf?_of_spells {s : List Char} {width n : Nat} (h : Spells s width n) (hpos : 0 < width)
    (hle : width ≤ mostDigits) : wholeOf? s = some (n : Int) := by
  have hfew : (s.filter isDecimalDigit).length ≤ s.length := List.length_filter_le _ _
  have hlength := h.length_eq
  unfold wholeOf?
  rw [if_neg (by omega), h.integer? hpos]

/-- A part of a date or of a time fits its word. -/
theorem checkPart_of_le {n : Nat} (h : n ≤ 9999) : (checkPart n).mapError MailDateError.overflow = .ok (n : Int) := by
  unfold checkPart
  rw [if_neg (by omega), if_neg (by omega), if_neg (by omega)]
  rfl

section Parts

variable (m : Moment)

theorem day_mailWords : wholeOf? (withoutComma m.mailWords.day) = some (m.date.day : Int) := by
  have hspells := m.date.spells_day
  unfold Moment.mailWords
  rw [withoutComma_of_not_mem (hspells.not_mem rfl), wholeOf?_of_spells hspells (by decide) (by decide)]

theorem year_mailWords : (wholeOf? m.mailWords.year).map fullMailYear = some (m.date.inMailYear.year : Int) := by
  have hyear := fullMailYear_bounds m.date.inBounds.year_pos m.date.inBounds.year_le
  have hvalue : (m.date.inMailYear.year : Int) = fullMailYear m.date.year := by
    show ((fullMailYear m.date.year).toNat : Int) = _
    omega
  unfold Moment.mailWords
  rw [wholeOf?_of_spells m.date.spells_year (by decide) (by decide), hvalue, Option.map_some]

theorem zone_mailWords : (offsetOfZone? m.mailWords.zone).mapM checkMailOffset = .ok (some 0) := by
  have hoffset : offsetOfZone? m.mailWords.zone = some 0 := by
    show offsetOfZone? ['+', '0', '0', '0', '0'] = some 0
    rfl
  rw [hoffset]
  rfl

end Parts

/-! ## Moments -/

/-- **A header date in whole seconds is read with every part that was written**, but for a year of less than three
digits. -/
theorem readMailDate_written {m : Moment} (hseconds : m.clock.IsSeconds) :
    readMailDate (writeMailDate m) = .ok ⟨⟨m.date.inMailYear, m.clock⟩, some 0⟩ := by
  have hbind : ∀ {α β : Type} (a : α) (f : α → Except MailDateError β), (Except.ok a >>= f) = f a := fun _ _ => rfl
  have htime := timeWords?_mailWords m
  have hhour := wholeOf?_of_spells m.clock.spells_hour (by decide) (by decide)
  have hminute := wholeOf?_of_spells m.clock.spells_minute (by decide) (by decide)
  have hsecond := wholeOf?_of_spells m.clock.spells_second (by decide) (by decide)
  obtain ⟨hh, hm, hs, -⟩ := m.clock.inBounds
  have hday : m.date.day ≤ 31 := m.date.inBounds.day_le.trans (monthLength_le _ _)
  have hclock : Clock.of m.clock.hour m.clock.minute m.clock.second 0 = .ok m.clock := by
    have hof := m.clock.of_parts
    rwa [hseconds] at hof
  have hdate : Date.of m.date.inMailYear.year m.date.month m.date.day = .ok m.date.inMailYear :=
    m.date.inMailYear.of_parts
  unfold readMailDate
  simp only [read?_writeMailDate, settleMonth?_mailWords, settleYear?_mailWords, htime, year_mailWords, day_mailWords,
    hhour, hminute, hsecond, zone_mailWords, orUnreadable, hbind]
  rw [checkPart_of_le m.date.inMailYear.inBounds.year_le, checkPart_of_le (by omega : m.date.day ≤ 9999),
    checkPart_of_le (by omega : m.clock.hour ≤ 9999), checkPart_of_le (by omega : m.clock.minute ≤ 9999),
    checkPart_of_le (by omega : m.clock.second ≤ 9999)]
  simp only [hbind, hdate, hclock]
  rfl

end Reckon.Calendar
