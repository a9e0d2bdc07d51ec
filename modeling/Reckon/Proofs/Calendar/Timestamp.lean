import Reckon.Calendar.Timestamp
import Reckon.Proofs.Calendar.Spelling

/-!
# `Proofs.Calendar.Timestamp` — timestamps are read back

A timestamp is written with a hyphen after the year and the month, and no weeks, so ten characters of it are the
date (`dateLength?_append`) and the reader takes the year, the month and the day off them (`readDate?_chars`). The
colons in the time are seen at the first one, and a fraction is there only if there are microseconds
(`readTime?_chars`). No character of the time begins an offset, so the time ends where the offset starts
(`readTimeAndOffset?_universal`), or at the end of the text (`readTimeAndOffset?_chars`).

Main statements: `readTimestamp?_written`, `readTimestamp?_local`.
-/

namespace Reckon.Calendar

open Number

/-! ## Digits -/

/-- The digits of a number are taken off the start of a text. -/
theorem readDigits?_append {s : List Char} {width n : Nat} (h : Spells s width n) (rest : List Char) :
    readDigits? width (s ++ rest) = some (n, rest) := by
  have hlength := h.length_eq
  have hdigits : s.all Char.isDigit = true := List.all_eq_true.mpr h.all
  have hvalue : s.foldl (fun n c => 10 * n + (c.toNat - '0'.toNat)) 0 = n := by
    rw [← h.value, natOfDigits_eq h.all]
    rfl
  unfold readDigits?
  subst hlength
  simp only [List.take_left, List.drop_left, hdigits, hvalue, and_self, if_true]

theorem readDigits?_all {s : List Char} {width n : Nat} (h : Spells s width n) :
    readDigits? width s = some (n, []) := by
  have hread := readDigits?_append h []
  rwa [List.append_nil] at hread

/-! ## Dates -/

/-- A day as a timestamp has it. -/
def Date.chars (d : Date) : List Char :=
  (padded 4 d.year).toList ++ '-' :: ((padded 2 d.month).toList ++ '-' :: (padded 2 d.day).toList)

namespace Date

theorem length_chars (d : Date) : d.chars.length = 10 := by
  have hyear := d.spells_year.length_eq
  have hmonth := d.spells_month.length_eq
  have hday := d.spells_day.length_eq
  unfold chars
  simp only [List.length_append, List.length_cons]
  omega

end Date

/-- The date is the first ten characters. -/
theorem dateLength?_append (d : Date) (rest : List Char) : dateLength? (d.chars ++ rest) = some 10 := by
  have hlength : (d.chars ++ rest).length ≠ 7 := by
    rw [List.length_append, d.length_chars]
    omega
  have hyear := d.spells_year.length_eq
  obtain ⟨c, more, hmonth, hc⟩ := d.spells_month.exists_cons
  have hhyphen : (d.chars ++ rest)[4]? = some '-' := by
    unfold Date.chars
    rw [List.append_assoc, List.getElem?_append_right (by omega), hyear]
    rfl
  have hweek : (d.chars ++ rest)[5]? ≠ some 'W' := by
    unfold Date.chars
    rw [List.append_assoc, List.getElem?_append_right (by omega), hyear, hmonth]
    intro h
    exact ne_of_isDigit hc rfl (Option.some.inj h)
  unfold dateLength?
  rw [if_neg hlength, if_pos hhyphen, if_neg hweek]

theorem readDate?_chars (d : Date) : readDate? d.chars = some d := by
  obtain ⟨c, more, hmonth, hc⟩ := d.spells_month.exists_cons
  have hweek : ((padded 2 d.month).toList ++ '-' :: (padded 2 d.day).toList).head? ≠ some 'W' := by
    rw [hmonth]
    intro h
    exact ne_of_isDigit hc rfl (Option.some.inj h)
  unfold readDate? Date.chars
  simp only [readDigits?_append d.spells_year, Option.bind_eq_bind, Option.bind_some, List.head?_cons, List.tail_cons,
    decide_true, if_true, if_neg hweek, readDigits?_append d.spells_month,
    readDigits?_all d.spells_day, d.of_parts]
  rfl

/-! ## Times -/

section Parts

variable {s t rest : List Char} {n k left : Nat} {colons : Option Bool}

/-- After a part and a colon comes the next part. -/
theorem readTimeFrom?_colon (h : Spells s 2 n) (hcolons : colons.getD true = true) (hrest : rest ≠ [])
    (parts : List Nat) :
    readTimeFrom? parts colons (left + 1) (s ++ ':' :: rest) =
      readTimeFrom? (parts ++ [n]) (some true) left rest := by
  obtain ⟨c, more, rfl⟩ := List.exists_cons_of_ne_nil hrest
  rw [readTimeFrom?, readDigits?_append h]
  simp only [Option.bind_eq_bind, Option.bind_some, beq_self_eq_true, hcolons, Bool.and_self, if_true]

/-- After the last part nothing is left. -/
theorem readTimeFrom?_end (h : Spells s 2 n) (parts : List Nat) :
    readTimeFrom? parts colons left s = some (.ofList (parts ++ [n]) 0, true) := by
  rw [readTimeFrom?, readDigits?_all h]
  rfl

/-- Six digits after a point are microseconds. -/
theorem readFraction?_spells (h : Spells t 6 k) (parts : List Nat) :
    readFraction? parts t = some (.ofList parts k, true) := by
  unfold readFraction?
  simp only [h.length_eq, Nat.min_self, readDigits?_all h, Option.bind_eq_bind, Option.bind_some, Nat.sub_self, Nat.pow_eq,
    Nat.pow_zero, Nat.mul_one]
  rfl

/-- After the last part a point can follow, with the fraction behind it. -/
theorem readTimeFrom?_point (h : Spells s 2 n) (ht : Spells t 6 k) (parts : List Nat) :
    readTimeFrom? parts (some true) left (s ++ '.' :: t) = some (.ofList (parts ++ [n]) k, true) := by
  obtain ⟨c, more, rfl, -⟩ := ht.exists_cons
  rw [readTimeFrom?, readDigits?_append h]
  exact readFraction?_spells ht (parts ++ [n])

end Parts

/-- The fraction of a second as a timestamp has it: nothing where there is none. -/
def Clock.fraction (c : Clock) : String :=
  if c.microsecond = 0 then "" else s!".{padded 6 c.microsecond}"

/-- A time of day as a timestamp has it. -/
def Clock.chars (c : Clock) : List Char :=
  c.text.toList ++ c.fraction.toList

theorem Clock.toList_fraction {c : Clock} (h : c.microsecond ≠ 0) :
    c.fraction.toList = '.' :: (padded 6 c.microsecond).toList := by
  unfold fraction
  rw [if_neg h]
  exact String.toList_append

theorem Clock.chars_eq (c : Clock) :
    c.chars = (padded 2 c.hour).toList ++ ':' :: ((padded 2 c.minute).toList ++
      ':' :: ((padded 2 c.second).toList ++ c.fraction.toList)) := by
  unfold chars
  rw [toList_text]
  simp only [List.append_assoc, List.cons_append]

/-- The seconds and the fraction end a time. -/
theorem readTimeFrom?_seconds (c : Clock) (parts : List Nat) :
    readTimeFrom? parts (some true) 0 ((padded 2 c.second).toList ++ c.fraction.toList) =
      some (.ofList (parts ++ [c.second]) c.microsecond, true) := by
  by_cases h : c.microsecond = 0
  · have hfraction : c.fraction = "" := if_pos h
    rw [hfraction, h, String.toList_empty, List.append_nil]
    exact readTimeFrom?_end c.spells_second parts
  · rw [Clock.toList_fraction h]
    exact readTimeFrom?_point c.spells_second c.spells_microsecond parts

/-- **A time of day is read back**, and nothing is left of its text. -/
theorem readTime?_chars (c : Clock) :
    readTime? c.chars = some (⟨c.hour, c.minute, c.second, c.microsecond⟩, true) := by
  obtain ⟨d, more, hsecond, -⟩ := c.spells_second.exists_cons
  rw [c.chars_eq, readTime?, readTimeFrom?_colon c.spells_hour rfl (by simp),
    readTimeFrom?_colon c.spells_minute rfl (by simp [hsecond]), readTimeFrom?_seconds]
  rfl

/-! ## Times and offsets -/

/-- No character of a time begins an offset. -/
theorem isOffsetMark_of_mem {c : Clock} {d : Char} (hd : d ∈ c.chars) : (!isOffsetMark d) = true := by
  have hdigit : ∀ d : Char, d.isDigit = true → (!isOffsetMark d) = true :=
    fun _ => forall_isDigit (P := fun d => (!isOffsetMark d) = true) (by decide)
  rcases List.mem_append.mp hd with hd | hd
  · exact c.forall_mem_text (P := fun d => (!isOffsetMark d) = true) rfl hdigit d hd
  · by_cases h : c.microsecond = 0
    · have hfraction : c.fraction = "" := if_pos h
      rw [hfraction] at hd
      cases hd
    · rw [Clock.toList_fraction h] at hd
      rcases List.mem_cons.mp hd with rfl | hd
      · rfl
      · exact hdigit d (c.spells_microsecond.all d hd)

/-- A time with no offset. -/
theorem readTimeAndOffset?_chars (c : Clock) :
    readTimeAndOffset? c.chars = some (⟨c.hour, c.minute, c.second, c.microsecond⟩, none) := by
  have htake : c.chars.takeWhile (!isOffsetMark ·) = c.chars :=
    List.takeWhile_eq_self_iff.mpr fun _ => isOffsetMark_of_mem
  have hdrop : c.chars.dropWhile (!isOffsetMark ·) = [] :=
    List.dropWhile_eq_nil_iff.mpr fun _ => isOffsetMark_of_mem
  unfold readTimeAndOffset?
  rw [htake, hdrop, readTime?_chars]
  rfl

/-- A time with the offset of universal time. -/
theorem readTimeAndOffset?_universal (c : Clock) :
    readTimeAndOffset? (c.chars ++ "+00:00".toList) =
      some (⟨c.hour, c.minute, c.second, c.microsecond⟩, some 0) := by
  have hmark : "+00:00".toList = '+' :: "00:00".toList := by decide
  have htake : (c.chars ++ "+00:00".toList).takeWhile (!isOffsetMark ·) = c.chars := by
    rw [List.takeWhile_append_of_pos fun _ => isOffsetMark_of_mem, hmark]
    exact List.append_nil _
  have hdrop : (c.chars ++ "+00:00".toList).dropWhile (!isOffsetMark ·) = '+' :: "00:00".toList := by
    rw [List.dropWhile_append_of_pos fun _ => isOffsetMark_of_mem, hmark]
    rfl
  have hoffset : readOffset? '+' "00:00".toList = some 0 := by cbv
  unfold readTimeAndOffset?
  rw [htake, hdrop, readTime?_chars]
  simp only [Option.bind_eq_bind, Option.bind_some, hoffset]
  rfl

/-! ## Timestamps -/

/-- A moment as a timestamp without an offset. -/
def Moment.localText (m : Moment) : String :=
  String.ofList (m.date.chars ++ 'T' :: m.clock.chars)

/-- A timestamp ends in the offset of universal time. -/
theorem writeTimestamp_eq (m : Moment) : writeTimestamp m = m.localText ++ "+00:00" := by
  have hhyphen : "-".toList = ['-'] := rfl
  have hcolon : ":".toList = [':'] := rfl
  have hT : "T".toList = ['T'] := rfl
  show padded 4 m.date.year ++ "-" ++ padded 2 m.date.month ++ "-" ++ padded 2 m.date.day ++ "T" ++
    m.clock.text ++ m.clock.fraction ++ "+00:00" = _
  rw [← String.toList_inj]
  simp only [Moment.localText, Clock.chars, Date.chars, String.toList_append, String.toList_ofList, hhyphen, hT,
    List.append_assoc, List.cons_append, List.nil_append]

/-- What follows the date decides what follows the reading of it. -/
theorem readTimestamp?_of_rest {text : String} {d : Date} {c : Clock} {rest : List Char} {offset : Option Int}
    (htext : text.toList = d.chars ++ 'T' :: rest)
    (hrest : readTimeAndOffset? rest = some (⟨c.hour, c.minute, c.second, c.microsecond⟩, offset)) :
    readTimestamp? text = some ⟨⟨d, c⟩, offset⟩ := by
  have hlong : ¬ (d.chars ++ 'T' :: rest).length < 7 := by
    rw [List.length_append, d.length_chars]
    omega
  unfold readTimestamp?
  simp only [htext, if_neg hlong, dateLength?_append, Option.bind_eq_bind, Option.bind_some,
    List.take_left' d.length_chars, List.drop_left' d.length_chars, readDate?_chars, hrest, c.of_parts]
  rfl

/-- **The timestamp of a moment is read back**, with the offset of universal time. -/
theorem readTimestamp?_written (m : Moment) : readTimestamp? (writeTimestamp m) = some ⟨m, some 0⟩ := by
  refine readTimestamp?_of_rest ?_ (readTimeAndOffset?_universal m.clock)
  rw [writeTimestamp_eq, String.toList_append, Moment.localText, String.toList_ofList, List.append_assoc]
  rfl

/-- **Without its offset the timestamp is read back as well**, and no offset is made up for it. -/
theorem readTimestamp?_local (m : Moment) : readTimestamp? m.localText = some ⟨m, none⟩ :=
  readTimestamp?_of_rest String.toList_ofList (readTimeAndOffset?_chars m.clock)

end Reckon.Calendar
