import Reckon.Proofs.Calendar.MailDate
import Reckon.Proofs.Calendar.Reading
import Reckon.Proofs.Calendar.Timestamp
import Reckon.Proofs.Library.Moments

/-!
# `Proofs.Library.DateTexts` — moments as texts and back

There are three ways to write a moment as a text and to read it again. What is read is told by `Reread`, in numbers
on both sides; a number names the moment that it is rounded to, so it does not matter which one is written.

  * Timestamps keep every moment, and nothing but their offset can be missing (`timestamp_reread`).
  * Header dates keep the moments in whole seconds from year 100 on. A year before that has less than three digits
    without its zeros, and the reader takes it for a year of this century or the last (`mailDate_reread`).
  * The usual layouts keep times of day, and days from year 1000 on. A year before that is written in less than the
    four digits that are read, so these texts are refused (`usualLayouts_reread`).
-/

namespace Reckon.Library

open Reckon.Calendar Reckon.Number

/-- However the moment `m` is given as a number, it is written as `text`, and this is read as the number of `m'`. -/
structure Reread (write read : Value → Except Failure Value) (m : Moment) (text : String) (m' : Moment) : Prop where
  named : momentOf (momentValue m) = .ok m
  written : ∀ v, momentOf v = .ok m → write v = .ok (.string text)
  read : read (.string text) = .ok (momentValue m')

variable {m : Moment}

/-- Moments of whole milliseconds have different numbers. -/
theorem momentValue_inj {a b : Moment} (ha : a.clock.IsWhole) (hb : b.clock.IsWhole)
    (h : momentValue a = momentValue b) : a = b := by
  have hread := momentOf_momentValue ha
  rw [h, momentOf_momentValue hb] at hread
  exact (Except.ok.inj hread).symm

/-! ## Moments with an offset -/

/-- Only the first day of the calendar has no day before it. -/
theorem zonedMomentOf_of_momentOf {v : Value} (h : momentOf v = .ok m) (hyear : 1 < m.date.year) :
    zonedMomentOf v = .ok m := by
  have hfirst : daysOfYears 1 ≤ daysBeforeYear m.date.year := daysOfYears_mono (by omega)
  have hpos : 0 < daysOfYears 1 := by decide
  have hordinal : m.date.ordinal ≠ 0 := by
    rw [Date.ordinal]
    omega
  unfold zonedMomentOf
  rw [h]
  exact if_neg hordinal

/-- A moment with the offset of universal time is read as it is. -/
theorem universalValue_zero (m : Moment) : universalValue ⟨m, some 0⟩ = .ok (momentValue m) := by
  unfold universalValue
  rw [Moment.universal?_of_offset_zero]

/-! ## Timestamps -/

theorem toTimestamp_of_momentOf {v : Value} (h : momentOf v = .ok m) (hyear : 1 < m.date.year) :
    toTimestamp v = .ok (.string (writeTimestamp m)) := by
  unfold toTimestamp
  rw [zonedMomentOf_of_momentOf h hyear]
  rfl

theorem ofTimestamp_of_read {text : String} {stamp : Stamp} (h : readTimestamp? text = some stamp) :
    ofTimestamp (.string text) =
      if stamp.offset.isNone then .error (.custom s!"missing offset in RFC 3339 date: {text}")
      else universalValue stamp := by
  unfold ofTimestamp stringOf
  dsimp only [Bind.bind, Except.bind]
  rw [h]

theorem ofTimestamp_written (m : Moment) : ofTimestamp (.string (writeTimestamp m)) = .ok (momentValue m) :=
  (ofTimestamp_of_read (readTimestamp?_written m)).trans (universalValue_zero m)

theorem ofTimestamp_local (m : Moment) :
    ofTimestamp (.string m.localText) = .error (.custom s!"missing offset in RFC 3339 date: {m.localText}") :=
  (ofTimestamp_of_read (readTimestamp?_local m)).trans (if_pos rfl)

/-- What timestamps do for a moment. -/
structure TimestampKept (m : Moment) : Prop where
  reread : Reread toTimestamp ofTimestamp m (writeTimestamp m) m
  stamp : ∃ s, readTimestamp? (writeTimestamp m) = some s ∧ s.universal? = some m
  told : ∀ other, writeTimestamp other = writeTimestamp m → other = m
  cut : ∃ front, writeTimestamp m = front ++ "+00:00" ∧
    ofTimestamp (.string front) = .error (.custom s!"missing offset in RFC 3339 date: {front}")

/-- **Main theorem.** A moment of whole milliseconds is read back from its timestamp, no other moment has the same
one, and without its offset the timestamp is refused. -/
theorem timestamp_reread (m : Moment) (hwhole : m.clock.IsWhole) (hyear : 1 < m.date.year) : TimestampKept m where
  reread := {
    named := momentOf_momentValue hwhole
    written := fun _ h => toTimestamp_of_momentOf h hyear
    read := ofTimestamp_written m }
  stamp := ⟨⟨m, some 0⟩, readTimestamp?_written m, m.universal?_of_offset_zero⟩
  told other h := by
    have hread := readTimestamp?_written other
    rw [h, readTimestamp?_written] at hread
    exact (congrArg Stamp.moment (Option.some.inj hread)).symm
  cut := ⟨m.localText, writeTimestamp_eq m, ofTimestamp_local m⟩

/-- The last millisecond of year 2, which is no whole number of seconds. -/
theorem timestamp_reread_early : TimestampKept ⟨⟨2, 12, 31, by decide⟩, ⟨23, 59, 59, 999000, by decide⟩⟩ :=
  timestamp_reread ⟨⟨2, 12, 31, by decide⟩, ⟨23, 59, 59, 999000, by decide⟩⟩ (by decide) (by decide)

/-! ## Header dates -/

theorem toMailDate_of_momentOf {v : Value} (h : momentOf v = .ok m) (hyear : 1 < m.date.year) :
    toMailDate v = .ok (.string (writeMailDate m)) := by
  unfold toMailDate
  rw [zonedMomentOf_of_momentOf h hyear]
  rfl

theorem ofMailDate_of_read {text : String} {stamp : Stamp} (h : readMailDate text = .ok stamp) :
    ofMailDate (.string text) = universalValue stamp := by
  unfold ofMailDate stringOf
  dsimp only [Bind.bind, Except.bind]
  rw [h]

theorem ofMailDate_written (hseconds : m.clock.IsSeconds) :
    ofMailDate (.string (writeMailDate m)) = .ok (momentValue ⟨m.date.inMailYear, m.clock⟩) :=
  (ofMailDate_of_read (readMailDate_written hseconds)).trans (universalValue_zero ⟨m.date.inMailYear, m.clock⟩)

theorem reread_mailDate (hseconds : m.clock.IsSeconds) (hyear : 1 < m.date.year) :
    Reread toMailDate ofMailDate m (writeMailDate m) ⟨m.date.inMailYear, m.clock⟩ where
  named := momentOf_momentValue hseconds.isWhole
  written _ h := toMailDate_of_momentOf h hyear
  read := ofMailDate_written hseconds

/-- **Main theorem.** A moment in whole seconds is read back from its header date from year 100 on. In an earlier
year the same day and time of another year are read, from 1969 to 2068. -/
theorem mailDate_reread (m : Moment) (hseconds : m.clock.IsSeconds) (hyear : 1 < m.date.year) :
    (100 ≤ m.date.year → Reread toMailDate ofMailDate m (writeMailDate m) m) ∧
    (m.date.year < 100 → ∃ later : Date, later.year = m.date.year + (if 68 < m.date.year then 1900 else 2000) ∧
      later.month = m.date.month ∧ later.day = m.date.day ∧
      Reread toMailDate ofMailDate m (writeMailDate m) ⟨later, m.clock⟩) := by
  have hreread := reread_mailDate hseconds hyear
  constructor
  · intro hlong
    rwa [Date.inMailYear_eq_iff.mpr hlong] at hreread
  · intro hshort
    refine ⟨m.date.inMailYear, ?_, rfl, rfl, hreread⟩
    show (fullMailYear m.date.year).toNat = _
    unfold fullMailYear
    split
    · omega
    · split <;> split <;> omega

/-- New Year 100 is read back, and New Year 99 is read as New Year 1999. -/
theorem mailDate_reread_century :
    Reread toMailDate ofMailDate (.startOf ⟨100, 1, 1, by decide⟩) (writeMailDate (.startOf ⟨100, 1, 1, by decide⟩))
        (.startOf ⟨100, 1, 1, by decide⟩) ∧
      ∃ later : Date, later.year = 99 + (if 68 < 99 then 1900 else 2000) ∧ later.month = 1 ∧ later.day = 1 ∧
        Reread toMailDate ofMailDate (.startOf ⟨99, 1, 1, by decide⟩) (writeMailDate (.startOf ⟨99, 1, 1, by decide⟩))
          ⟨later, .midnight⟩ :=
  ⟨(mailDate_reread (.startOf ⟨100, 1, 1, by decide⟩) (by decide) (by decide)).1 (by decide),
    (mailDate_reread (.startOf ⟨99, 1, 1, by decide⟩) (by decide) (by decide)).2 (by decide)⟩

/-- New Year 99 is not read back. -/
theorem century_lost :
    ¬ ∃ text, Reread toMailDate ofMailDate (.startOf ⟨99, 1, 1, by decide⟩) text (.startOf ⟨99, 1, 1, by decide⟩) := by
  rintro ⟨text, h⟩
  have htext := toMailDate_of_momentOf h.named (by decide)
  rw [h.written _ h.named] at htext
  have hread := h.read
  rw [Value.string.inj (Except.ok.inj htext), ofMailDate_written (by decide)] at hread
  have hsame := momentValue_inj (by decide) (by decide) (Except.ok.inj hread)
  exact absurd (congrArg (·.date.year) hsame) (by decide)

/-! ## The usual layouts -/

theorem writtenBy_of_momentOf {v : Value} (h : momentOf v = .ok m) (layout : String) :
    writtenBy (.string layout) v = .ok (.string (layOut layout m)) := by
  unfold writtenBy
  rw [h]
  rfl

theorem stampOf_of_read {text layout : String} {stamp : Stamp} (h : readBy layout text = .ok stamp) :
    stampOf layout (.string text) none = .ok stamp := by
  unfold stampOf stringOf stringOr
  dsimp only [Bind.bind, Except.bind]
  rw [h]
  rfl

theorem stampOf_of_mismatch {text layout : String} (h : readBy layout text = .error (.mismatch text layout)) :
    stampOf layout (.string text) none = .error (.custom (ReadingError.mismatch text layout).message) := by
  unfold stampOf stringOf stringOr
  dsimp only [Bind.bind, Except.bind]
  rw [h]

/-- What the usual layouts do for a moment. -/
structure UsualLayouts (m : Moment) : Prop where
  clock : Reread (writtenBy (.string "%H:%M:%S")) (textToTime · none) m (layOut "%H:%M:%S" m) ⟨.epoch, m.clock⟩
  date : 1000 ≤ m.date.year →
    Reread (writtenBy (.string "%Y-%m-%d")) (textToDate · none) m (layOut "%Y-%m-%d" m) (.startOf m.date)
  moment : 1000 ≤ m.date.year → Reread (writtenBy (.string "%Y-%m-%d %H:%M:%S")) (textToMoment · none) m
    (layOut "%Y-%m-%d %H:%M:%S" m) m
  shortDate : m.date.year < 1000 → textToDate (.string (layOut "%Y-%m-%d" m)) none =
    .error (.custom (ReadingError.mismatch (layOut "%Y-%m-%d" m) "%Y-%m-%d").message)
  shortMoment : m.date.year < 1000 → textToMoment (.string (layOut "%Y-%m-%d %H:%M:%S" m)) none =
    .error (.custom (ReadingError.mismatch (layOut "%Y-%m-%d %H:%M:%S" m) "%Y-%m-%d %H:%M:%S").message)

/-- **Main theorem.** A moment in whole seconds is read back by the layouts that the readers have for themselves, from
year 1000 on; its time of day always is, and its day and time before year 1000 are refused. -/
theorem usualLayouts_reread (m : Moment) (hseconds : m.clock.IsSeconds) : UsualLayouts m := by
  have hnamed := momentOf_momentValue hseconds.isWhole
  exact {
    clock := {
      named := hnamed
      written := fun _ h => writtenBy_of_momentOf h "%H:%M:%S"
      read := by
        unfold textToTime
        rw [stampOf_of_read (readBy_clock hseconds)]
        rfl }
    date := fun hyear => {
      named := hnamed
      written := fun _ h => writtenBy_of_momentOf h "%Y-%m-%d"
      read := by
        unfold textToDate
        rw [stampOf_of_read (readBy_date hyear)]
        rfl }
    moment := fun hyear => {
      named := hnamed
      written := fun _ h => writtenBy_of_momentOf h "%Y-%m-%d %H:%M:%S"
      read := by
        unfold textToMoment
        rw [stampOf_of_read (readBy_moment hseconds hyear)]
        rfl }
    shortDate := fun hyear => by
      unfold textToDate
      rw [stampOf_of_mismatch (readBy_date_of_short_year hyear)]
      rfl
    shortMoment := fun hyear => by
      unfold textToMoment
      rw [stampOf_of_mismatch (readBy_moment_of_short_year hyear)]
      rfl }

/-- Noon of a leap day. -/
theorem usualLayouts_reread_noon : UsualLayouts ⟨⟨2024, 2, 29, by decide⟩, ⟨12, 0, 0, 0, by decide⟩⟩ :=
  usualLayouts_reread ⟨⟨2024, 2, 29, by decide⟩, ⟨12, 0, 0, 0, by decide⟩⟩ (by decide)

/-- New Year 999 is not read back. -/
theorem short_year_refused :
    ¬ ∃ text, Reread (writtenBy (.string "%Y-%m-%d")) (textToDate · none) (.startOf ⟨999, 1, 1, by decide⟩) text
      (.startOf ⟨999, 1, 1, by decide⟩) := by
  rintro ⟨text, h⟩
  have htext := writtenBy_of_momentOf h.named "%Y-%m-%d"
  rw [h.written _ h.named] at htext
  have hread : (stampOf "%Y-%m-%d" (.string text) none >>= fun stamp =>
      Except.ok (momentValue (.startOf stamp.moment.date))) = _ := h.read
  rw [Value.string.inj (Except.ok.inj htext), stampOf_of_mismatch (readBy_date_of_short_year (by decide))] at hread
  cases hread

end Reckon.Library
