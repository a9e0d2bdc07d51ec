import Reckon.Proofs.Number.Written

/-!
# `Proofs.Number.Padded` — numbers in a fixed number of digits

A number written with zeros in front has the width that was asked for, unless it has more digits of its own; it has
no character but digits, and the zeros do not count (`spells_padded`). What a reader of digits makes of a text
depends on no more than this (`Spells`).
-/

namespace Reckon.Number

open Text

/-- A text of so many digits, which spell a number. -/
structure Spells (s : List Char) (width n : Nat) : Prop where
  length_eq : s.length = width
  all : ∀ c ∈ s, c.isDigit = true
  value : natOfDigits s = n

variable {s : List Char} {width n : Nat}

/-! ## Zeros in front -/

theorem natOfDigits_zeros_append (k : Nat) (s : List Char) :
    natOfDigits (List.replicate k '0' ++ s) = natOfDigits s := by
  induction k with
  | zero => rfl
  | succ k ih =>
    rw [List.replicate_succ, List.cons_append]
    exact ih

theorem toList_padded (width n : Nat) :
    (padded width n).toList = List.replicate (width - (Nat.repr n).length) '0' ++ (Nat.repr n).toList := by
  unfold padded
  rw [String.toList_append, String.toList_ofList]

/-- **A number is written in as many digits as were asked for, if it has no more.** -/
theorem spells_padded (hpos : 0 < width) (hlt : n < 10 ^ width) : Spells (padded width n).toList width n where
  length_eq := by
    have hle : (Nat.repr n).length ≤ width := (Nat.length_repr_le_iff hpos).mpr hlt
    rw [toList_padded, List.length_append, List.length_replicate, String.length_toList]
    omega
  all := (digits_padded width n).all
  value := by rw [toList_padded, natOfDigits_zeros_append, natOfDigits_repr]

/-- A number with as many digits of its own is written as it is. -/
theorem padded_eq_repr (h : width ≤ (Nat.repr n).length) : padded width n = Nat.repr n := by
  rw [← String.toList_inj, toList_padded, Nat.sub_eq_zero_of_le h]
  rfl

/-! ## Digits, one by one -/

/-- A digit is told by its value. -/
theorem eq_digitChar {c : Char} (h : c.isDigit = true) : c = Nat.digitChar (c.toNat - '0'.toNat) := by
  have hchar : ∀ k < 10, Nat.digitChar k = Char.ofNat (k + '0'.toNat) := by decide
  have hlow : '0'.toNat ≤ c.toNat := by
    simp only [Char.isDigit, Bool.and_eq_true, decide_eq_true_eq] at h
    exact UInt32.le_iff_toNat_le.mp h.1
  rw [hchar _ (toNat_sub_lt_of_isDigit h), Nat.sub_add_cancel hlow, Char.ofNat_toNat]

/-- What holds of the ten digits holds of every digit. -/
theorem forall_isDigit {P : Char → Prop} (h : ∀ k < 10, P (Nat.digitChar k)) {c : Char} (hc : c.isDigit = true) :
    P c := by
  rw [eq_digitChar hc]
  exact h _ (toNat_sub_lt_of_isDigit hc)

/-- Of two digits the one with the greater value is the later character. -/
theorem digitChar_le_digitChar : ∀ j < 10, ∀ k < 10, j ≤ k → Nat.digitChar j ≤ Nat.digitChar k := by
  decide

theorem ne_of_isDigit {c d : Char} (hc : c.isDigit = true) (hd : d.isDigit = false) : c ≠ d := by
  rintro rfl
  rw [hc] at hd
  cases hd

theorem isDecimalDigit_of_isDigit {c : Char} (h : c.isDigit = true) : isDecimalDigit c = true := by
  rw [isDecimalDigit, digitValue?_of_isDigit h]
  rfl

theorem isDigit_digitChar : ∀ k < 10, (Nat.digitChar k).isDigit = true := by
  decide

theorem isDecimalDigit_digitChar {k : Nat} (h : k < 10) : isDecimalDigit (Nat.digitChar k) = true :=
  isDecimalDigit_of_isDigit (isDigit_digitChar k h)

theorem isBlank_space : isBlank ' ' = true := by
  simp [isBlank, blanks, CodePoints.contains, CodePoints.interval?, CodePoints.bisect]

/-- Between the space and the first line end beyond ASCII no character is blank. -/
theorem isBlank_of_toNat {c : Char} (hlow : 0x20 < c.toNat) (hhigh : c.toNat < 0x85) : isBlank c = false := by
  have hmiddle : c.toNat < 0x2000 := by omega
  have hfirst : ¬ c.toNat < 0x1C := by omega
  simp [isBlank, blanks, CodePoints.contains, CodePoints.interval?, CodePoints.bisect, hmiddle, hhigh, hlow, hfirst]

theorem isBlank_of_isDigit {c : Char} (h : c.isDigit = true) : isBlank c = false := by
  obtain ⟨hlow, hhigh⟩ : 0x20 < c.toNat ∧ c.toNat < 0x85 :=
    forall_isDigit (P := fun c => 0x20 < c.toNat ∧ c.toNat < 0x85) (by decide) h
  exact isBlank_of_toNat hlow hhigh

namespace Spells

theorem digits (h : Spells s width n) (hpos : 0 < width) : Digits s where
  ne_nil := by
    rintro rfl
    have hlength := h.length_eq
    rw [List.length_nil] at hlength
    omega
  all := h.all

theorem not_mem (h : Spells s width n) {c : Char} (hc : c.isDigit = false) : c ∉ s :=
  fun hmem => ne_of_isDigit (h.all c hmem) hc rfl

theorem exists_cons (h : Spells s (width + 1) n) : ∃ c rest, s = c :: rest ∧ c.isDigit = true :=
  (h.digits (Nat.succ_pos _)).exists_cons

/-- Two digits count tens and ones. -/
theorem exists_pair (h : Spells s 2 n) : ∃ tens < 10, ∃ ones < 10,
    s = [Nat.digitChar tens, Nat.digitChar ones] ∧ n = 10 * tens + ones := by
  obtain ⟨a, b, rfl⟩ := List.length_eq_two.mp h.length_eq
  have ha := h.all a (by simp)
  have hb := h.all b (by simp)
  have hvalue := h.value
  simp only [natOfDigits, List.foldl_cons, List.foldl_nil, digitValue?_of_isDigit ha, digitValue?_of_isDigit hb,
    Option.getD_some] at hvalue
  refine ⟨_, toNat_sub_lt_of_isDigit ha, _, toNat_sub_lt_of_isDigit hb, ?_, by omega⟩
  rw [← eq_digitChar ha, ← eq_digitChar hb]

end Spells

/-! ## Whole numbers -/

theorem signed_of_isDigit {c : Char} {rest : List Char} (h : c.isDigit = true) :
    signed (c :: rest) = (false, c :: rest) := by
  unfold signed
  split
  · next heq => exact absurd (List.cons.inj heq).1 (ne_of_isDigit h rfl)
  · next heq => exact absurd (List.cons.inj heq).1 (ne_of_isDigit h rfl)
  · rfl

theorem lowLinesBetweenDigits_of_digits {previous : Char} (hprevious : previous ≠ '_')
    (h : ∀ c ∈ s, c.isDigit = true) : lowLinesBetweenDigits previous s = true := by
  induction s generalizing previous with
  | nil => exact bne_iff_ne.mpr hprevious
  | cons c rest ih =>
    have hc : c ≠ '_' := ne_of_isDigit (h c List.mem_cons_self) rfl
    rw [lowLinesBetweenDigits, beq_false_of_ne hc, bne_iff_ne.mpr hprevious]
    exact ih hc fun d hd => h d (List.mem_cons_of_mem c hd)

theorem integer?_eq (text : String) :
    integer? text =
      let p := signed (numeralCore text)
      let digits := p.2.filter (· != '_')
      if digits.isEmpty || !digits.all Char.isDigit || !lowLinesBetweenDigits ' ' p.2 then none
      else some (if p.1 then -(natOfDigits digits : Int) else natOfDigits digits) :=
  rfl

/-- **Digits are read as the whole number that they spell.** -/
theorem Spells.integer? (h : Spells s width n) (hpos : 0 < width) :
    integer? (String.ofList s) = some (n : Int) := by
  have hplain : s.filter (· != '_') = s := by
    rw [List.filter_eq_self]
    exact fun c hc => bne_iff_ne.mpr (ne_of_isDigit (h.all c hc) rfl)
  have hall : s.all Char.isDigit = true := List.all_eq_true.mpr h.all
  have hlines : lowLinesBetweenDigits ' ' s = true := lowLinesBetweenDigits_of_digits (by decide) h.all
  have hempty : s.isEmpty = false := List.isEmpty_eq_false_iff.mpr (h.digits hpos).ne_nil
  have hsigned : signed s = (false, s) := by
    obtain ⟨c, rest, rfl, hc⟩ := (h.digits hpos).exists_cons
    exact signed_of_isDigit hc
  rw [integer?_eq, numeralCore_of_bare fun c hc => bare_of_isDigit (h.all c hc), hsigned]
  dsimp only
  rw [hplain, hall, hlines, hempty, h.value]
  rfl

end Reckon.Number
