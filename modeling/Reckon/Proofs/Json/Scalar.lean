import Reckon.Json.Printer
import Reckon.Proofs.Json.Reading
import Reckon.Proofs.Number.Written

/-!
# `Proofs.Json.Scalar` — texts, numbers and words read back

What is printed for a text, a number or a word is read as that document again, whatever follows it; a
number must not go on.
-/

namespace Reckon.Json

open Lexer Number Text

/-! ## Texts -/

section Texts

variable {opening : Nat} {more : List Char}

theorem hexValue?_hexDigit (n : Nat) : hexValue? (hexDigit n) = some (n % 16) := by
  have hdigit : ∀ k < 16, hexValue? (Nat.digitChar k) = some k := by decide
  exact hdigit (n % 16) (Nat.mod_lt n (by decide))

/-- The four digits of a unit spell it. -/
theorem exists_escapeUnit {n : Nat} (h : n < 0x10000) :
    ∃ a b c d, escapeUnit n = ['\\', 'u', a, b, c, d] ∧ unit? a b c d = some n := by
  refine ⟨hexDigit (n / 16 / 16 / 16), hexDigit (n / 16 / 16), hexDigit (n / 16), hexDigit n, rfl, ?_⟩
  simp only [unit?, hexValue?_hexDigit]
  rw [Option.some_inj]
  omega

theorem toNat_lt (c : Char) : c.toNat < 0xD800 ∨ 0xDFFF < c.toNat ∧ c.toNat < 0x110000 :=
  c.valid

theorem loneChar_toNat (c : Char) : loneChar c.toNat = c := by
  have := toNat_lt c
  rw [loneChar, if_neg, Char.ofNat_toNat]
  simp only [Bool.and_eq_true, decide_eq_true_eq]
  omega

/-- A unit that starts no pair stands for itself. -/
theorem readString_escapeUnit {n : Nat} (h : n < 0x10000) (hlone : ¬(0xD800 ≤ n ∧ n < 0xDC00))
    (hmore : more ≠ []) :
    readString opening (escapeUnit n ++ more) = consRead (loneChar n) (readString opening more) := by
  obtain ⟨a, b, c, d, hunit, hspelled⟩ := exists_escapeUnit h
  rw [hunit]
  dsimp only [List.cons_append, List.nil_append]
  by_cases hpair : ∃ e f g h i rest, more = '\\' :: 'u' :: e :: f :: g :: h :: i :: rest
  · obtain ⟨e, f, g, h, i, rest, rfl⟩ := hpair
    rw [readString, hspelled]
    simp [hlone]
  · obtain ⟨e, rest, rfl⟩ := List.exists_cons_of_ne_nil hmore
    rw [readString, hspelled]
    rintro f g h i j rest' rfl rfl
    exact hpair ⟨f, g, h, i, j, rest', rfl⟩

theorem pairedChar?_eq {c : Char} {high low : Nat} (hhigh : 0xD800 ≤ high) (hhigh' : high < 0xDC00)
    (hlow : 0xDC00 ≤ low) (hlow' : low < 0xE000)
    (hcode : 0x10000 + (high - 0xD800) * 0x400 + (low - 0xDC00) = c.toNat) :
    pairedChar? high low = some c := by
  rw [pairedChar?, if_pos, hcode, Char.ofNat_toNat]
  simp only [Bool.and_eq_true, decide_eq_true_eq]
  exact ⟨⟨⟨hhigh, hhigh'⟩, hlow⟩, hlow'⟩

theorem readString_pair {c : Char} {high low : Nat} (hhigh : 0xD800 ≤ high ∧ high < 0xDC00)
    (hlow : low < 0x10000) (hpaired : pairedChar? high low = some c) (hmore : more ≠ []) :
    readString opening (escapeUnit high ++ (escapeUnit low ++ more)) =
      consRead c (readString opening more) := by
  obtain ⟨a₁, a₂, a₃, a₄, ha, hunit⟩ := exists_escapeUnit (show high < 0x10000 by omega)
  obtain ⟨b₁, b₂, b₃, b₄, hb, hunit'⟩ := exists_escapeUnit hlow
  obtain ⟨i, rest, rfl⟩ := List.exists_cons_of_ne_nil hmore
  rw [ha, hb]
  dsimp only [List.cons_append, List.nil_append]
  rw [readString, hunit]
  dsimp only
  rw [hunit']
  dsimp only
  rw [hpaired, if_pos]
  simp only [Bool.and_eq_true, decide_eq_true_eq]
  exact hhigh

/-- The units of a pair stand for one character. -/
theorem readString_escapePair {c : Char} (h : 0x10000 ≤ c.toNat) (hmore : more ≠ []) :
    readString opening (escapeUnit (0xD800 + (c.toNat - 0x10000) / 0x400) ++
        (escapeUnit (0xDC00 + (c.toNat - 0x10000) % 0x400) ++ more)) =
      consRead c (readString opening more) := by
  have hvalid := toNat_lt c
  refine readString_pair ⟨?_, ?_⟩ ?_ (pairedChar?_eq ?_ ?_ ?_ ?_ ?_) hmore <;> omega

theorem readString_plain {c : Char} (hquote : c ≠ '"') (hbackslash : c ≠ '\\')
    (hcontrol : ¬c.toNat < 0x20) :
    readString opening (c :: more) = consRead c (readString opening more) := by
  rw [readString]
  · rw [if_neg hcontrol]
  · exact hquote
  -- the other equations are about a backslash
  all_goals
    intros
    contradiction

/-- One character of a text is read back. -/
theorem readString_escapeChar (asciiOnly : Bool) (c : Char) (hmore : more ≠ []) :
    readString opening (escapeChar asciiOnly c ++ more) = consRead c (readString opening more) := by
  have hvalid := toNat_lt c
  have hcode : ∀ d : Char, c.toNat = d.toNat → c = d := by
    intro d h
    rw [← Char.ofNat_toNat c, h, Char.ofNat_toNat]
  have hunit : c.toNat < 0x10000 → readString opening (escapeUnit c.toNat ++ more) =
      consRead c (readString opening more) := by
    intro h
    rw [readString_escapeUnit h (by omega) hmore, loneChar_toNat]
  unfold escapeChar
  split
  · next h => rw [beq_iff_eq.mp h]; rfl
  split
  · next h => rw [beq_iff_eq.mp h]; rfl
  split
  · next h => rw [beq_iff_eq.mp h]; rfl
  split
  · next h => rw [beq_iff_eq.mp h]; rfl
  split
  · next h => rw [beq_iff_eq.mp h]; rfl
  split
  · next h => rw [hcode '\x0c' h]; rfl
  split
  · next h => rw [hcode '\x08' h]; rfl
  split
  · exact hunit (by omega)
  split
  · split
    · next h => exact hunit h
    · next h =>
      rw [List.append_assoc]
      exact readString_escapePair (by omega) hmore
  · next hquote hbackslash _ _ _ _ _ hcontrol _ =>
    exact readString_plain (fun h => hquote (beq_iff_eq.mpr h))
      (fun h => hbackslash (beq_iff_eq.mpr h)) hcontrol

/-- A text is read up to the quote that closes it. -/
theorem readString_flatMap (asciiOnly : Bool) (s rest : List Char) :
    readString opening (s.flatMap (escapeChar asciiOnly) ++ '"' :: rest) = .ok (s, rest) := by
  induction s with
  | nil => rfl
  | cons c s ih =>
    rw [List.flatMap_cons, List.append_assoc, readString_escapeChar asciiOnly c (by simp), ih]
    rfl

theorem toList_printString (asciiOnly : Bool) (s : String) (rest : List Char) :
    (printString asciiOnly s).toList ++ rest =
      '"' :: (s.toList.flatMap (escapeChar asciiOnly) ++ '"' :: rest) := by
  simp [printString]

/-- A text is read back from what is printed for it. -/
theorem readValue_string (allowance : Allowance) (asciiOnly : Bool) (s : String) (rest : List Char) :
    plain (readValue allowance ((printString asciiOnly s).toList ++ rest)) = .ok (.string s, rest) := by
  rw [toList_printString, readValue_quote, readString_flatMap]
  show Except.ok (string (String.ofList s.toList), rest) = _
  rw [String.ofList_toList]

end Texts

/-! ## Numbers -/

section Number

open Written

variable {w : Written} {rest : List Char}

theorem readWhole?_append {digits : List Char} (h : Digits digits)
    (hleading : digits = ['0'] ∨ digits.head? ≠ some '0') (hends : Ends Char.isDigit rest) :
    readWhole? (digits ++ rest) = some (digits, rest) := by
  obtain ⟨c, more, rfl, hdigit⟩ := h.exists_cons
  rcases hleading with hzero | hleading
  · cases hzero
    rfl
  · have hc : c ≠ '0' := fun hc => hleading (congrArg some hc)
    have hmore : ∀ d ∈ more, d.isDigit = true := fun d hd => h.all d (List.mem_cons_of_mem c hd)
    rw [List.cons_append, readWhole?, if_neg (by simp [hc]), if_pos hdigit,
      takeWhile_append_of_ends hmore hends, dropWhile_append_of_ends hmore hends]

theorem readFraction_append {fraction : Option (List Char)}
    (h : ∀ digits, fraction = some digits → Digits digits) (hends : Ends Char.isDigit rest)
    (hpoint : ∀ more, rest ≠ '.' :: more) :
    readFraction (fractionChars fraction ++ rest) = (fraction, rest) := by
  cases fraction with
  | none =>
    unfold readFraction
    split
    · next more heq => exact absurd heq (hpoint more)
    · rfl
  | some digits =>
    have hdigits := h digits rfl
    have hempty : digits.isEmpty = false := List.isEmpty_eq_false_iff.mpr hdigits.ne_nil
    simp only [fractionChars, List.cons_append, readFraction]
    rw [takeWhile_append_of_ends hdigits.all hends, dropWhile_append_of_ends hdigits.all hends,
      hempty, if_neg Bool.false_ne_true]

theorem exponentDigits_append {negative : Bool} {digits s : List Char} (h : Digits digits)
    (hends : Ends Char.isDigit rest) :
    exponentDigits negative s (digits ++ rest) = (scale (some (negative, digits)), rest) := by
  have hempty : digits.isEmpty = false := List.isEmpty_eq_false_iff.mpr h.ne_nil
  unfold exponentDigits
  dsimp only
  rw [takeWhile_append_of_ends h.all hends, dropWhile_append_of_ends h.all hends, hempty,
    if_neg Bool.false_ne_true]
  rfl

theorem readExponent_append {exponent : Option (Bool × List Char)}
    (h : ∀ negative digits, exponent = some (negative, digits) → Digits digits)
    (hends : Ends goesOn rest) :
    readExponent (exponentChars exponent ++ rest) = (scale exponent, rest) := by
  cases exponent with
  | none =>
    cases rest with
    | nil => rfl
    | cons c more =>
      have hc := ends_cons.mp hends
      simp only [goesOn, Bool.or_eq_false_iff] at hc
      show readExponent (c :: more) = _
      unfold readExponent
      dsimp only
      rw [hc.1.2, hc.2]
      rfl
  | some p =>
    obtain ⟨negative, digits⟩ := p
    have hdigits := h negative digits rfl
    cases negative <;> exact exponentDigits_append hdigits (ends_isDigit hends)

/-- The sign in front of a number, and the rest. -/
def signedText : List Char → Bool × List Char
  | '-' :: rest => (true, rest)
  | rest => (false, rest)

theorem readNumber?_eq (s : List Char) :
    readNumber? s = (readWhole? (signedText s).2).map fun p =>
      (⟨(signedText s).1, p.1, (readFraction p.2).1, (readExponent (readFraction p.2).2).1⟩,
        (readExponent (readFraction p.2).2).2) :=
  rfl

theorem signedText_chars (h : w.Proper) :
    signedText (w.chars ++ rest) = (w.negative, w.unsigned ++ rest) := by
  obtain ⟨c, more, hunsigned, hdigit⟩ := h.exists_unsigned
  unfold Written.chars
  cases w.negative with
  | true => rfl
  | false =>
    rw [if_neg Bool.false_ne_true, hunsigned]
    unfold signedText
    split
    · next hminus =>
      cases hminus
      cases hdigit
    · rfl

/-- A number in writing is read up to its end. -/
theorem readNumber?_chars (h : w.Proper) (hends : Ends goesOn rest) :
    readNumber? (w.chars ++ rest) =
      some (⟨w.negative, w.whole, w.fraction, scale w.exponent⟩, rest) := by
  have hpoint : ∀ more, exponentChars w.exponent ++ rest ≠ '.' :: more := by
    cases w.exponent with
    | none =>
      rintro more heq
      rw [show rest = '.' :: more from heq] at hends
      cases ends_cons.mp hends
    | some p => nofun
  rw [readNumber?_eq, signedText_chars h, unsigned, List.append_assoc, List.append_assoc]
  dsimp only
  rw [readWhole?_append h.whole h.leading (ends_fractionChars hends)]
  dsimp only [Option.map_some]
  rw [readFraction_append h.fraction (ends_exponentChars hends) hpoint,
    readExponent_append h.exponent hends]

/-- A digit comes first, or after a minus. -/
def startsNumber : List Char → Bool
  | '-' :: c :: _ => c.isDigit
  | c :: _ => c.isDigit
  | [] => false

theorem startsNumber_chars (h : w.Proper) : startsNumber (w.chars ++ rest) = true := by
  obtain ⟨c, more, hunsigned, hdigit⟩ := h.exists_unsigned
  unfold Written.chars
  rw [hunsigned]
  cases w.negative with
  | true => exact hdigit
  | false =>
    rw [if_neg Bool.false_ne_true]
    unfold startsNumber
    split
    · next hminus =>
      rw [(List.cons.inj hminus).1] at hdigit
      cases hdigit
    · next hother =>
      rw [← (List.cons.inj hother).1]
      exact hdigit
    · next hnil => cases hnil

theorem leadingWord?_of_startsNumber {s : List Char} (h : startsNumber s = true) :
    leadingWord? s = none := by
  have hwords : ∀ word ∈ words, ∀ more, startsNumber (word.1.toList ++ more) = false := by
    simp only [words, List.forall_mem_cons]
    exact ⟨fun _ => rfl, fun _ => rfl, fun _ => rfl, fun _ => rfl, fun _ => rfl, fun _ => rfl,
      List.forall_mem_nil _⟩
  rw [leadingWord?, List.findSome?_eq_none_iff]
  rintro ⟨word, d⟩ hword
  dsimp only
  rw [if_neg]
  intro hfront
  obtain ⟨more, rfl⟩ := List.isPrefixOf_iff_prefix.mp hfront
  rw [hwords _ hword more] at h
  cases h

variable (allowance : Allowance)

theorem readValue_of_startsNumber {s : List Char} (h : startsNumber s = true) {number : NumberText}
    (hread : readNumber? s = some (number, rest)) :
    plain (readValue allowance s) = number.document.map fun d => (d, rest) := by
  have hword := leadingWord?_of_startsNumber h
  cases s with
  | nil => cases h
  | cons c more =>
    have hother : ∀ d, (∀ more, startsNumber (d :: more) = false) → c ≠ d := by
      rintro d hd rfl
      rw [hd] at h
      cases h
    rw [readValue_other _ _ (hother '"' fun _ => rfl) (hother '\x7b' fun _ => rfl)
      (hother '[' fun _ => rfl), hword, hread]

theorem readValue_chars (h : w.Proper) (hends : Ends goesOn rest) :
    plain (readValue allowance (w.chars ++ rest)) =
      (NumberText.document ⟨w.negative, w.whole, w.fraction, scale w.exponent⟩).map
        fun d => (d, rest) :=
  readValue_of_startsNumber allowance (startsNumber_chars h) (readNumber?_chars h hends)

/-- A whole number as it is written. -/
def writtenInt (n : Int) : Written :=
  ⟨decide (n < 0), (Nat.repr n.natAbs).toList, none, none⟩

theorem proper_writtenInt (n : Int) : (writtenInt n).Proper where
  whole := digits_repr n.natAbs
  leading := by
    rcases Nat.eq_zero_or_pos n.natAbs with hzero | hpositive
    · rw [writtenInt, hzero]
      exact .inl rfl
    · exact .inr (head?_repr hpositive)
  fraction := nofun
  exponent := nofun

theorem toList_toString (n : Int) : (toString n).toList = (writtenInt n).chars := by
  cases n with
  | ofNat m =>
    show (Nat.repr m).toList = _
    simp [writtenInt, chars, unsigned, fractionChars, exponentChars]
  | negSucc m =>
    show ("-" ++ Nat.repr (m + 1)).toList = _
    simp [writtenInt, chars, unsigned, fractionChars, exponentChars]

theorem document_of_isWritable {n : Int} (h : isWritable n = true) :
    NumberText.document ⟨decide (n < 0), (Nat.repr n.natAbs).toList, none, none⟩ = .ok (.integer n) := by
  have hfew : ¬mostDigits < (Nat.repr n.natAbs).toList.length := by
    rw [String.length_toList]
    exact Nat.not_lt.mpr (of_decide_eq_true h)
  have hvalue : (if n < 0 then -(n.natAbs : Int) else n.natAbs) = n := by
    split <;> omega
  simp only [NumberText.document, Option.isNone_none, Bool.and_self, ↓reduceIte, hfew,
    natOfDigits_repr, decide_eq_true_eq, hvalue]

/-- A whole number that can be written is read back. -/
theorem readValue_integer {n : Int} (h : isWritable n = true) (hends : Ends goesOn rest) :
    plain (readValue allowance ((toString n).toList ++ rest)) = .ok (.integer n, rest) := by
  rw [toList_toString, readValue_chars allowance (proper_writtenInt n) hends]
  exact congrArg (Except.map _) (document_of_isWritable h)

theorem leadingWord?_append {word : String} {d : Json} (h : (word, d) ∈ words) :
    leadingWord? (word.toList ++ rest) = some (d, rest) := by
  have hwords : ∀ word ∈ words, leadingWord? (word.1.toList ++ rest) = some (word.2, rest) := by
    simp only [words, List.forall_mem_cons]
    exact ⟨rfl, rfl, rfl, rfl, rfl, rfl, List.forall_mem_nil _⟩
  exact hwords (word, d) h

theorem readValue_of_leadingWord? {s : List Char} {d : Json} (h : leadingWord? s = some (d, rest)) :
    plain (readValue allowance s) = .ok (d, rest) := by
  cases s with
  | nil => cases h
  | cons c more =>
    have hother : ∀ d, (∀ more, leadingWord? (d :: more) = none) → c ≠ d := by
      rintro d hd rfl
      rw [hd] at h
      cases h
    rw [readValue_other _ _ (hother '"' fun _ => rfl) (hother '\x7b' fun _ => rfl)
      (hother '[' fun _ => rfl), h]

theorem readValue_word {word : String} {d : Json} (h : (word, d) ∈ words) :
    plain (readValue allowance (word.toList ++ rest)) = .ok (d, rest) :=
  readValue_of_leadingWord? allowance (leadingWord?_append h)

/-- A number that reads back is read back from what is printed for it. -/
theorem readValue_real {x : Float} (h : ReadsBack x) (hends : Ends goesOn rest) :
    plain (readValue allowance ((printReal x).toList ++ rest)) = .ok (.real x, rest) := by
  by_cases hnan : x.isNaN = true
  · rw [show printReal x = "NaN" from if_pos hnan, eq_nan hnan]
    exact readValue_word allowance (by simp [words])
  by_cases hinf : x.isInf = true
  · rcases eq_infinity hinf with rfl | rfl
    · rw [show printReal (1.0 / 0.0) = "Infinity" by decide +kernel]
      exact readValue_word allowance (by simp [words])
    · rw [show printReal (-1.0 / 0.0) = "-Infinity" by decide +kernel]
      exact readValue_word allowance (by simp [words])
  obtain ⟨w, hproper, hpointed, htext, hvalue⟩ :=
    exists_written_value h (Bool.eq_false_iff.mpr hnan) (Bool.eq_false_iff.mpr hinf)
  have hprint : printReal x = String.ofList w.chars := by
    rw [printReal, if_neg hnan, if_neg hinf, htext]
  have hreal : (w.fraction.isNone && (scale w.exponent).isNone) = false := by
    revert hpointed
    cases w.fraction <;> cases w.exponent <;> simp [scale]
  rw [hprint, String.toList_ofList, readValue_chars allowance hproper hends, NumberText.document,
    if_neg]
  · rw [← hvalue]
    rfl
  · rw [hreal]
    exact Bool.false_ne_true

end Number

end Reckon.Json
