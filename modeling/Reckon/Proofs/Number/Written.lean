import Reckon.Number.Format
import Reckon.Number.Numeral
import Reckon.Proofs.Number.Digits
import Reckon.Proofs.Number.Special
import Reckon.Proofs.Token.Lexeme

/-!
# `Proofs.Number.Written` — numbers as they are written

A number is written as a sign, digits, perhaps a point and more digits, and perhaps an exponent. Every
finite number is written so by `decimalText`, with a point or an exponent, and `number?` reads it as the
value of what is written. Whether that is the number itself again is another matter: `ReadsBack` says so.
-/

namespace Reckon.Number

open Lexer Text

/-- At least one digit, and nothing else. -/
structure Digits (s : List Char) : Prop where
  ne_nil : s ≠ []
  all : ∀ c ∈ s, c.isDigit = true

/-- A number in writing. -/
structure Written where
  negative : Bool
  whole : List Char
  /-- the digits after a point, if there is one -/
  fraction : Option (List Char)
  /-- the sign and the digits of an exponent, if there is one -/
  exponent : Option (Bool × List Char)

namespace Written

/-- The characters of a fraction. -/
def fractionChars : Option (List Char) → List Char
  | none => []
  | some digits => '.' :: digits

/-- The characters of an exponent. -/
def exponentChars : Option (Bool × List Char) → List Char
  | none => []
  | some (negative, digits) => 'e' :: (if negative then '-' else '+') :: digits

/-- The characters without the sign. -/
def unsigned (w : Written) : List Char :=
  w.whole ++ (fractionChars w.fraction ++ exponentChars w.exponent)

def chars (w : Written) : List Char :=
  if w.negative then '-' :: w.unsigned else w.unsigned

/-- The exponent as a number. -/
def scale : Option (Bool × List Char) → Option Int
  | none => none
  | some (negative, digits) =>
    let n : Int := natOfDigits digits
    some (if negative then -n else n)

/-- The number that is written. -/
def value (w : Written) : Float :=
  let x := Numeral.value ⟨w.whole, w.fraction.getD [], (scale w.exponent).getD 0⟩
  if w.negative then -x else x

/-- There are digits wherever there have to be, and no zero in front of others. -/
structure Proper (w : Written) : Prop where
  whole : Digits w.whole
  leading : w.whole = ['0'] ∨ w.whole.head? ≠ some '0'
  fraction : ∀ digits, w.fraction = some digits → Digits digits
  exponent : ∀ negative digits, w.exponent = some (negative, digits) → Digits digits

end Written

/-! ## Reading what is written -/

/-- The characters that a number can go on with. -/
def goesOn (c : Char) : Bool :=
  c.isDigit || c == '.' || c == 'e' || c == 'E'

theorem Digits.exists_cons {s : List Char} (h : Digits s) :
    ∃ c rest, s = c :: rest ∧ c.isDigit = true := by
  cases s with
  | nil => exact absurd rfl h.ne_nil
  | cons c rest => exact ⟨c, rest, rfl, h.all c List.mem_cons_self⟩

theorem ends_isDigit {rest : List Char} (h : Ends goesOn rest) : Ends Char.isDigit rest := by
  intro c hc
  have hgoesOn := h c hc
  simp only [goesOn, Bool.or_eq_false_iff] at hgoesOn
  exact hgoesOn.1.1.1

namespace Written

variable {fraction : Option (List Char)} {exponent : Option (Bool × List Char)} {rest : List Char}

theorem ends_exponentChars (h : Ends goesOn rest) :
    Ends Char.isDigit (exponentChars exponent ++ rest) := by
  cases exponent with
  | none => exact ends_isDigit h
  | some p => exact ends_cons.mpr rfl

theorem ends_fractionChars (h : Ends goesOn rest) :
    Ends Char.isDigit (fractionChars fraction ++ (exponentChars exponent ++ rest)) := by
  cases fraction with
  | none => exact ends_exponentChars h
  | some digits => exact ends_cons.mpr rfl

end Written

section Number

variable {w : Written}

/-- A character that is not changed before a number is read. -/
def Bare (c : Char) : Prop :=
  c.val < 128 ∧ isAsciiBlank c = false ∧ c ≠ '_'

instance (c : Char) : Decidable (Bare c) := by
  unfold Bare
  infer_instance

theorem bare_of_isDigit {c : Char} (h : c.isDigit = true) : Bare c := by
  simp only [Char.isDigit, Bool.and_eq_true, decide_eq_true_eq] at h
  have hlow : 48 ≤ c.val.toNat := UInt32.le_iff_toNat_le.mp h.1
  have hhigh : c.val.toNat ≤ 57 := UInt32.le_iff_toNat_le.mp h.2
  refine ⟨?_, ?_, ?_⟩
  · exact UInt32.lt_iff_toNat_lt.mpr (Nat.lt_of_le_of_lt hhigh (by decide))
  · have hspace : c ≠ ' ' := by
      rintro rfl
      exact absurd hlow (by decide)
    have hblank : ¬c.toNat ≤ 13 := by
      show ¬c.val.toNat ≤ 13
      omega
    simp [isAsciiBlank, hspace, hblank]
  · rintro rfl
    exact absurd hhigh (by decide)

theorem numeralCore_of_bare {s : List Char} (h : ∀ c ∈ s, Bare c) :
    numeralCore (String.ofList s) = s := by
  have hspread : asciiDigits s = s := by
    unfold asciiDigits
    refine (List.map_congr_left fun c hc => ?_).trans (List.map_id s)
    rw [if_pos (h c hc).1]
    rfl
  have hdrop : ∀ t : List Char, (∀ c ∈ t, Bare c) → t.dropWhile isAsciiBlank = t := by
    intro t ht
    cases t with
    | nil => rfl
    | cons c rest =>
      rw [List.dropWhile_cons, if_neg]
      rw [(ht c List.mem_cons_self).2.1]
      exact Bool.false_ne_true
  unfold numeralCore
  dsimp only
  rw [String.toList_ofList, hspread, hdrop s h, hdrop s.reverse, List.reverse_reverse]
  intro c hc
  exact h c (List.mem_reverse.mp hc)

theorem bare_of_mem_chars (h : w.Proper) : ∀ c ∈ w.chars, Bare c := by
  have hdigits : ∀ {s}, Digits s → ∀ c ∈ s, Bare c := fun hs c hc => bare_of_isDigit (hs.all c hc)
  have hfraction : ∀ c ∈ Written.fractionChars w.fraction, Bare c := by
    cases hw : w.fraction with
    | none => nofun
    | some digits =>
      exact List.forall_mem_cons.mpr ⟨by decide, hdigits (h.fraction digits hw)⟩
  have hexponent : ∀ c ∈ Written.exponentChars w.exponent, Bare c := by
    cases hw : w.exponent with
    | none => nofun
    | some p =>
      obtain ⟨negative, digits⟩ := p
      refine List.forall_mem_cons.mpr ⟨by decide, List.forall_mem_cons.mpr ⟨?_, ?_⟩⟩
      · cases negative <;> decide
      · exact hdigits (h.exponent negative digits hw)
  have hunsigned : ∀ c ∈ w.unsigned, Bare c :=
    List.forall_mem_append.mpr ⟨hdigits h.whole, List.forall_mem_append.mpr ⟨hfraction, hexponent⟩⟩
  unfold Written.chars
  split
  · exact List.forall_mem_cons.mpr ⟨by decide, hunsigned⟩
  · exact hunsigned

theorem readExponent?_chars (h : w.Proper) :
    readExponent? (Written.exponentChars w.exponent) = some ((Written.scale w.exponent).getD 0) := by
  cases hw : w.exponent with
  | none => rfl
  | some p =>
    obtain ⟨negative, digits⟩ := p
    have hdigits := h.exponent negative digits hw
    have hall : digits.all Char.isDigit = true := List.all_eq_true.mpr hdigits.all
    have hempty : digits.isEmpty = false := List.isEmpty_eq_false_iff.mpr hdigits.ne_nil
    cases negative <;>
      simp [Written.exponentChars, Written.scale, readExponent?, hall, hempty]

theorem read?_unsigned (h : w.Proper) :
    Numeral.read? w.unsigned =
      some ⟨w.whole, w.fraction.getD [], (Written.scale w.exponent).getD 0⟩ := by
  have hends : Ends goesOn [] := ends_nil
  have hexponent : Ends Char.isDigit (Written.exponentChars w.exponent) := by
    rw [← List.append_nil (Written.exponentChars w.exponent)]
    exact Written.ends_exponentChars hends
  have hfraction : Ends Char.isDigit
      (Written.fractionChars w.fraction ++ Written.exponentChars w.exponent) := by
    rw [← List.append_nil (Written.exponentChars w.exponent)]
    exact Written.ends_fractionChars hends
  have hempty : w.whole.isEmpty = false := List.isEmpty_eq_false_iff.mpr h.whole.ne_nil
  have hscale := readExponent?_chars h
  unfold Numeral.read? Written.unsigned
  dsimp only
  rw [takeWhile_append_of_ends h.whole.all hfraction, dropWhile_append_of_ends h.whole.all hfraction,
    hempty]
  cases hw : w.fraction with
  | none =>
    have hplain : ∀ more, Written.exponentChars w.exponent ≠ '.' :: more := by
      cases w.exponent <;> simp [Written.exponentChars]
    simp only [Written.fractionChars, List.nil_append]
    rw [if_neg (by simp), hscale]
    rfl
  | some digits =>
    have hdigits := (h.fraction digits hw).all
    simp only [Written.fractionChars, List.cons_append, takeWhile_append_of_ends hdigits hexponent,
      dropWhile_append_of_ends hdigits hexponent, hscale]
    rfl

theorem Written.Proper.exists_unsigned (h : w.Proper) :
    ∃ c more, w.unsigned = c :: more ∧ c.isDigit = true := by
  obtain ⟨c, more, hwhole, hdigit⟩ := h.whole.exists_cons
  exact ⟨c, more ++ _, congrArg (· ++ _) hwhole, hdigit⟩

/-- A sign in front, and the rest. -/
def signed : List Char → Bool × List Char
  | '-' :: rest => (true, rest)
  | '+' :: rest => (false, rest)
  | rest => (false, rest)

theorem signed_chars (h : w.Proper) : signed w.chars = (w.negative, w.unsigned) := by
  obtain ⟨c, more, hunsigned, hdigit⟩ := h.exists_unsigned
  unfold Written.chars
  cases w.negative with
  | true => rfl
  | false =>
    rw [if_neg Bool.false_ne_true, hunsigned]
    unfold signed
    split
    · next hminus =>
      cases hminus
      cases hdigit
    · next hplus =>
      cases hplus
      cases hdigit
    · rfl

/-- The number of an unsigned text, which may be a word. -/
def magnitude? (unsigned : List Char) : Option Float :=
  let word := String.ofList (unsigned.map Char.toLower)
  if word = "inf" || word = "infinity" then some (1.0 / 0.0)
  else if word = "nan" then some (0.0 / 0.0)
  else (Numeral.read? unsigned).map Numeral.value

theorem number?_eq (text : String) :
    number? text =
      if (numeralCore text).contains '_' && !lowLinesBetweenDigits ' ' (numeralCore text) then none
      else
        let p := signed ((numeralCore text).filter (· != '_'))
        (magnitude? p.2).map fun x => if p.1 then -x else x :=
  rfl

theorem toLower_of_isDigit {c : Char} (h : c.isDigit = true) : c.toLower = c := by
  simp only [Char.isDigit, Bool.and_eq_true, decide_eq_true_eq] at h
  have hhigh : c.val.toNat ≤ 57 := UInt32.le_iff_toNat_le.mp h.2
  unfold Char.toLower
  rw [dif_neg]
  rintro ⟨hupper, -⟩
  have hletter : 65 ≤ c.val.toNat := UInt32.le_iff_toNat_le.mp hupper
  omega

/-- What starts with a digit is no word. -/
theorem magnitude?_of_isDigit {c : Char} {more : List Char} (h : c.isDigit = true) :
    magnitude? (c :: more) = (Numeral.read? (c :: more)).map Numeral.value := by
  have hword : ∀ d rest, d.isDigit = false →
      String.ofList ((c :: more).map Char.toLower) ≠ String.ofList (d :: rest) := by
    intro d rest hd heq
    have hcons := String.ofList_injective heq
    have hlower : c.toLower = d := (List.cons.inj hcons).1
    rw [toLower_of_isDigit h] at hlower
    rw [hlower, hd] at h
    cases h
  unfold magnitude?
  dsimp only
  rw [if_neg, if_neg]
  · exact hword 'n' ['a', 'n'] rfl
  · rw [Bool.or_eq_true, decide_eq_true_iff, decide_eq_true_iff]
    exact not_or.mpr ⟨hword 'i' ['n', 'f'] rfl, hword 'i' ['n', 'f', 'i', 'n', 'i', 't', 'y'] rfl⟩

theorem number?_chars (h : w.Proper) : number? (String.ofList w.chars) = some w.value := by
  have hbare := bare_of_mem_chars h
  have hlow : w.chars.contains '_' = false := by
    rw [List.contains_eq_mem, decide_eq_false_iff_not]
    exact fun hmem => (hbare '_' hmem).2.2 rfl
  have hfilter : w.chars.filter (· != '_') = w.chars := by
    rw [List.filter_eq_self]
    exact fun c hc => bne_iff_ne.mpr (hbare c hc).2.2
  obtain ⟨c, more, hunsigned, hdigit⟩ := h.exists_unsigned
  rw [number?_eq, numeralCore_of_bare hbare, hlow, hfilter, signed_chars h]
  dsimp only
  rw [hunsigned, magnitude?_of_isDigit hdigit, ← hunsigned, read?_unsigned h]
  rfl

end Number

/-! ## Writing -/

section Shortest

variable {mantissa : Nat} {exponent grid : Int}

theorem compareScaled_zero {n : Nat} (h : 0 < n) (i j : Int) : compareScaled 0 i n j = .lt := by
  unfold compareScaled
  rw [Nat.compare_eq_lt, Nat.zero_mul, Nat.zero_mul]
  exact Nat.mul_pos (Nat.mul_pos h (Nat.pow_pos (by decide))) (Nat.pow_pos (by decide))

theorem pos_of_readsBack (h : 0 < mantissa) {d : Decimal}
    (hread : readsBack mantissa exponent d = true) : 0 < d.digits := by
  refine Nat.pos_of_ne_zero fun hzero => ?_
  unfold readsBack at hread
  dsimp only at hread
  rw [hzero, compareScaled_zero (by split <;> omega)] at hread
  simp at hread

theorem onGrid?_pos (h : 0 < mantissa) {d : Decimal} (hd : onGrid? mantissa exponent grid = some d) :
    0 < d.digits := by
  unfold onGrid? at hd
  dsimp only at hd
  split at hd
  · next hlow hhigh =>
    cases hd
    have hbelow := pos_of_readsBack h hlow
    show 0 < nearer _ _ _ _
    unfold nearer
    dsimp only at hbelow
    split <;> omega
  · next hlow _ =>
    cases hd
    exact pos_of_readsBack h hlow
  · next hhigh =>
    cases hd
    exact pos_of_readsBack h hhigh
  · cases hd

theorem stripZeros_pos (fuel : Nat) {d : Decimal} (h : 0 < d.digits) :
    0 < (stripZeros fuel d).digits := by
  induction fuel generalizing d with
  | zero => exact h
  | succ fuel ih =>
    rw [stripZeros]
    split
    · next hzeros =>
      apply ih
      dsimp only
      omega
    · exact h

theorem exactDecimal_pos (h : 0 < mantissa) : 0 < (exactDecimal mantissa exponent).digits := by
  unfold exactDecimal
  split
  · exact Nat.mul_pos h (Nat.pow_pos (by decide))
  · exact Nat.mul_pos h (Nat.pow_pos (by decide))

theorem shortest_pos (h : 0 < mantissa) : 0 < (shortest mantissa exponent).digits := by
  unfold shortest
  rw [if_neg (Nat.pos_iff_ne_zero.mp h)]
  dsimp only
  split
  · next d hd =>
    obtain ⟨_, -, hgrid⟩ := List.exists_of_findSome?_eq_some hd
    exact stripZeros_pos 17 (onGrid?_pos h hgrid)
  · exact exactDecimal_pos h

end Shortest

section Layout

theorem digits_repr (n : Nat) : Digits (Nat.repr n).toList where
  ne_nil := by
    rw [Nat.toList_repr]
    exact Nat.toDigits_ne_nil
  all := fun _ => isDigit_of_mem_repr

theorem isDigit_of_mem_zeros {n : Nat} {c : Char} (h : c ∈ List.replicate n '0') :
    c.isDigit = true := by
  rw [List.eq_of_mem_replicate h]
  rfl

theorem Digits.zeros_append {s : List Char} (h : Digits s) (n : Nat) :
    Digits (List.replicate n '0' ++ s) where
  ne_nil := by simp [h.ne_nil]
  all := List.forall_mem_append.mpr ⟨fun _ => isDigit_of_mem_zeros, h.all⟩

theorem Digits.append_zeros {s : List Char} (h : Digits s) (n : Nat) :
    Digits (s ++ List.replicate n '0') where
  ne_nil := by simp [h.ne_nil]
  all := List.forall_mem_append.mpr ⟨h.all, fun _ => isDigit_of_mem_zeros⟩

theorem digits_padded (width n : Nat) : Digits (padded width n).toList := by
  unfold padded
  rw [String.toList_append, String.toList_ofList]
  exact (digits_repr n).zeros_append _

theorem digits_zero : Digits ['0'] where
  ne_nil := nofun
  all := List.forall_mem_singleton.mpr rfl

theorem Digits.take {s : List Char} (h : Digits s) {n : Nat} (hn : n ≠ 0) : Digits (s.take n) where
  ne_nil := by simp [h.ne_nil, hn]
  all := fun c hc => h.all c (List.mem_of_mem_take hc)

theorem Digits.drop {s : List Char} (h : Digits s) {n : Nat} (hne : s.drop n ≠ []) :
    Digits (s.drop n) where
  ne_nil := hne
  all := fun c hc => h.all c (List.mem_of_mem_drop hc)

theorem proper_pointed (negative : Bool) {whole fraction : List Char} (hwhole : Digits whole)
    (hleading : whole = ['0'] ∨ whole.head? ≠ some '0') (hfraction : Digits fraction) :
    (⟨negative, whole, some fraction, none⟩ : Written).Proper where
  whole := hwhole
  leading := hleading
  fraction := fun _ h => Option.some.inj h ▸ hfraction
  exponent := nofun

theorem proper_scaled (negative : Bool) {whole digits : List Char} {fraction : Option (List Char)}
    (hwhole : Digits whole) (hleading : whole.head? ≠ some '0')
    (hfraction : ∀ s, fraction = some s → Digits s) (down : Bool) (hdigits : Digits digits) :
    (⟨negative, whole, fraction, some (down, digits)⟩ : Written).Proper where
  whole := hwhole
  leading := .inr hleading
  fraction := hfraction
  exponent := by
    rintro _ _ ⟨⟩
    exact hdigits

theorem head?_take {s : List Char} {n : Nat} (hn : n ≠ 0) : (s.take n).head? = s.head? := by
  rw [List.head?_take, if_neg hn]

/-- What `layout` makes of a decimal, with any sign in front. -/
theorem exists_layout {d : Decimal} (h : 0 < d.digits ∨ d = ⟨0, 0⟩) (negative : Bool) :
    ∃ w : Written, w.negative = negative ∧ w.Proper ∧
      (w.fraction.isSome || w.exponent.isSome) = true ∧
      (decimalFormat.layout d).toList = w.unsigned := by
  rcases h with h | rfl
  · have hdigits := digits_repr d.digits
    have hleading := head?_repr h
    unfold Format.layout
    dsimp only
    generalize hall : (Nat.repr d.digits).toList = digits at hdigits hleading ⊢
    generalize hpoint : (digits.length : Int) + d.exponent = point
    split
    · split
      · next hsmall =>
        refine ⟨_, rfl, proper_pointed negative digits_zero (.inl rfl)
          (hdigits.zeros_append (-point).toNat), rfl, ?_⟩
        simp [Written.unsigned, Written.fractionChars, Written.exponentChars]
      · split
        · next hlarge =>
          have hhead : (digits ++ List.replicate (point - digits.length).toNat '0').head? ≠
              some '0' := by
            rw [List.head?_append]
            cases hfirst : digits.head? with
            | none => exact absurd (List.head?_eq_none_iff.mp hfirst) hdigits.ne_nil
            | some c => rwa [hfirst] at hleading
          refine ⟨_, rfl, proper_pointed negative (hdigits.append_zeros (point - digits.length).toNat)
            (.inr hhead) digits_zero, rfl, ?_⟩
          simp [Written.unsigned, Written.fractionChars, Written.exponentChars, decimalFormat]
        · next hnotSmall hnotLarge =>
          have htake : point.toNat ≠ 0 := by omega
          have hdrop : digits.drop point.toNat ≠ [] := by
            rw [Ne, List.drop_eq_nil_iff]
            omega
          refine ⟨_, rfl, proper_pointed negative (hdigits.take htake)
            (.inr (by rwa [head?_take htake])) (hdigits.drop hdrop), rfl, ?_⟩
          simp [Written.unsigned, Written.fractionChars, Written.exponentChars]
    · have hwhole : Digits (digits.take 1) := hdigits.take (by decide)
      have hfirst : (digits.take 1).head? ≠ some '0' := by rwa [head?_take (by decide)]
      have hscale := digits_padded 2 (point - 1).natAbs
      have hexponent : Written.exponentChars
            (some (decide (point - 1 < 0), (padded 2 (point - 1).natAbs).toList)) =
          'e' :: ((if point - 1 < 0 then "-" else "+").toList ++
            (padded 2 (point - 1).natAbs).toList) := by
        by_cases hsign : point - 1 < 0 <;> simp [Written.exponentChars, hsign]
      by_cases hdrop : digits.drop 1 = []
      · refine ⟨⟨negative, digits.take 1, none,
          some (decide (point - 1 < 0), (padded 2 (point - 1).natAbs).toList)⟩, rfl,
          proper_scaled negative hwhole hfirst ?_ _ hscale, rfl, ?_⟩
        · nofun
        · rw [Written.unsigned, hexponent, hdrop]
          simp [Written.fractionChars, decimalFormat]
      · refine ⟨⟨negative, digits.take 1, some (digits.drop 1),
          some (decide (point - 1 < 0), (padded 2 (point - 1).natAbs).toList)⟩, rfl,
          proper_scaled negative hwhole hfirst ?_ _ hscale, rfl, ?_⟩
        · rintro _ ⟨⟩
          exact hdigits.drop hdrop
        · have htail : digits.tail ≠ [] := by rwa [← List.drop_one]
          rw [Written.unsigned, hexponent]
          simp [Written.fractionChars, decimalFormat, htail]
  · refine ⟨_, rfl, proper_pointed negative digits_zero (.inl rfl) digits_zero, rfl, ?_⟩
    have hzero : (decimalFormat.layout ⟨0, 0⟩).toList = ['0', '.', '0'] := by decide +kernel
    exact hzero

end Layout

/-- A finite number is written with a point or an exponent. -/
theorem exists_written {x : Float} (hnan : x.isNaN = false) (hinf : x.isInf = false) :
    ∃ w : Written, w.Proper ∧ (w.fraction.isSome || w.exponent.isSome) = true ∧
      decimalText x = String.ofList w.chars := by
  obtain ⟨negative, mantissa, exponent, hx⟩ := exists_finite hnan hinf
  have hpositive : ∀ d : Decimal, d = (if mantissa = 0 then ⟨0, 0⟩ else shortest mantissa exponent) →
      0 < d.digits ∨ d = ⟨0, 0⟩ := by
    rintro d rfl
    split
    · exact .inr rfl
    · next hmantissa => exact .inl (shortest_pos (Nat.pos_of_ne_zero hmantissa))
  obtain ⟨w, rfl, hproper, hpointed, hlayout⟩ := exists_layout (hpositive _ rfl) negative
  refine ⟨w, hproper, hpointed, ?_⟩
  unfold decimalText Format.render
  rw [hx, ← String.toList_inj, String.toList_ofList]
  dsimp only
  rw [String.toList_append, hlayout]
  unfold Written.chars
  split <;> rfl

/-- The text of the number is read as the number. -/
def ReadsBack (x : Float) : Prop :=
  x.isNaN = false → x.isInf = false → number? (decimalText x) = some x

/-- What is written for a number that reads back has its value. -/
theorem exists_written_value {x : Float} (h : ReadsBack x) (hnan : x.isNaN = false)
    (hinf : x.isInf = false) :
    ∃ w : Written, w.Proper ∧ (w.fraction.isSome || w.exponent.isSome) = true ∧
      decimalText x = String.ofList w.chars ∧ w.value = x := by
  obtain ⟨w, hproper, hpointed, htext⟩ := exists_written hnan hinf
  have hread := h hnan hinf
  rw [htext, number?_chars hproper] at hread
  exact ⟨w, hproper, hpointed, htext, Option.some.inj hread⟩

end Reckon.Number
