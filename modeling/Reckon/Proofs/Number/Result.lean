import Reckon.Proofs.Number.Place

/-!
# `Proofs.Number.Result` — what operations do to fractions

A quotient or a sum of numbers is the quotient or the sum of the fractions that they stand for, rounded to its last
place (`exists_quotient`, `exists_sum`). A whole number is made a number without loss if any number has it for its
value, however large it is (`rational?_ofInt`); so the whole part of a number, made a number again, is its whole part
(`rational?_truncate`).

Main statements: `exists_quotient`, `exists_sum`, `rational?_ofInt`, `rational?_truncate`.
-/

namespace Reckon.Number

open Float.Model UnpackedFloat

section

variable {x y : Float} {a b : ℚ} {negative negative' : Bool} {m m' : Nat} {e e' : Int}

theorem rational?_pack {u : UnpackedFloat} (hu : decoded u = .finite negative m e) (h : Shaped m e) :
    rational? (.ofModel (Float.Model.pack u)) = some (withSign negative (m * 2 ^ e)) :=
  rational?_of_ofFloat (ofFloat_pack hu h)

theorem exists_parts (h : Binary.ofFloat x = .finite negative m e) (hm : 0 < m) :
    ∃ sign hpos, parts x = .finite sign m e hpos ∧ (sign == .negative) = negative := by
  rw [ofFloat_eq_decoded] at h
  cases hx : parts x with
  | notANumber | infinity => rw [hx] at h; cases h
  | zero sign =>
    rw [hx] at h
    obtain ⟨-, rfl, -⟩ := Binary.finite.inj h
    exact absurd hm (Nat.lt_irrefl 0)
  | finite sign mantissa exponent hpos =>
    rw [hx] at h
    obtain ⟨rfl, rfl, rfl⟩ := Binary.finite.inj h
    exact ⟨sign, hpos, rfl, rfl⟩

theorem withSign_div (q q' : ℚ) : withSign negative q / withSign negative' q' = withSign (negative != negative') (q / q') := by
  cases negative <;> cases negative' <;> simp [withSign, neg_div, div_neg]

theorem decide_withSign_neg {q : ℚ} (hq : 0 < q) : decide (withSign negative q < 0) = negative := by
  cases negative with
  | false => exact decide_eq_false (not_lt.mpr hq.le)
  | true => exact decide_eq_true (neg_lt_zero.mpr hq)

theorem withSign_zero : withSign negative 0 = 0 := by
  cases negative
  · rfl
  · exact neg_zero

theorem pos_of_ne_zero (h : withSign negative ((m : ℚ) * 2 ^ e) ≠ 0) : 0 < m := by
  refine Nat.pos_of_ne_zero fun hzero => h ?_
  rw [hzero, Nat.cast_zero, zero_mul, withSign_zero]

theorem shaped_zero : Shaped 0 (-1074) :=
  ⟨by decide, le_rfl, by decide, .inr rfl⟩

theorem exists_parts_zero (h : rational? x = some 0) : ∃ sign, parts x = .zero sign := by
  obtain ⟨negative, m, e, hdecoded, -, hzero⟩ := exists_of_rational h
  rw [ofFloat_eq_decoded] at hdecoded
  cases hx : parts x with
  | notANumber | infinity => rw [hx] at hdecoded; cases hdecoded
  | zero sign => exact ⟨sign, rfl⟩
  | finite sign mantissa exponent hpos =>
    rw [hx] at hdecoded
    obtain ⟨rfl, rfl, rfl⟩ := Binary.finite.inj hdecoded
    have hvalue : 0 < mantissa * (2 : ℚ) ^ exponent := by positivity
    have habs := abs_withSign (sign == .negative) hvalue.le
    rw [← hzero, abs_zero] at habs
    exact absurd habs hvalue.ne

/-- The parts of a positive number. -/
theorem exists_parts_positive (h : rational? x = some a) (ha : 0 < a) :
    ∃ m e hpos, parts x = .finite .positive m e hpos ∧ a = m * 2 ^ e := by
  obtain ⟨negative, m, e, hdecoded, -, rfl⟩ := exists_of_rational h
  obtain ⟨sign, hpos, hparts, hsign⟩ := exists_parts hdecoded (pos_of_ne_zero ha.ne')
  have hvalue : 0 < m * (2 : ℚ) ^ e := by positivity
  obtain rfl : negative = false := (decide_withSign_neg hvalue).symm.trans (decide_eq_false ha.not_gt)
  obtain rfl : sign = .positive := by
    cases sign
    · cases hsign
    · rfl
  exact ⟨m, e, hpos, hparts, rfl⟩

/-! ### Signs -/

theorem neg_neg_of_rational (hx : rational? x = some a) : - -x = x := by
  obtain ⟨negative, m, e, hdecoded, -, -⟩ := exists_of_rational hx
  have htwice := ofFloat_neg (ofFloat_neg hdecoded)
  rw [Bool.not_not] at htwice
  exact eq_of_ofFloat htwice hdecoded

theorem isNegative_neg (hx : rational? x = some a) : isNegative (-x) = !isNegative x := by
  obtain ⟨negative, m, e, hdecoded, -, -⟩ := exists_of_rational hx
  rw [isNegative_of_ofFloat (ofFloat_neg hdecoded), isNegative_of_ofFloat hdecoded]

theorem isNegative_of_rational (hx : rational? x = some a) (ha : a ≠ 0) : isNegative x = decide (a < 0) := by
  obtain ⟨negative, m, e, hdecoded, -, rfl⟩ := exists_of_rational hx
  have hm := pos_of_ne_zero ha
  rw [isNegative_of_ofFloat hdecoded, decide_withSign_neg (by positivity)]

/-! ### Quotients -/

/-- A quotient has the bits by which the dividend is wider than the divisor. -/
theorem zpow_log2_le_quotient (hm : 0 < m) (hm' : 0 < m') :
    (2 : ℚ) ^ ((m.log2 : ℤ) + e - (m'.log2 + 1 + e')) ≤ m * 2 ^ e / (m' * 2 ^ e') := by
  have hlow : (2 : ℚ) ^ ((m.log2 : ℤ) + e) ≤ m * 2 ^ e := by
    have hlog : ((2 ^ m.log2 : Nat) : ℚ) ≤ m := by exact_mod_cast Nat.log2_self_le hm.ne'
    push_cast at hlog
    rw [zpow_add₀ two_ne_zero, zpow_natCast]
    exact mul_le_mul_of_nonneg_right hlog (zpow_pos_two e).le
  have hhigh : m' * (2 : ℚ) ^ e' ≤ 2 ^ ((m'.log2 : ℤ) + 1 + e') := by
    have hlog : (m' : ℚ) ≤ (2 ^ (m'.log2 + 1) : Nat) := by exact_mod_cast Nat.lt_log2_self.le
    push_cast at hlog
    rw [zpow_add₀ two_ne_zero, ← Nat.cast_succ, zpow_natCast]
    exact mul_le_mul_of_nonneg_right hlog (zpow_pos_two e').le
  have hdivisor : (0 : ℚ) < m' * 2 ^ e' := by positivity
  rw [zpow_sub₀ two_ne_zero]
  exact div_le_div₀ (by positivity) hlow hdivisor hhigh

/-- The quotient of mantissas has all the bits that its last place asks for. -/
theorem divCore_place (hm : 0 < m) (hm' : 0 < m') :
    ∃ quotient exponent accuracy, divCore .binary64 m e m' e' = (quotient, exponent, accuracy) ∧
      Between (.ofMantissaAndAccuracy quotient accuracy) (2 ^ exponent) (m * (2 : ℚ) ^ e / (m' * 2 ^ e')) ∧
      exponent ≤ place (m * (2 : ℚ) ^ e / (m' * 2 ^ e')) := by
  have hpos : 0 < m * (2 : ℚ) ^ e / (m' * 2 ^ e') := by positivity
  generalize htarget : min (e - e') (max ((m.log2 : Int) + 1 + e - (m'.log2 + 1 + e') - 53) (-1074)) = t
  have hle : t ≤ e - e' := htarget ▸ min_le_left _ _
  have hcore : divCore .binary64 m e m' e' = (m * 2 ^ (e - e' - t).toNat / m', t,
      accuracyOfFraction (m * 2 ^ (e - e' - t).toNat % m') m') := by
    rw [← htarget, ← Nat.shiftLeft_eq]
    rfl
  refine ⟨_, _, _, hcore, ?_, ?_⟩
  · have hvalue : m * (2 : ℚ) ^ e / (m' * 2 ^ e') =
        ((m * 2 ^ (e - e' - t).toNat : Nat) : ℚ) / (m' : Nat) * 2 ^ t := by
      rw [div_mul_eq_mul_div, mul_zpow_moved m hle, zpow_sub₀ two_ne_zero, mul_div_assoc', div_div, mul_comm (2 ^ e')]
    rw [hvalue]
    exact between_div hm' (zpow_pos_two t)
  · -- the place of the quotient is not before the one that is aimed at
    have hquotient := @zpow_log2_le_quotient m m' e e' hm hm'
    have hexponent : (m.log2 : ℤ) + e - (m'.log2 + 1 + e') =
        (m.log2 : ℤ) + 1 + e - (m'.log2 + 1 + e') - 53 + 52 := by ring
    rw [hexponent] at hquotient
    have hplace := le_place hpos hquotient
    have hleast : -1074 ≤ place (m * (2 : ℚ) ^ e / (m' * 2 ^ e')) := le_max_right _ _
    omega

/-- **A quotient of numbers is the quotient of their fractions, rounded to its last place.** -/
theorem exists_quotient (hx : rational? x = some a) (hy : rational? y = some b) (ha : a ≠ 0) (hb : b ≠ 0)
    (hlt : |a / b| < ceiling) :
    ∃ r, Rounds |a / b| r ∧ rational? (x / y) = some (withSign (decide (a / b < 0)) (r * 2 ^ place |a / b|)) := by
  obtain ⟨negative, m, e, hdecoded, -, rfl⟩ := exists_of_rational hx
  obtain ⟨negative', m', e', hdecoded', -, rfl⟩ := exists_of_rational hy
  have hm : 0 < m := pos_of_ne_zero ha
  have hm' : 0 < m' := pos_of_ne_zero hb
  obtain ⟨sign, hpos, hparts, hsign⟩ := exists_parts hdecoded hm
  obtain ⟨sign', hpos', hparts', hsign'⟩ := exists_parts hdecoded' hm'
  have hvalue : 0 < m * (2 : ℚ) ^ e / (m' * 2 ^ e') := by positivity
  rw [withSign_div, decide_withSign_neg hvalue]
  rw [withSign_div, abs_withSign _ hvalue.le] at hlt
  rw [abs_withSign _ hvalue.le]
  obtain ⟨quotient, exponent, accuracy, hcore, hbetween, hplace⟩ := @divCore_place m m' e e' hm hm'
  obtain ⟨r, mantissa, exponent', hrounds, hshaped, hsame, hresult⟩ :=
    exists_rounded (sign / sign') hbetween hvalue hplace hlt
  refine ⟨r, hrounds, ?_⟩
  have hdiv : x / y = .ofModel (Float.Model.pack (UnpackedFloat.div .binary64 (parts x) (parts y))) := rfl
  have hround : UnpackedFloat.div .binary64 (parts x) (parts y) =
      roundWithAccuracy .binary64 (sign / sign') quotient exponent accuracy := by
    rw [hparts, hparts', UnpackedFloat.div, hcore]
  have hsigns : (sign / sign' == .negative) = (negative != negative') := by
    rw [← hsign, ← hsign']
    cases sign <;> cases sign' <;> rfl
  rw [hdiv, hround, rational?_pack hresult hshaped, hsame, hsigns]

/-- Zero divided is zero. -/
theorem rational?_zero_div (hx : rational? x = some 0) (hy : rational? y = some b) (hb : b ≠ 0) : rational? (x / y) = some 0 := by
  obtain ⟨negative', m', e', hdecoded', -, rfl⟩ := exists_of_rational hy
  have hm' : 0 < m' := pos_of_ne_zero hb
  obtain ⟨sign, hparts⟩ := exists_parts_zero hx
  obtain ⟨sign', hpos', hparts', -⟩ := exists_parts hdecoded' hm'
  have hdiv : x / y = .ofModel (Float.Model.pack (UnpackedFloat.div .binary64 (parts x) (parts y))) := rfl
  have hzero : UnpackedFloat.div .binary64 (parts x) (parts y) = .zero (sign / sign') := by rw [hparts, hparts']; rfl
  rw [hdiv, hzero, rational?_pack rfl shaped_zero, Nat.cast_zero, zero_mul, withSign_zero]

/-! ### Sums -/

theorem parts_add (x y : Float) :
    x + y = .ofModel (Float.Model.pack (UnpackedFloat.add .binary64 (parts x) (parts y))) := rfl

/-- **A sum of positive numbers is the sum of their fractions, rounded to its last place.** -/
theorem exists_sum (hx : rational? x = some a) (hy : rational? y = some b) (ha : 0 < a) (hb : 0 < b)
    (hlt : a + b < ceiling) :
    ∃ r, Rounds (a + b) r ∧ rational? (x + y) = some ((r : ℚ) * 2 ^ place (a + b)) := by
  obtain ⟨m, e, hpos, hparts, rfl⟩ := exists_parts_positive hx ha
  obtain ⟨m', e', hpos', hparts', rfl⟩ := exists_parts_positive hy hb
  generalize hleast : min e e' = least
  generalize hmantissa : m * 2 ^ (e - least).toNat + m' * 2 ^ (e' - least).toNat = mantissa
  have hmantissaPos : 0 < mantissa := by
    rw [← hmantissa]
    exact Nat.add_pos_left (Nat.mul_pos hpos (Nat.two_pow_pos _)) _
  have hvalue : m * (2 : ℚ) ^ e + m' * 2 ^ e' = mantissa * 2 ^ least := by
    have hle : least ≤ e := hleast ▸ min_le_left e e'
    have hle' : least ≤ e' := hleast ▸ min_le_right e e'
    rw [← hmantissa, Nat.cast_add, add_mul, mul_zpow_moved m hle, mul_zpow_moved m' hle']
  have hadd : UnpackedFloat.add .binary64 (parts x) (parts y) = UnpackedFloat.round .binary64 .positive mantissa least := by
    have hgreater : compare (mantissa : Int) 0 = .gt := Int.compare_eq_gt.mpr (by omega)
    have hsum : Sign.positive.apply ((m <<< (e - least).toNat : Nat) : Int) +
        Sign.positive.apply ((m' <<< (e' - least).toNat : Nat) : Int) = (mantissa : Nat) := by
      rw [Nat.shiftLeft_eq, Nat.shiftLeft_eq, ← hmantissa]
      rfl
    rw [hparts, hparts', UnpackedFloat.add]
    unfold decreaseExponent UnpackedFloat.normalize
    dsimp only
    rw [hleast, hsum, hgreater]
    rfl
  rw [hvalue] at hlt ⊢
  obtain ⟨r, mantissa', exponent, hrounds, hshaped, hsame, hdecoded⟩ := exists_rounded_exact .positive hmantissaPos hlt
  refine ⟨r, hrounds, ?_⟩
  rw [parts_add, hadd, rational?_pack hdecoded hshaped, hsame]
  rfl

/-- Zero changes nothing. -/
theorem rational?_zero_add (hx : rational? x = some 0) (hy : rational? y = some b) (hb : b ≠ 0) : rational? (x + y) = some b := by
  obtain ⟨negative', m', e', hdecoded', hshaped', rfl⟩ := exists_of_rational hy
  obtain ⟨sign, hparts⟩ := exists_parts_zero hx
  obtain ⟨sign', hpos', hparts', hsign'⟩ := exists_parts hdecoded' (pos_of_ne_zero hb)
  have hadd : UnpackedFloat.add .binary64 (parts x) (parts y) = .finite sign' m' e' hpos' := by
    rw [hparts, hparts']
    rfl
  rw [parts_add, hadd, rational?_pack (by rw [decoded, hsign']) hshaped']

/-! ### Whole numbers -/

/-- A whole number of few bits is exact. -/
theorem rational?_ofNat_of_lt {n : Nat} (hlt : n < 2 ^ 53) : rational? (Float.ofNat n) = some (n : ℚ) := by
  rcases Nat.eq_zero_or_pos n with rfl | hpos
  · have hdecoded : Binary.ofFloat (Float.ofNat 0) = .finite false 0 (-1074) := by
      rw [ofFloat_eq_decoded, parts_zero]
      rfl
    rw [rational?_of_ofFloat hdecoded, Nat.cast_zero, zero_mul, withSign_zero]
  · have hdecoded : Binary.ofFloat (Float.ofNat n) = .finite false (n * 2 ^ lift n) (-lift n) := by
      rw [ofFloat_eq_decoded, parts_ofNat hpos hlt]
      rfl
    have hsame : ((n * 2 ^ lift n : Nat) : ℚ) * 2 ^ (-(lift n : ℤ)) = n := by
      rw [mul_zpow_neg_natCast, Nat.cast_mul]
      exact mul_div_cancel_right₀ _ (by positivity)
    rw [rational?_of_ofFloat hdecoded, hsame]
    rfl

/-- A whole number is moved up by a whole mantissa before it is rounded. -/
theorem ofScientific_zero {n : Nat} (hpos : 0 < n) : UnpackedFloat.ofScientific .binary64 n 0 =
    roundWithAccuracy .binary64 .positive (n <<< 53 * 1) (-53) .exact := by
  have hbits : (2 : Int) ^ Float.Model.Format.binary64.exponentBits = 2 ^ 11 := rfl
  have hmost : ¬ (0 : Int) > 2 ^ Float.Model.Format.binary64.exponentBits := by rw [hbits]; decide
  have hleast : ¬ (0 : Int) < -((2 : Int) ^ Float.Model.Format.binary64.exponentBits + n.log2) := by
    rw [hbits]
    omega
  unfold UnpackedFloat.ofScientific
  rw [dif_neg hpos.ne', if_neg hmost, if_neg hleast, if_pos le_rfl]
  rfl

/-- **A whole number that some number has for its value is exact, however large.** -/
theorem rational?_ofNat {n : Nat} (h : Shaped m e) (hn : (n : ℚ) = m * 2 ^ e) : rational? (Float.ofNat n) = some (n : ℚ) := by
  rcases Nat.lt_or_ge n (2 ^ 53) with hlt | hge
  · exact rational?_ofNat_of_lt hlt
  · have hpos : 0 < n := by omega
    have hm : 0 < m := by
      refine Nat.pos_of_ne_zero fun hzero => ?_
      rw [hzero, Nat.cast_zero, zero_mul] at hn
      exact hpos.ne' (by exact_mod_cast hn)
    have hplace : place (n : ℚ) = e := by rw [hn, place_of_shaped h hm]
    have hwide : (-53 : ℤ) ≤ place (n : ℚ) := by
      refine le_place (by exact_mod_cast hpos) (le_trans (zpow_le_one_of_nonpos₀ one_le_two (by decide)) ?_)
      exact_mod_cast hpos
    have hbetween : Between (.ofMantissaAndAccuracy (n <<< 53 * 1) .exact) (2 ^ (-53 : ℤ)) (n : ℚ) := by
      show (n : ℚ) = ((n <<< 53 * 1 : Nat) : ℚ) * 2 ^ (-53 : ℤ)
      rw [Nat.mul_one, Nat.shiftLeft_eq]
      push_cast
      rw [mul_assoc, zpow_neg]
      norm_num
    obtain ⟨r, mantissa, exponent, hrounds, hshaped, hsame, hdecoded⟩ :=
      exists_rounded .positive hbetween (by exact_mod_cast hpos) hwide (hn ▸ h.lt_ceiling)
    have hr : r = m := hrounds.eq_of_multiple (by rw [hplace, hn])
    have hfloat : Float.ofNat n = .ofModel (Float.Model.pack (UnpackedFloat.ofScientific .binary64 n 0)) :=
      dif_neg fun hfast => absurd hfast.1 (by omega)
    rw [hfloat, ofScientific_zero hpos, rational?_pack hdecoded hshaped, hsame, hr, hplace, hn]
    rfl

/-- Some number has this fraction for its value. -/
def IsExact (q : ℚ) : Prop :=
  ∃ x, rational? x = some q

theorem IsExact.neg {q : ℚ} (h : IsExact q) : IsExact (-q) := by
  obtain ⟨x, hx⟩ := h
  exact ⟨-x, rational?_neg hx⟩

theorem isExact_of_natAbs_lt {z : ℤ} (hlt : z.natAbs < 2 ^ 53) : IsExact z := by
  rcases Int.natAbs_eq z with hz | hz
  · rw [hz]
    exact ⟨_, rational?_ofNat_of_lt hlt⟩
  · rw [hz, Int.cast_neg]
    exact IsExact.neg ⟨_, rational?_ofNat_of_lt hlt⟩

theorem rational?_ofNat_of_isExact {n : Nat} (h : IsExact n) : rational? (Float.ofNat n) = some (n : ℚ) := by
  obtain ⟨x, hx⟩ := h
  obtain ⟨negative, m, e, -, hshaped, hn⟩ := exists_of_rational hx
  have habs : |withSign negative (m * (2 : ℚ) ^ e)| = m * 2 ^ e := abs_withSign _ (by positivity)
  rw [← hn, Nat.abs_cast] at habs
  exact rational?_ofNat hshaped habs

/-- **A whole number that is the value of some number is made this number.** -/
theorem rational?_ofInt {z : ℤ} (h : IsExact z) : rational? (Float.ofInt z) = some (z : ℚ) := by
  cases z with
  | ofNat n => exact rational?_ofNat_of_isExact h
  | negSucc n =>
    have hneg : ((Int.negSucc n : ℤ) : ℚ) = -((n + 1 : Nat) : ℚ) := by
      rw [Int.cast_negSucc]
    have hpos : IsExact ((n + 1 : Nat) : ℚ) := by
      have hself := h.neg
      rwa [hneg, neg_neg] at hself
    rw [hneg]
    exact rational?_neg (rational?_ofNat_of_isExact hpos)

/-- No whole number is made a negative zero. -/
theorem isNegative_ofNat {n : Nat} (h : IsExact n) : isNegative (Float.ofNat n) = false := by
  rcases Nat.eq_zero_or_pos n with rfl | hpos
  · decide +kernel
  · obtain ⟨negative, m, e, hdecoded, -, hn⟩ := exists_of_rational (rational?_ofNat_of_isExact h)
    rw [isNegative_of_ofFloat hdecoded]
    cases negative with
    | false => rfl
    | true =>
      have hvalue : 0 ≤ m * (2 : ℚ) ^ e := by positivity
      have hn' : (n : ℚ) = -(m * 2 ^ e) := hn
      have hpos' : (0 : ℚ) < n := by exact_mod_cast hpos
      linarith

theorem isNegative_ofInt {z : ℤ} (hz : 0 ≤ z) (h : IsExact z) : isNegative (Float.ofInt z) = false := by
  obtain ⟨n, rfl⟩ := Int.eq_ofNat_of_zero_le hz
  exact isNegative_ofNat h

/-- The whole part of a number is the value of some number too. -/
theorem isExact_cut (h : rational? x = some a) : IsExact (cut a) := by
  obtain ⟨negative, m, e, -, hshaped, rfl⟩ := exists_of_rational h
  by_cases hup : 0 ≤ e
  · have hwhole : ((cut (withSign negative (m * (2 : ℚ) ^ e)) : ℤ) : ℚ) = withSign negative (m * 2 ^ e) := by
      rw [cut_eq_iff, withSign_eq_intCast_iff]
      obtain ⟨k, rfl⟩ := Int.eq_ofNat_of_zero_le hup
      exact ⟨(m * 2 ^ k : Nat), by push_cast; rw [zpow_natCast]⟩
    rw [hwhole]
    exact ⟨x, h⟩
  · refine isExact_of_natAbs_lt ?_
    have hfloor : ((floorScaled m e : ℤ)).natAbs < 2 ^ 53 := by
      obtain ⟨k, hk⟩ := Int.eq_ofNat_of_zero_le (show 0 ≤ -e by omega)
      obtain rfl : e = -(k : Int) := by omega
      rw [floorScaled_neg, Int.natAbs_natCast]
      exact (Nat.div_le_self _ _).trans_lt hshaped.high
    rw [cut_withSign _ (by positivity), ← floorScaled_eq]
    cases negative
    · exact hfloor
    · exact (Int.natAbs_neg _).trans_lt hfloor

/-- **The whole part of a number, made a number again, loses nothing.** -/
theorem rational?_truncate (h : rational? x = some a) : rational? (truncate x) = some (cut a : ℚ) := by
  unfold truncate
  rw [wholePart?_of_rational h]
  exact rational?_ofInt (isExact_cut h)

end

end Reckon.Number
