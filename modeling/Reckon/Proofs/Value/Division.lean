import Reckon.Proofs.Number.Remainder
import Reckon.Value.Arithmetic

/-!
# `Proofs.Value.Division` — quotients cut toward zero, and their remainders

To divide and cut is to find a whole number of times that the divisor goes into the dividend, and the rest, which is
less than the divisor and has the sign of the dividend (`CutDivision`). `mod` gives this rest exactly. `div` cuts a
quotient that is rounded already: where the next whole number is within half a unit of the last place
(`ReachesNext`), the quotient is rounded to it, and `div` gives one more than goes into the dividend.

No quotient of numbers lies just half way between its last place and a whole number (`quotient_add_half_ne`), so it
does not matter here that such a one would go to its even neighbour.

Main statement: `cutDivision_iff`.
-/

namespace Reckon

open Number

/-! ## Quotients near whole numbers -/

/-- The next whole number, away from zero, is at most half a unit of the last place away. -/
def ReachesNext (q : ℚ) : Prop :=
  (⌊|q|⌋ : ℚ) + 1 ≤ |q| + 2 ^ place |q| / 2

instance (q : ℚ) : Decidable (ReachesNext q) :=
  inferInstanceAs (Decidable (_ ≤ _))

/-- A fraction less than one half is not near to one. -/
theorem half_le_of_reachesNext {q : ℚ} (hlt : |q| < 2 ^ 53) (h : ReachesNext q) : 1 / 2 ≤ |q| := by
  unfold ReachesNext at h
  by_contra hsmall
  have hnonneg := abs_nonneg q
  have hfloor : ⌊|q|⌋ = 0 := Int.floor_eq_zero_iff.mpr ⟨hnonneg, by linarith⟩
  have hunit : (2 : ℚ) ^ place |q| ≤ 1 := zpow_le_one_of_nonpos₀ one_le_two (place_le_zero hnonneg hlt)
  rw [hfloor, Int.cast_zero] at h
  linarith

/-- No quotient of mantissas is an odd number with more bits than a mantissa, in any place. -/
theorem quotient_ne_odd {m m' j : Nat} {e e' p : ℤ} (hm : m < 2 ^ 53) (hpos : 0 < m) (hpos' : 0 < m')
    (hwide : 2 ^ 53 ≤ 2 * j + 1) : m * (2 : ℚ) ^ e / (m' * 2 ^ e') ≠ (2 * j + 1 : Nat) * 2 ^ p := by
  intro hquotient
  have hdivisor : (m' : ℚ) * 2 ^ e' ≠ 0 := by positivity
  have hproduct : (m : ℚ) * 2 ^ e = ((2 * j + 1) * m' : Nat) * 2 ^ (p + e') := by
    rw [(div_eq_iff hdivisor).mp hquotient, Nat.cast_mul, zpow_add₀ two_ne_zero]
    ring
  -- in the lower of the two places both sides are whole, and the odd number divides the mantissa
  rw [← mul_zpow_moved m (min_le_left e (p + e')), ← mul_zpow_moved _ (min_le_right e (p + e'))] at hproduct
  have hsame := mul_right_cancel₀ (zpow_pos_two _).ne' hproduct
  have hnat : m * 2 ^ (e - min e (p + e')).toNat =
      (2 * j + 1) * m' * 2 ^ (p + e' - min e (p + e')).toNat := by exact_mod_cast hsame
  have hcoprime : Nat.Coprime (2 * j + 1) (2 ^ (e - min e (p + e')).toNat) := Nat.Coprime.pow_right _ (by simp)
  have hdvd : 2 * j + 1 ∣ m := by
    refine hcoprime.dvd_of_dvd_mul_right ?_
    rw [hnat, Nat.mul_assoc]
    exact Nat.dvd_mul_right _ _
  have hle := Nat.le_of_dvd hpos hdvd
  omega

/-- From one half on, numbers fill their bits. -/
theorem pow_place_le {q : ℚ} (hhalf : 1 / 2 ≤ q) : 2 ^ (place q + 52) ≤ q := by
  refine place_le (one_half_pos.trans_le hhalf) fun hleast => ?_
  have hsmall := lt_place q
  rw [hleast] at hsmall
  exact absurd hhalf (not_le.mpr (hsmall.trans_le (zpow_le_one_half (by decide))))

/-- **No quotient of mantissas is half a unit of its last place away from a whole number.** -/
theorem quotient_add_half_ne {m m' n : Nat} {e e' : ℤ} {q : ℚ} (hm : m < 2 ^ 53) (hpos : 0 < m) (hpos' : 0 < m')
    (hq : q = m * 2 ^ e / (m' * 2 ^ e')) (hlt : q < 2 ^ 53) (hhalf : 1 / 2 ≤ q) :
    (n : ℚ) + 1 ≠ q + 2 ^ place q / 2 := by
  intro htie
  have hnext := natCast_eq_multiple (place_le_zero (one_half_pos.le.trans hhalf) hlt) (n + 1)
  have hfull := pow_place_le hhalf
  generalize hk : (n + 1) * 2 ^ (-place q).toNat = k at hnext
  generalize place q = p at *
  have hkpos : 0 < k := by
    rw [← hk]
    positivity
  obtain ⟨j, rfl⟩ := Nat.exists_eq_add_one_of_ne_zero hkpos.ne'
  -- in units of half the last place the quotient is an odd number, of more bits than a mantissa
  have hhalves : (2 : ℚ) ^ p = 2 * 2 ^ (p - 1) := by
    rw [← zpow_one_add₀ two_ne_zero, add_sub_cancel]
  have hodd : q = ((2 * j + 1 : Nat) : ℚ) * 2 ^ (p - 1) := by
    push_cast at hnext ⊢
    rw [hhalves] at hnext htie
    linarith
  have hwide : 2 ^ 53 ≤ 2 * j + 1 := by
    have hpower : (2 : ℚ) ^ (p + 52) = 2 ^ 53 * 2 ^ (p - 1) := by
      rw [← zpow_natCast, ← zpow_add₀ two_ne_zero]
      congr 1
      push_cast
      ring
    rw [hpower, hodd] at hfull
    exact_mod_cast le_of_mul_le_mul_right hfull (zpow_pos_two (p - 1))
  exact quotient_ne_odd hm hpos hpos' hwide (hq.symm.trans hodd)

/-! ## Division -/

/-- A dividend cut into whole times a divisor and a rest, which is less than the divisor and has the sign of the
dividend. -/
structure CutDivision (dividend divisor quotient rest : ℚ) : Prop where
  whole : quotient = cut (dividend / divisor)
  sum : dividend = quotient * divisor + rest
  small : |rest| < |divisor|
  positive : 0 ≤ dividend → 0 ≤ rest
  negative : dividend ≤ 0 → rest ≤ 0

/-- What is left after whole times the divisor makes a division. -/
theorem cutDivision_cut (a : ℚ) {b : ℚ} (hb : b ≠ 0) : CutDivision a b (cut (a / b)) (a - cut (a / b) * b) := by
  obtain ⟨hsmall, hpositive, hnegative⟩ := rest_bounds a hb
  exact ⟨rfl, by ring, hsmall, hpositive, hnegative⟩

section

variable {x y : Float} {a b : ℚ}

theorem withSign_abs (q : ℚ) : withSign (decide (q < 0)) |q| = q := by
  by_cases hneg : q < 0
  · rw [decide_eq_true hneg, abs_of_neg hneg]
    exact neg_neg q
  · rw [decide_eq_false hneg, abs_of_nonneg (not_lt.mp hneg)]
    rfl

theorem lt_ceiling {q : ℚ} (hlt : q < 2 ^ 53) : q < ceiling := by
  have hpower : (2 : ℚ) ^ (1 : ℤ) ≤ 2 ^ (971 : ℤ) := zpow_le_zpow_right₀ one_le_two (by decide)
  calc q < 2 ^ 53 := hlt
    _ ≤ (2 ^ 53 - 1 / 2) * 2 ^ (1 : ℤ) := by norm_num
    _ ≤ ceiling := mul_le_mul_of_nonneg_left hpower (by norm_num)

theorem abs_quotient_add_half_ne {n : Nat} (hx : rational? x = some a) (hy : rational? y = some b) (ha : a ≠ 0) (hb : b ≠ 0)
    (hlt : |a / b| < 2 ^ 53) (hhalf : 1 / 2 ≤ |a / b|) : (n : ℚ) + 1 ≠ |a / b| + 2 ^ place |a / b| / 2 := by
  obtain ⟨negative, m, e, -, hshaped, rfl⟩ := exists_of_rational hx
  obtain ⟨negative', m', e', -, -, rfl⟩ := exists_of_rational hy
  have hquotient : |withSign negative (m * (2 : ℚ) ^ e) / withSign negative' (m' * 2 ^ e')| = m * 2 ^ e / (m' * 2 ^ e') := by
    rw [withSign_div, abs_withSign _ (by positivity)]
  exact quotient_add_half_ne hshaped.high (pos_of_ne_zero ha) (pos_of_ne_zero hb) hquotient hlt hhalf

/-- The quotient as `div` cuts it. -/
theorem rational?_truncate_quotient (hx : rational? x = some a) (hy : rational? y = some b) (hb : b ≠ 0)
    (hlt : |a / b| < 2 ^ 53) :
    rational? (truncate (x / y)) =
      some ((if ReachesNext (a / b) then cut (a / b) + SignType.sign (a / b) else cut (a / b) : ℤ) : ℚ) := by
  rcases eq_or_ne a 0 with rfl | ha
  · have hfar : ¬ ReachesNext (0 / b) := fun h => by
      have hhalf := half_le_of_reachesNext hlt h
      rw [zero_div, abs_zero] at hhalf
      linarith
    rw [rational?_truncate (rational?_zero_div hx hy hb), if_neg hfar, zero_div]
  · obtain ⟨r, hrounds, hquotient⟩ := exists_quotient hx hy ha hb (lt_ceiling hlt)
    have hnonneg := abs_nonneg (a / b)
    have hplace := place_le_zero hnonneg hlt
    obtain ⟨n, hn⟩ := Int.eq_ofNat_of_zero_le (Int.floor_nonneg.mpr hnonneg)
    obtain ⟨hlow, hhigh⟩ := Int.floor_eq_iff.mp hn
    rw [rational?_truncate hquotient, cut_withSign _ (by positivity)]
    have hcut : cut (a / b) = if decide (a / b < 0) = true then -(n : ℤ) else n := by
      conv_lhs => rw [← withSign_abs (a / b)]
      rw [cut_withSign _ hnonneg, hn]
    have hreaches : ReachesNext (a / b) ↔ (n : ℚ) + 1 ≤ |a / b| + 2 ^ place |a / b| / 2 := by
      unfold ReachesNext
      rw [hn]
      rfl
    by_cases hnext : ReachesNext (a / b)
    · have hhalf := half_le_of_reachesNext hlt hnext
      have hsum := hrounds.eq_next hplace hlow hhigh (hreaches.mp hnext)
        fun htie => absurd htie (abs_quotient_add_half_ne hx hy ha hb hlt hhalf)
      have hfloor : ⌊(r : ℚ) * 2 ^ place |a / b|⌋ = n + 1 := by
        rw [hsum]
        exact_mod_cast Int.floor_natCast (R := ℚ) (n + 1)
      rw [if_pos hnext, hfloor, hcut]
      congr 2
      by_cases hneg : a / b < 0
      · rw [decide_eq_true hneg, if_pos rfl, if_pos rfl, sign_neg hneg]
        exact neg_add (n : ℤ) 1
      · have hpos : 0 < a / b := by
          refine lt_of_le_of_ne (not_lt.mp hneg) fun hzero => ?_
          rw [← hzero, abs_zero] at hhalf
          linarith
        rw [decide_eq_false hneg, if_neg Bool.false_ne_true, if_neg Bool.false_ne_true, sign_pos hpos]
        rfl
    · have hfloor := hrounds.floor_eq hplace hlow (not_le.mp (mt hreaches.mpr hnext))
      rw [if_neg hnext, hfloor, hcut]

/-- **`mod` is the rest of the division, and `div` its quotient unless the next whole number is within half a unit of
the last place of the exact quotient.** Then it is one more, away from zero. -/
theorem cutDivision_iff (hx : rational? x = some a) (hy : rational? y = some b) (hb : b ≠ 0) (hlt : |a / b| < 2 ^ 53) :
    ∃ d r quotient rest, Value.intDivide (.number x) (.number y) = .ok (.number d) ∧
      Value.modulo (.number x) (.number y) = .ok (.number r) ∧
      rational? d = some quotient ∧ rational? r = some rest ∧ CutDivision a b (cut (a / b)) rest ∧
      (CutDivision a b quotient rest ↔ ¬ ReachesNext (a / b)) ∧
      (ReachesNext (a / b) → quotient = cut (a / b) + SignType.sign (a / b)) := by
  have hcut := cutDivision_cut a hb
  refine ⟨_, _, _, _, rfl, rfl, rational?_truncate_quotient hx hy hb hlt, rational?_remainder hx hy hb, hcut, ?_, ?_⟩
  · by_cases hnext : ReachesNext (a / b)
    · refine iff_of_false (fun h => ?_) (not_not_intro hnext)
      have hhalf := half_le_of_reachesNext hlt hnext
      have hzero : (SignType.sign (a / b) : ℤ) = 0 := by
        have hsame := h.whole
        rw [if_pos hnext] at hsame
        exact add_eq_left.mp (by exact_mod_cast hsame)
      rcases lt_trichotomy (a / b) 0 with hneg | heq | hpos
      · rw [sign_neg hneg] at hzero
        cases hzero
      · rw [heq, abs_zero] at hhalf
        linarith
      · rw [sign_pos hpos] at hzero
        cases hzero
    · rw [if_neg hnext]
      exact iff_of_true hcut hnext
  · intro hnext
    rw [if_pos hnext]
    push_cast
    rfl

end

/-- Minus seven and a half is cut by two without coming near to a whole quotient. -/
theorem cutDivision_halves : rational? (-7.5) = some (-15 / 2) ∧ rational? 2.0 = some 2 ∧
    ∃ d r quotient rest, Value.intDivide (.number (-7.5)) (.number 2.0) = .ok (.number d) ∧
      Value.modulo (.number (-7.5)) (.number 2.0) = .ok (.number r) ∧
      rational? d = some quotient ∧ rational? r = some rest ∧ CutDivision (-15 / 2) 2 (cut (-15 / 2 / 2)) rest ∧
      (CutDivision (-15 / 2) 2 quotient rest ↔ ¬ ReachesNext (-15 / 2 / 2)) ∧
      (ReachesNext (-15 / 2 / 2) → quotient = cut (-15 / 2 / 2) + SignType.sign (-15 / 2 / 2 : ℚ)) := by
  have hx : rational? (-7.5) = some (-15 / 2) := by decide +kernel
  have hy : rational? 2.0 = some 2 := by decide +kernel
  exact ⟨hx, hy, cutDivision_iff hx hy two_ne_zero (by norm_num [abs_of_neg])⟩

/-- One tenth is a little more than a tenth, so it goes nine times into one and leaves a rest; but the quotient is
rounded to ten, and ten tenths with the rest are more than one. -/
theorem tenths_counted_once_more : ∃ (tenth rest : ℚ) (d r : Float), rational? 1.0 = some 1 ∧
    rational? 0.1 = some tenth ∧ tenth ≠ 0 ∧ |1 / tenth| < 2 ^ 53 ∧
    Value.intDivide (.number 1.0) (.number 0.1) = .ok (.number d) ∧
    Value.modulo (.number 1.0) (.number 0.1) = .ok (.number r) ∧
    rational? d = some 10 ∧ rational? r = some rest ∧ cut (1 / tenth) = 9 ∧ 1 < 10 * tenth + rest := by
  have hvalues : rational? 1.0 = some 1 ∧ rational? 0.1 = some (3602879701896397 / 36028797018963968) ∧
      rational? (truncate (1.0 / 0.1)) = some 10 ∧
      rational? (remainder 1.0 0.1) = some (3602879701896395 / 36028797018963968) ∧
      cut (1 / (3602879701896397 / 36028797018963968)) = 9 := by
    decide +kernel
  obtain ⟨hone, htenth, hten, hrest, hnine⟩ := hvalues
  exact ⟨_, _, _, _, hone, htenth, by norm_num, by norm_num [abs_of_pos], rfl, rfl, hten, hrest, hnine, by norm_num⟩

end Reckon
