import Reckon.Proofs.Number.Result

/-!
# `Proofs.Number.Remainder` — the remainder is exact

The remainder is worked out on mantissas moved to the same exponent. It is less than the moved divisor, and no more
than the moved dividend, and one of the two was not moved at all; so it has no more bits than a mantissa
(`remainder_lt`), and putting the bits together loses nothing (`ofFloat_compose`). So the remainder is what is left
of the dividend when the whole multiples of the divisor are taken away, cut toward zero (`rational?_remainder`).

Main statements: `ofFloat_compose`, `rational?_remainder`.
-/

namespace Reckon.Number

open Float.Model UnpackedFloat

/-! ## Bits put together -/

section

variable {negative : Bool} {m : Nat} {e : Int}

/-- There is a number for every mantissa and exponent of the right shape. -/
theorem exists_ofFloat (negative : Bool) (h : Shaped m e) : ∃ x, Binary.ofFloat x = .finite negative m e := by
  obtain ⟨sign, hsign⟩ : ∃ sign : Sign, (sign == .negative) = negative := by
    cases negative
    · exact ⟨.positive, rfl⟩
    · exact ⟨.negative, rfl⟩
  rcases Nat.eq_zero_or_pos m with rfl | hpos
  · obtain rfl : e = -1074 := h.full.resolve_left (by decide)
    exact ⟨_, ofFloat_pack (u := .zero sign) (by rw [decoded, hsign]) h⟩
  · exact ⟨_, ofFloat_pack (u := .finite sign m e hpos) (by rw [decoded, hsign]) h⟩

/-- Bits that are put together are those of the number with the mantissa moved up. -/
theorem compose_eq {x : Float} {p : Int} {shift : Nat} (hshift : shift = min (52 - m.log2) (e + 1074).toNat)
    (hx : Binary.ofFloat x = .finite negative (m * 2 ^ shift) p) (hp : m * 2 ^ shift < 2 ^ 52 ∨ p = e - shift) :
    Binary.compose negative m e = x := by
  have hbits := toNat_toBits_of_finite hx
  have hhigh := (shaped_of_ofFloat hx).high
  have hpow : ∀ k, Nat.pow 2 k = 2 ^ k := fun _ => rfl
  have hsame : (if negative then Nat.pow 2 63 else 0) +
      (if m * Nat.pow 2 shift < Nat.pow 2 52 then 0 else (e - shift + 1075).toNat) * Nat.pow 2 52 +
        m * Nat.pow 2 shift % Nat.pow 2 52 = x.toBits.toNat := by
    rw [hbits]
    simp only [hpow]
    generalize m * 2 ^ shift = fraction at *
    by_cases hlow : fraction < 2 ^ 52
    · rw [if_pos hlow, if_pos hlow, Nat.mod_eq_of_lt hlow, Nat.zero_mul, Nat.add_zero]
    · rw [if_neg hlow, if_neg hlow, hp.resolve_left hlow]
      omega
  have hword : UInt64.ofNat x.toBits.toNat = x.toBits := UInt64.ofNat_toNat
  unfold Binary.compose
  dsimp only
  rw [← hshift, hsame, hword]
  exact Float.ofBits_toBits x

/-- **What is put together stands for the mantissa times the power of two.** -/
theorem rational?_compose (negative : Bool) (hlt : m < 2 ^ 53) (hleast : -1074 ≤ e) (hgreatest : e ≤ 971) :
    rational? (Binary.compose negative m e) = some (withSign negative (m * 2 ^ e)) := by
  generalize hshift : min (52 - m.log2) (e + 1074).toNat = shift
  have hvalue := mul_zpow_sub_natCast m shift e
  rcases Nat.eq_zero_or_pos m with rfl | hpos
  · have hzero : 0 * 2 ^ shift = 0 := Nat.zero_mul _
    obtain ⟨x, hx⟩ := exists_ofFloat negative shaped_zero
    rw [compose_eq (p := -1074) hshift.symm (by rw [hzero, hx]) (.inl (by rw [hzero]; decide)), rational?_of_ofFloat hx]
    simp
  · have hlog := log2_shifted hpos shift
    have hne : m * 2 ^ shift ≠ 0 := by positivity
    have hwidth : m.log2 < 53 := (Nat.log2_lt hpos.ne').mpr hlt
    rcases Nat.lt_or_ge (m * 2 ^ shift) (2 ^ 52) with hlow | hhigh
    · have hshort : m.log2 + shift < 52 := hlog ▸ (Nat.log2_lt hne).mpr hlow
      have hexponent : e - shift = -1074 := by omega
      obtain ⟨x, hx⟩ := exists_ofFloat negative (m := m * 2 ^ shift) (e := e - shift)
        ⟨by omega, by omega, by omega, .inr hexponent⟩
      rw [compose_eq hshift.symm hx (.inl hlow), rational?_of_ofFloat hx, hvalue]
    · have hfull : m * 2 ^ shift < 2 ^ 53 := (Nat.log2_lt hne).mp (by omega)
      obtain ⟨x, hx⟩ := exists_ofFloat negative (m := m * 2 ^ shift) (e := e - shift)
        ⟨hfull, by omega, by omega, .inl hhigh⟩
      rw [compose_eq hshift.symm hx (.inr rfl), rational?_of_ofFloat hx, hvalue]

end

/-! ## Remainders -/

section

variable {x y : Float} {a b : ℚ}

/-- What is left of one mantissa after another has no more bits than a mantissa. -/
theorem remainder_lt {m n : Nat} {q r : Int} (hm : m < 2 ^ 53) (hn : n < 2 ^ 53) (hpos : 0 < n) :
    m * 2 ^ (q - min q r).toNat % (n * 2 ^ (r - min q r).toNat) < 2 ^ 53 := by
  rcases le_total q r with hle | hle
  · rw [min_eq_left hle, sub_self, Int.toNat_zero, Nat.pow_zero, Nat.mul_one]
    exact (Nat.mod_le _ _).trans_lt hm
  · rw [min_eq_right hle, sub_self, Int.toNat_zero, Nat.pow_zero, Nat.mul_one]
    exact (Nat.mod_lt _ hpos).trans hn

/-- **The remainder is what is left of the dividend after the whole multiples of the divisor.** -/
theorem rational?_remainder (hx : rational? x = some a) (hy : rational? y = some b) (hb : b ≠ 0) :
    rational? (remainder x y) = some (a - cut (a / b) * b) := by
  obtain ⟨negative, m, q, hdecoded, hshaped, rfl⟩ := exists_of_rational hx
  obtain ⟨negative', n, r, hdecoded', hshaped', rfl⟩ := exists_of_rational hy
  have hn : 0 < n := pos_of_ne_zero hb
  have hrest := remainder_lt (q := q) (r := r) hshaped.high hshaped'.high hn
  have hleast := hshaped.least
  have hleast' := hshaped'.least
  have hgreatest := hshaped.greatest
  have hpow : ∀ k, Nat.pow 2 k = 2 ^ k := fun _ => rfl
  unfold remainder
  rw [hdecoded, hdecoded']
  dsimp only
  rw [if_neg hn.ne', hpow, hpow, rational?_compose negative hrest (by omega) (by omega)]
  rw [← mul_zpow_moved m (min_le_left q r), ← mul_zpow_moved n (min_le_right q r)]
  generalize hdividend : m * 2 ^ (q - min q r).toNat = dividend
  generalize hdivisor : n * 2 ^ (r - min q r).toNat = divisor
  have hdivisorPos : 0 < divisor := by
    rw [← hdivisor]
    exact Nat.mul_pos hn (Nat.two_pow_pos _)
  have hunit := zpow_pos_two (min q r)
  have hquotient : (dividend : ℚ) * 2 ^ min q r / (divisor * 2 ^ min q r) = dividend / divisor :=
    mul_div_mul_right _ _ hunit.ne'
  have hfloor : ⌊(dividend : ℚ) / divisor⌋ = (dividend / divisor : Nat) := Rat.floor_natCast_div_natCast _ _
  have hsum : (dividend : ℚ) = divisor * (dividend / divisor : Nat) + (dividend % divisor : Nat) := by
    exact_mod_cast (Nat.div_add_mod dividend divisor).symm
  rw [withSign_div, hquotient, cut_withSign _ (by positivity), hfloor]
  congr 1
  generalize dividend / divisor = whole at *
  generalize dividend % divisor = rest at *
  rw [hsum]
  cases negative <;> cases negative' <;> simp [withSign] <;> ring

/-- What is cut off lies behind the point, on the side of the fraction. -/
theorem sub_cut_of_nonneg {q : ℚ} (hq : 0 ≤ q) : 0 ≤ q - cut q ∧ q - cut q < 1 := by
  rw [cut_of_nonneg hq]
  exact ⟨Int.fract_nonneg q, Int.fract_lt_one q⟩

theorem sub_cut_of_nonpos {q : ℚ} (hq : q ≤ 0) : -1 < q - cut q ∧ q - cut q ≤ 0 := by
  obtain ⟨hlow, hhigh⟩ := sub_cut_of_nonneg (neg_nonneg.mpr hq)
  rw [cut_neg, Int.cast_neg] at hlow hhigh
  constructor <;> linarith

/-- The rest is nearer to zero than the divisor, and on the side of the dividend. -/
theorem rest_bounds (a : ℚ) {b : ℚ} (hb : b ≠ 0) :
    |a - cut (a / b) * b| < |b| ∧ (0 ≤ a → 0 ≤ a - cut (a / b) * b) ∧ (a ≤ 0 → a - cut (a / b) * b ≤ 0) := by
  have hrest : a - cut (a / b) * b = (a / b - cut (a / b)) * b := by
    rw [sub_mul, div_mul_cancel₀ a hb]
  have habs : |a / b - cut (a / b)| < 1 := by
    rw [abs_lt]
    rcases le_total 0 (a / b) with h | h
    · obtain ⟨hlow, hhigh⟩ := sub_cut_of_nonneg h
      exact ⟨by linarith, hhigh⟩
    · obtain ⟨hlow, hhigh⟩ := sub_cut_of_nonpos h
      exact ⟨hlow, by linarith⟩
  rw [hrest, abs_mul]
  refine ⟨mul_lt_of_lt_one_left (abs_pos.mpr hb) habs, fun ha => ?_, fun ha => ?_⟩
  · rcases lt_or_gt_of_ne hb with hneg | hpos
    · exact mul_nonneg_of_nonpos_of_nonpos (sub_cut_of_nonpos (div_nonpos_of_nonneg_of_nonpos ha hneg.le)).2 hneg.le
    · exact mul_nonneg (sub_cut_of_nonneg (div_nonneg ha hpos.le)).1 hpos.le
  · rcases lt_or_gt_of_ne hb with hneg | hpos
    · exact mul_nonpos_of_nonneg_of_nonpos (sub_cut_of_nonneg (div_nonneg_of_nonpos ha hneg.le)).1 hneg.le
    · exact mul_nonpos_of_nonpos_of_nonneg (sub_cut_of_nonpos (div_nonpos_of_nonpos_of_nonneg ha hpos.le)).2 hpos.le

end

end Reckon.Number
