import Reckon.Proofs.Number.Exact

/-!
# `Proofs.Number.Place` — which number a fraction is rounded to

The numbers near a positive fraction are the multiples of a power of two, the last place of a mantissa of full
width, or that of the least exponent (`place`). A sum, a product and a quotient are the multiple nearest to the
exact value, and of two equally near ones the even one (`Rounds`). This holds for all magnitudes that are not
rounded to infinity, for the numbers too small for full width and for zero too (`exists_rounded`). A fraction that is such a
multiple itself is kept (`Rounds.eq_of_multiple`), as every number is one of its own last place (`place_of_shaped`).

Main statements: `exists_rounded`, `exists_rounded_exact`, `Rounds.eq_of_multiple`.
-/

namespace Reckon.Number

open Float.Model UnpackedFloat

/-! ## Places -/

/-- The exponent of the last place that the numbers nearest to a positive fraction have. -/
def place (q : ℚ) : ℤ :=
  max (Int.log 2 q - 52) (-1074)

/-- A fraction is rounded to a multiple of its last place: to the nearest one, or to the even one of two. -/
structure Rounds (q : ℚ) (r : Nat) : Prop where
  near : |(r : ℚ) * 2 ^ place q - q| ≤ 2 ^ place q / 2
  even : |(r : ℚ) * 2 ^ place q - q| = 2 ^ place q / 2 → r % 2 = 0

section

variable {q : ℚ} {r : Nat}

theorem zpow_pos_two (e : ℤ) : (0 : ℚ) < 2 ^ e :=
  zpow_pos two_pos e

theorem zpow_le_one_half {e : ℤ} (he : e < 0) : (2 : ℚ) ^ e ≤ 1 / 2 := by
  calc (2 : ℚ) ^ e ≤ 2 ^ (-1 : ℤ) := zpow_le_zpow_right₀ one_le_two (by omega)
    _ = 1 / 2 := by norm_num

theorem two_le_zpow {e : ℤ} (he : 0 < e) : (2 : ℚ) ≤ 2 ^ e := by
  calc (2 : ℚ) = 2 ^ (1 : ℤ) := (zpow_one 2).symm
    _ ≤ 2 ^ e := zpow_le_zpow_right₀ one_le_two he

/-- A mantissa with zeros appended has the same value at an exponent that is less by as many. -/
theorem mul_zpow_sub_natCast (m k : Nat) (e : ℤ) : ((m * 2 ^ k : Nat) : ℚ) * 2 ^ (e - k) = m * 2 ^ e := by
  push_cast
  rw [mul_assoc, ← zpow_natCast, ← zpow_add₀ two_ne_zero, add_sub_cancel]

/-- The value of a mantissa that was moved up to a lesser exponent. -/
theorem mul_zpow_moved (m : Nat) {e least : ℤ} (hle : least ≤ e) :
    ((m * 2 ^ (e - least).toNat : Nat) : ℚ) * 2 ^ least = m * 2 ^ e := by
  obtain ⟨k, hk⟩ := Int.eq_ofNat_of_zero_le (sub_nonneg.mpr hle)
  rw [← mul_zpow_sub_natCast m k e, hk, Int.toNat_natCast, ← hk, sub_sub_cancel]

/-- A fraction is less than any mantissa of full width in its last place. -/
theorem lt_place (q : ℚ) : q < 2 ^ (place q + 53) := by
  have hlog : q < ((2 : Nat) : ℚ) ^ (Int.log 2 q + 1) := Int.lt_zpow_succ_log_self one_lt_two q
  refine hlog.trans_le (zpow_le_zpow_right₀ one_le_two ?_)
  have hle : Int.log 2 q - 52 ≤ place q := le_max_left _ _
  omega

/-- Unless its last place is the least one, it has full width. -/
theorem place_le (hq : 0 < q) (h : place q ≠ -1074) : 2 ^ (place q + 52) ≤ q := by
  have hplace : place q = Int.log 2 q - 52 := (max_choice _ _).resolve_right h
  rw [hplace, sub_add_cancel]
  exact Int.zpow_log_le_self one_lt_two hq

theorem place_lt {e : ℤ} (hq : 0 < q) (hlt : q < 2 ^ (e + 53)) (hleast : -1074 ≤ e) : place q ≤ e := by
  have hlog : Int.log 2 q < e + 53 := (Int.lt_zpow_iff_log_lt one_lt_two hq).mp hlt
  exact max_le (by omega) hleast

theorem le_place {e : ℤ} (hq : 0 < q) (hle : 2 ^ (e + 52) ≤ q) : e ≤ place q := by
  have hlog : e + 52 ≤ Int.log 2 q := (Int.zpow_le_iff_le_log one_lt_two hq).mp hle
  exact le_max_of_le_left (by omega)

/-- A mantissa moved down to its last place has fifty-three bits at most, and one more if it is carried. -/
theorem Rounds.le (h : Rounds q r) : r ≤ 2 ^ 53 := by
  have hunit := zpow_pos_two (place q)
  have hlt := lt_place q
  rw [zpow_add₀ two_ne_zero, mul_comm] at hlt
  obtain ⟨-, hup⟩ := abs_le.mp h.near
  have hbound : (r : ℚ) * 2 ^ place q < (2 ^ 53 + 1) * 2 ^ place q := by linarith
  have hlt' : (r : ℚ) < 2 ^ 53 + 1 := lt_of_mul_lt_mul_right hbound hunit.le
  have hnat : r < 2 ^ 53 + 1 := by exact_mod_cast hlt'
  omega

/-- Unless the last place is the least one, the mantissa is as wide as it can be. -/
theorem Rounds.full (h : Rounds q r) (hq : 0 < q) : place q = -1074 ∨ 2 ^ 52 ≤ r := by
  refine or_iff_not_imp_left.mpr fun hplace => ?_
  have hunit := zpow_pos_two (place q)
  have hle := place_le hq hplace
  rw [zpow_add₀ two_ne_zero, mul_comm] at hle
  obtain ⟨hdown, -⟩ := abs_le.mp h.near
  have hbound : ((2 : ℚ) ^ 52 - 1) * 2 ^ place q < r * 2 ^ place q := by linarith
  have hlt : (2 : ℚ) ^ 52 - 1 < r := lt_of_mul_lt_mul_right hbound hunit.le
  have hnat : 2 ^ 52 < r + 1 := by exact_mod_cast (sub_lt_iff_lt_add.mp hlt)
  omega

/-- Rounding down from a multiple of the last place does not pass it. -/
theorem Rounds.le_of_le {k : Nat} (h : Rounds q r) (hq : q ≤ k * 2 ^ place q) : r ≤ k := by
  have hunit := zpow_pos_two (place q)
  obtain ⟨-, hup⟩ := abs_le.mp h.near
  have hbound : (r : ℚ) * 2 ^ place q < (k + 1) * 2 ^ place q := by linarith
  have hlt : (r : ℚ) < k + 1 := lt_of_mul_lt_mul_right hbound hunit.le
  have hnat : r < k + 1 := by exact_mod_cast hlt
  omega

/-- Nor does rounding up to it. -/
theorem Rounds.le_of_ge {k : Nat} (h : Rounds q r) (hq : k * 2 ^ place q ≤ q) : k ≤ r := by
  have hunit := zpow_pos_two (place q)
  obtain ⟨hdown, -⟩ := abs_le.mp h.near
  have hbound : (k : ℚ) * 2 ^ place q < (r + 1) * 2 ^ place q := by linarith
  have hlt : (k : ℚ) < r + 1 := lt_of_mul_lt_mul_right hbound hunit.le
  have hnat : k < r + 1 := by exact_mod_cast hlt
  omega

/-- **A multiple of the last place is kept.** -/
theorem Rounds.eq_of_multiple {k : Nat} (h : Rounds q r) (hq : q = k * 2 ^ place q) : r = k :=
  Nat.le_antisymm (h.le_of_le hq.le) (h.le_of_ge hq.ge)

end

/-! ## Rounding -/

namespace Between

variable {em : ExtendedMantissa} {unit value : ℚ}

/-- In the middle between two mantissas the even one is taken. -/
theorem rounded_even (hunit : 0 < unit) (h : Between em unit value)
    (hhalf : |(em.roundedMantissa : ℚ) * unit - value| = unit / 2) : em.roundedMantissa % 2 = 0 := by
  obtain ⟨mantissa, roundBit, stickyBit⟩ := em
  cases roundBit with
  | true =>
    cases stickyBit with
    | false =>
      show (mantissa + mantissa % 2) % 2 = 0
      omega
    | true =>
      have hnext : (ExtendedMantissa.mk mantissa true true).roundedMantissa = mantissa + 1 := rfl
      simp only [Between] at h
      rw [hnext] at hhalf
      push_cast at hhalf
      rw [abs_of_pos (by linarith)] at hhalf
      linarith
  | false =>
    have hsame : (ExtendedMantissa.mk mantissa false stickyBit).roundedMantissa = mantissa := by
      cases stickyBit <;> rfl
    rw [hsame] at hhalf
    cases stickyBit with
    | false =>
      simp only [Between] at h
      rw [h, sub_self, abs_zero] at hhalf
      linarith
    | true =>
      simp only [Between] at h
      rw [abs_of_neg (by linarith)] at hhalf
      linarith

theorem bounds (hunit : 0 < unit) (h : Between em unit value) :
    em.mantissa * unit ≤ value ∧ value < (em.mantissa + 1) * unit := by
  obtain ⟨mantissa, roundBit, stickyBit⟩ := em
  cases roundBit <;> cases stickyBit <;> simp only [Between] at h <;> constructor <;> linarith

end Between

section

variable {m : Nat} {e : Int} {accuracy : Accuracy} {value : ℚ}

theorem mantissa_ofMantissaAndAccuracy (m : Nat) (accuracy : Accuracy) :
    (ExtendedMantissa.ofMantissaAndAccuracy m accuracy).mantissa = m := by
  cases accuracy with
  | exact => rfl
  | inexact order => cases order <;> rfl

theorem targetExponent_totalExponent (m : Nat) (e : Int) :
    Float.Model.Format.binary64.targetExponent (totalExponent m e) = max ((m.log2 : Int) + e - 52) (-1074) := by
  show max ((m.log2 : Int) + 1 + e - 53) (-1074) = _
  congr 1
  omega

/-- The bits of the mantissa tell where a fraction lies between powers of two. -/
theorem log_of_bounds (hm : 0 < m) (hlow : m * (2 : ℚ) ^ e ≤ value) (hhigh : value < (m + 1) * (2 : ℚ) ^ e) :
    Int.log 2 value = m.log2 + e := by
  have hunit := zpow_pos_two e
  have hm' : (0 : ℚ) < m := by exact_mod_cast hm
  have hpos : 0 < value := (mul_pos hm' hunit).trans_le hlow
  have hself : ((2 : Nat) : ℚ) ^ (m.log2 + e) ≤ value := by
    have hlog : ((2 ^ m.log2 : Nat) : ℚ) ≤ m := by exact_mod_cast Nat.log2_self_le hm.ne'
    push_cast at hlog ⊢
    rw [zpow_add₀ two_ne_zero, zpow_natCast]
    exact (mul_le_mul_of_nonneg_right hlog hunit.le).trans hlow
  have hnext : value < ((2 : Nat) : ℚ) ^ (m.log2 + e + 1) := by
    have hlog : ((m + 1 : Nat) : ℚ) ≤ (2 ^ (m.log2 + 1) : Nat) := by exact_mod_cast (Nat.lt_log2_self (n := m))
    push_cast at hlog ⊢
    have hpower : (2 : ℚ) ^ ((m.log2 : ℤ) + e + 1) = 2 ^ (m.log2 + 1) * 2 ^ e := by
      rw [add_right_comm, zpow_add₀ two_ne_zero, ← Nat.cast_succ, zpow_natCast]
    rw [hpower]
    exact hhigh.trans_le (mul_le_mul_of_nonneg_right hlog hunit.le)
  have hle := (Int.zpow_le_iff_le_log one_lt_two hpos).mp hself
  have hlt := (Int.lt_zpow_iff_log_lt one_lt_two hpos).mp hnext
  omega

/-- A mantissa is moved to the last place of the fraction. -/
theorem targetExponent_eq_place (hvalue : Between (.ofMantissaAndAccuracy m accuracy) (2 ^ e) value) (hpos : 0 < value)
    (hplace : e ≤ place value) :
    Float.Model.Format.binary64.targetExponent (totalExponent m e) = place value := by
  obtain ⟨hlow, hhigh⟩ := hvalue.bounds (zpow_pos_two e)
  rw [mantissa_ofMantissaAndAccuracy] at hlow hhigh
  rw [targetExponent_totalExponent]
  rcases Nat.eq_zero_or_pos m with rfl | hm
  · -- a fraction of less than one unit has its last place below the unit, unless that is the least one
    have hlog : Int.log 2 value < e := by
      refine (Int.lt_zpow_iff_log_lt one_lt_two hpos).mp ?_
      simpa using hhigh
    have hzero : Nat.log2 0 = 0 := rfl
    unfold place at *
    omega
  · rw [place, log_of_bounds hm hlow hhigh]

theorem shiftToTargetExponent_place (hvalue : Between (.ofMantissaAndAccuracy m accuracy) (2 ^ e) value)
    (hpos : 0 < value) (hplace : e ≤ place value) :
    shiftToTargetExponent .binary64 m e accuracy =
      (ExtendedMantissa.ofMantissaAndAccuracy m accuracy >>> (place value - e).toNat, place value) := by
  unfold shiftToTargetExponent shiftToExponent
  dsimp only
  rw [targetExponent_eq_place hvalue hpos hplace]
  refine Prod.ext rfl ?_
  show e + ((place value - e).toNat : Int) = place value
  omega

/-- What has no more bits than a mantissa is not shifted. -/
theorem shiftToTargetExponent_fitting {r : Nat} (hr : r < 2 ^ 53) (hleast : -1074 ≤ e) :
    shiftToTargetExponent .binary64 r e .exact = (⟨r, false, false⟩, e) := by
  have hlog : r.log2 < 53 := by
    rcases Nat.eq_zero_or_pos r with rfl | hpos
    · decide
    · exact (Nat.log2_lt hpos.ne').mpr hr
  have hshift : (max ((r.log2 : Int) + e - 52) (-1074) - e).toNat = 0 := by omega
  unfold shiftToTargetExponent shiftToExponent
  dsimp only
  rw [targetExponent_totalExponent, hshift]
  exact Prod.ext rfl (add_zero e)

/-- What is carried out of a mantissa is moved back, and nothing is left without a sign. -/
theorem decoded_roundWithAccuracy {em : ExtendedMantissa} {p : Int} (sign : Sign)
    (hshifted : shiftToTargetExponent .binary64 m e accuracy = (em, p)) (hle : em.roundedMantissa ≤ 2 ^ 53)
    (hfull : p = -1074 ∨ 2 ^ 52 ≤ em.roundedMantissa) (hleast : -1074 ≤ p) (hgreatest : p ≤ 971)
    (hroom : em.roundedMantissa = 2 ^ 53 → p ≤ 970) :
    ∃ mantissa exponent, Shaped mantissa exponent ∧
      (mantissa : ℚ) * 2 ^ exponent = em.roundedMantissa * 2 ^ p ∧
      decoded (roundWithAccuracy .binary64 sign m e accuracy) = .finite (sign == .negative) mantissa exponent := by
  rcases Nat.lt_or_eq_of_le hle with hlt | hcarry
  · rcases Nat.eq_zero_or_pos em.roundedMantissa with hzero | hpos
    · refine ⟨0, -1074, ⟨by decide, le_rfl, by decide, .inr rfl⟩, by rw [hzero]; simp, ?_⟩
      unfold roundWithAccuracy
      simp only [hshifted, shiftToTargetExponent_fitting hlt hleast]
      rw [dif_pos hzero, decoded]
    · refine ⟨em.roundedMantissa, p, ⟨hlt, hleast, hgreatest, hfull.symm⟩, rfl, ?_⟩
      unfold roundWithAccuracy
      simp only [hshifted, shiftToTargetExponent_fitting hlt hleast]
      rw [dif_neg hpos.ne', decoded]
  · have hnormal : Normal (2 ^ 52) (p + 1) := ⟨le_rfl, by decide, by omega, by have := hroom hcarry; omega⟩
    refine ⟨2 ^ 52, p + 1, hnormal.shaped, ?_, ?_⟩
    · rw [hcarry, zpow_add₀ two_ne_zero, zpow_one]
      push_cast
      ring
    · have hshifted' : shiftToTargetExponent .binary64 m e accuracy = (em, p + 1 - (1 : Nat)) := by
        rw [hshifted]
        simp
      rw [roundWithAccuracy_of_shifted (k := 1) hnormal hshifted' hcarry, decoded]

/-- Half a unit beyond the greatest finite number. Below it nothing is rounded to infinity. -/
def ceiling : ℚ := (2 ^ 53 - 1 / 2) * 2 ^ (971 : ℤ)

theorem place_le_of_lt_ceiling (hpos : 0 < value) (hlt : value < ceiling) : place value ≤ 971 := by
  refine place_lt hpos (hlt.trans ?_) (by decide)
  rw [ceiling, zpow_add₀ two_ne_zero, mul_comm]
  exact mul_lt_mul_of_pos_left (by norm_num) (zpow_pos_two _)

theorem Rounds.place_lt_of_carry {r : Nat} (h : Rounds value r) (hlt : value < ceiling) (hcarry : r = 2 ^ 53) :
    place value ≠ 971 := by
  intro hplace
  obtain ⟨-, hup⟩ := abs_le.mp h.near
  have hpower : ((2 ^ 53 : Nat) : ℚ) = 2 ^ 53 := by norm_num
  rw [hplace, hcarry, hpower] at hup
  unfold ceiling at hlt
  linarith

/-- **The result of an operation is the exact value, rounded to its last place.** -/
theorem exists_rounded (sign : Sign) (hvalue : Between (.ofMantissaAndAccuracy m accuracy) (2 ^ e) value)
    (hpos : 0 < value) (hplace : e ≤ place value) (hlt : value < ceiling) :
    ∃ r mantissa exponent, Rounds value r ∧ Shaped mantissa exponent ∧
      (mantissa : ℚ) * 2 ^ exponent = r * 2 ^ place value ∧
      decoded (roundWithAccuracy .binary64 sign m e accuracy) = .finite (sign == .negative) mantissa exponent := by
  have hleast : -1074 ≤ place value := le_max_right _ _
  have hgreatest : place value ≤ 971 := place_le_of_lt_ceiling hpos hlt
  have hshifted := shiftToTargetExponent_place hvalue hpos hplace
  have hbetween : Between (ExtendedMantissa.ofMantissaAndAccuracy m accuracy >>> (place value - e).toNat)
      (2 ^ place value) value := by
    have hunit : (2 : ℚ) ^ e * 2 ^ (place value - e).toNat = 2 ^ place value := by
      rw [← zpow_natCast, ← zpow_add₀ two_ne_zero]
      congr 1
      omega
    rw [← hunit]
    exact hvalue.shiftRight (zpow_pos_two e) _
  have hrounds : Rounds value _ :=
    ⟨hbetween.rounded (zpow_pos_two _), hbetween.rounded_even (zpow_pos_two _)⟩
  obtain ⟨mantissa, exponent, hshaped, hsame, hdecoded⟩ :=
    decoded_roundWithAccuracy sign hshifted hrounds.le (hrounds.full hpos) hleast hgreatest
      fun hcarry => by have := hrounds.place_lt_of_carry hlt hcarry; omega
  exact ⟨_, mantissa, exponent, hrounds, hshaped, hsame, hdecoded⟩

/-- A mantissa with room is moved up before it is rounded. -/
theorem exists_rounded_exact (sign : Sign) (hm : 0 < m) (hlt : m * (2 : ℚ) ^ e < ceiling) :
    ∃ r mantissa exponent, Rounds (m * (2 : ℚ) ^ e) r ∧ Shaped mantissa exponent ∧
      (mantissa : ℚ) * 2 ^ exponent = r * 2 ^ place (m * (2 : ℚ) ^ e) ∧
      decoded (UnpackedFloat.round .binary64 sign m e) = .finite (sign == .negative) mantissa exponent := by
  have hunit := zpow_pos_two e
  have hm' : (0 : ℚ) < m := by exact_mod_cast hm
  have htarget : Float.Model.Format.binary64.targetExponent (totalExponent m e) = place (m * (2 : ℚ) ^ e) := by
    rw [targetExponent_totalExponent, place,
      log_of_bounds hm le_rfl (mul_lt_mul_of_pos_right (lt_add_one _) hunit)]
  unfold UnpackedFloat.round decreaseExponent
  dsimp only
  rw [htarget, Nat.shiftLeft_eq]
  refine exists_rounded sign ?_ (mul_pos hm' hunit) (by omega) hlt
  generalize (e - place (m * (2 : ℚ) ^ e)).toNat = k
  exact (mul_zpow_sub_natCast m k e).symm

end

/-! ## Places of numbers -/

section

variable {m : Nat} {e : Int}

/-- The last place of a number is that of its mantissa. -/
theorem place_of_shaped (h : Shaped m e) (hm : 0 < m) : place (m * (2 : ℚ) ^ e) = e := by
  have hunit := zpow_pos_two e
  have hlog : m.log2 < 53 := (Nat.log2_lt hm.ne').mpr h.high
  have hleast := h.least
  rw [place, log_of_bounds hm le_rfl (mul_lt_mul_of_pos_right (lt_add_one _) hunit)]
  rcases h.full with hfull | hexponent
  · have hle : 52 ≤ m.log2 := (Nat.le_log2 hm.ne').mpr hfull
    omega
  · omega

theorem Shaped.le (h : Shaped m e) : m * (2 : ℚ) ^ e ≤ (2 ^ 53 - 1) * 2 ^ (971 : ℤ) := by
  have hhigh : (m : ℚ) ≤ 2 ^ 53 - 1 := by
    rw [le_sub_iff_add_le]
    exact_mod_cast h.high
  have hpower : (2 : ℚ) ^ e ≤ 2 ^ (971 : ℤ) := zpow_le_zpow_right₀ one_le_two h.greatest
  exact mul_le_mul hhigh hpower (zpow_pos_two e).le (by norm_num)

theorem Shaped.lt_ceiling (h : Shaped m e) : m * (2 : ℚ) ^ e < ceiling :=
  h.le.trans_lt (mul_lt_mul_of_pos_right (by norm_num) (zpow_pos_two _))

end

/-! ## Whole parts of rounded fractions -/

section

variable {q : ℚ} {r n : Nat}

/-- Whole numbers are multiples of a last place behind the point. -/
theorem natCast_eq_multiple {p : ℤ} (hp : p ≤ 0) (k : Nat) : (k : ℚ) = (k * 2 ^ (-p).toNat : Nat) * 2 ^ p := by
  rw [← zero_sub, mul_zpow_moved k hp, zpow_zero, mul_one]

theorem place_le_zero (hq : 0 ≤ q) (hlt : q < 2 ^ 53) : place q ≤ 0 := by
  rcases hq.eq_or_lt with rfl | hpos
  · simp [place]
  · refine place_lt hpos ?_ (by decide)
    rw [zero_add]
    exact_mod_cast hlt

/-- Rounding does not pass the whole numbers around a fraction. -/
theorem Rounds.whole_bounds (h : Rounds q r) (hp : place q ≤ 0) (hlow : n ≤ q) (hhigh : q < n + 1) :
    (n : ℚ) ≤ r * 2 ^ place q ∧ r * 2 ^ place q ≤ (n : ℚ) + 1 := by
  have hunit := (zpow_pos_two (place q)).le
  have hn := natCast_eq_multiple hp n
  have hnext : (n : ℚ) + 1 = _ := (Nat.cast_succ n).symm.trans (natCast_eq_multiple hp (n + 1))
  have hle := h.le_of_ge (hn.ge.trans hlow)
  have hge := h.le_of_le (hhigh.le.trans hnext.le)
  constructor
  · calc (n : ℚ) = _ := hn
      _ ≤ r * 2 ^ place q := mul_le_mul_of_nonneg_right (by exact_mod_cast hle) hunit
  · calc (r : ℚ) * 2 ^ place q ≤ _ := mul_le_mul_of_nonneg_right (by exact_mod_cast hge) hunit
      _ = n + 1 := hnext.symm

/-- **A fraction that is not within half a unit of the next whole number keeps its whole part.** -/
theorem Rounds.floor_eq (h : Rounds q r) (hp : place q ≤ 0) (hlow : n ≤ q) (hhigh : q + 2 ^ place q / 2 < n + 1) :
    ⌊(r : ℚ) * 2 ^ place q⌋ = n := by
  have hunit := zpow_pos_two (place q)
  obtain ⟨hle, -⟩ := h.whole_bounds hp hlow (by linarith)
  obtain ⟨-, hup⟩ := abs_le.mp h.near
  rw [Int.floor_eq_iff]
  exact ⟨by exact_mod_cast hle, by push_cast; linarith⟩

/-- **A fraction that is within half a unit of the next whole number is rounded to it**, half way if that is even
in units of the last place. -/
theorem Rounds.eq_next (h : Rounds q r) (hp : place q ≤ 0) (hlow : n ≤ q) (hhigh : q < n + 1)
    (hreach : n + 1 ≤ q + 2 ^ place q / 2)
    (htie : n + 1 = q + 2 ^ place q / 2 → (n + 1) * 2 ^ (-place q).toNat % 2 = 0) :
    (r : ℚ) * 2 ^ place q = n + 1 := by
  have hunit := zpow_pos_two (place q)
  have hnext := natCast_eq_multiple hp (n + 1)
  obtain ⟨-, hle⟩ := h.whole_bounds hp hlow hhigh
  obtain ⟨hdown, -⟩ := abs_le.mp h.near
  generalize (n + 1) * 2 ^ (-place q).toNat = k at *
  push_cast at hnext
  rw [hnext] at hle hreach htie ⊢
  have hrk : r ≤ k := by exact_mod_cast le_of_mul_le_mul_right hle hunit
  have hkr : k ≤ r + 1 := by
    have hbound : (k : ℚ) * 2 ^ place q ≤ (r + 1) * 2 ^ place q := by linarith
    exact_mod_cast le_of_mul_le_mul_right hbound hunit
  -- one unit short of the whole number is as near only half way, and then it is odd
  rcases Nat.lt_or_eq_of_le hrk with hshort | hsame
  · obtain rfl : k = r + 1 := by omega
    push_cast at hreach htie hdown
    have hhalf : ((r : ℚ) + 1) * 2 ^ place q = q + 2 ^ place q / 2 := by linarith
    have hodd := htie hhalf
    have heven := h.even (by rw [abs_of_nonpos (by linarith)]; linarith)
    omega
  · rw [hsame]

end

end Reckon.Number
