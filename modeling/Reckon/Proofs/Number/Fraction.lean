import Reckon.Proofs.Number.Rounding

/-!
# `Proofs.Number.Fraction` — whole parts, and what is left over them

The nearest whole number is computed on mantissa and exponent; it is at most half a unit away from the exact value
that these stand for (`nearestEven_near`).

A number less its whole part is exact: the two agree in the bits before the point, so only bits of the mantissa
behind it are left, and nothing is rounded (`parts_sub_truncate_of_rest`). What is left has the sign of the number
and is less than one (`fraction_of_positive`, `fraction_of_negative`).
-/

namespace Reckon.Number

open Float.Model UnpackedFloat

/-! ## Whole parts of exact values -/

section

variable {mantissa n : Nat} {exponent : Int}

theorem mul_zpow_neg_natCast (mantissa k : Nat) : (mantissa : ℚ) * 2 ^ (-(k : Int)) = mantissa / (2 ^ k : Nat) := by
  push_cast
  rw [zpow_neg, zpow_natCast, div_eq_mul_inv]

/-- The nearest whole number is half a unit away at most. -/
theorem nearestEven_near (mantissa : Nat) (exponent : Int) :
    |(nearestEven mantissa exponent : ℚ) - mantissa * 2 ^ exponent| ≤ 1 / 2 := by
  by_cases hup : 0 ≤ exponent
  · obtain ⟨k, rfl⟩ := Int.eq_ofNat_of_zero_le hup
    have hsame : (nearestEven mantissa k : ℚ) = mantissa * 2 ^ (k : Int) := by
      have hwhole : nearestEven mantissa k = mantissa * 2 ^ k := if_pos hup
      rw [hwhole]
      push_cast
      rw [zpow_natCast]
    rw [hsame, sub_self, abs_zero]
    norm_num
  · obtain ⟨k, hk⟩ := Int.eq_ofNat_of_zero_le (show 0 ≤ -exponent by omega)
    obtain rfl : exponent = -(k : Int) := by omega
    have hunit : 0 < 2 ^ k := Nat.two_pow_pos k
    have hvalue : (mantissa : ℚ) * 2 ^ (-(k : Int)) = mantissa / (2 ^ k : Nat) := mul_zpow_neg_natCast mantissa k
    have hk' : (-(-(k : Int))).toNat = k := by omega
    have hpow : Nat.pow 2 k = 2 ^ k := rfl
    have hrest : mantissa % 2 ^ k < 2 ^ k := Nat.mod_lt _ hunit
    rw [hvalue, natCast_div_eq hunit]
    unfold nearestEven
    dsimp only
    rw [if_neg (by omega), hk', hpow]
    generalize mantissa / 2 ^ k = below
    generalize mantissa % 2 ^ k = rest at *
    generalize 2 ^ k = unit at *
    have hnonneg : (0 : ℚ) ≤ rest / unit := by positivity
    have hlt : (rest : ℚ) / unit < 1 := (div_lt_one (by exact_mod_cast hunit)).mpr (by exact_mod_cast hrest)
    rw [abs_le]
    rcases Nat.lt_trichotomy (2 * rest) unit with hlow | hhalf | hhigh
    · have hfraction := (div_lt_half_iff hunit).mpr hlow
      rw [if_pos hlow]
      constructor <;> linarith
    · have hfraction := div_eq_half hunit hhalf
      rw [if_neg (by omega), if_neg (by omega)]
      rcases (show below % 2 = 0 ∨ below % 2 = 1 by omega) with hbit | hbit <;> rw [hbit] <;> push_cast <;>
        constructor <;> linarith
    · have hfraction := (half_lt_div_iff hunit).mpr hhigh
      rw [if_neg (by omega), if_pos hhigh]
      push_cast
      constructor <;> linarith

/-- What is less than half a unit away is the nearest whole number. -/
theorem nearestEven_eq (h : |(mantissa : ℚ) * 2 ^ exponent - n| < 1 / 2) : nearestEven mantissa exponent = n := by
  have hnear := nearestEven_near mantissa exponent
  rw [abs_lt] at h
  rw [abs_le] at hnear
  have hlow : (nearestEven mantissa exponent : ℚ) < n + 1 := by linarith
  have hhigh : (n : ℚ) < nearestEven mantissa exponent + 1 := by linarith
  have hlow' : nearestEven mantissa exponent < n + 1 := by exact_mod_cast hlow
  have hhigh' : n < nearestEven mantissa exponent + 1 := by exact_mod_cast hhigh
  omega

end

/-! ## Bits behind the point -/

section

variable {x : Float} {sign : Sign} {mantissa rest k : Nat} {exponent : Int}

theorem normal_lift_shifted (hpos : 0 < rest) (hlt : rest < 2 ^ 53) (hleast : -1000 ≤ exponent)
    (hgreatest : exponent ≤ 900) : Normal (rest * 2 ^ lift rest) (exponent - lift rest) := by
  have h := normal_lift hpos hlt
  have hle : lift rest ≤ 52 := Nat.sub_le _ _
  exact ⟨h.low, h.high, by omega, by omega⟩

/-- A mantissa that has room is moved up, and not rounded. -/
theorem normalize_exact (hpos : 0 < rest) (hlt : rest < 2 ^ 53) (hleast : -1000 ≤ exponent)
    (hgreatest : exponent ≤ 900) (zeroSign : Sign) :
    UnpackedFloat.normalize .binary64 (sign.apply rest) exponent zeroSign =
      .finite sign (rest * 2 ^ lift rest) (exponent - lift rest)
        (normal_lift_shifted hpos hlt hleast hgreatest).pos := by
  have hnormal := normal_lift_shifted hpos hlt hleast hgreatest
  have hlog : rest.log2 < 53 := (Nat.log2_lt hpos.ne').mpr hlt
  have htarget : Float.Model.Format.binary64.targetExponent (totalExponent rest exponent) = exponent - lift rest := by
    show max ((rest.log2 : Int) + 1 + exponent - 53) (-1074) = _
    unfold lift
    omega
  have hround : UnpackedFloat.round .binary64 sign rest exponent =
      .finite sign (rest * 2 ^ lift rest) (exponent - lift rest) hnormal.pos := by
    have hshift : (exponent - (exponent - (lift rest : Int))).toNat = lift rest := by omega
    unfold UnpackedFloat.round decreaseExponent
    rw [htarget]
    simp only [hshift, Nat.shiftLeft_eq]
    simpa using roundWithAccuracy_exact hnormal sign 0
  unfold UnpackedFloat.normalize
  cases sign with
  | negative =>
    have hcompare : compare (Sign.negative.apply (rest : Int)) 0 = .lt :=
      Int.compare_eq_lt.mpr (show -(rest : Int) < 0 by omega)
    have habs : (-(Sign.negative.apply (rest : Int))).toNat = rest := by
      show (- -(rest : Int)).toNat = rest
      omega
    rw [hcompare]
    dsimp only
    rw [habs, hround]
  | positive =>
    have hcompare : compare (Sign.positive.apply (rest : Int)) 0 = .gt :=
      Int.compare_eq_gt.mpr (show 0 < (rest : Int) by omega)
    rw [hcompare]
    exact hround

theorem parts_sub (x y : Float) :
    parts (x - y) = parts (.ofModel (Float.Model.pack (UnpackedFloat.sub .binary64 (parts x) (parts y)))) := rfl

/-- The whole part of a number with `k` bits behind the point. -/
theorem truncate_of_parts (h : Normal mantissa (-k)) (hx : parts x = .finite sign mantissa (-k) h.pos) :
    truncate x = Float.ofInt (sign.apply (mantissa / 2 ^ k : Nat)) := by
  have hdecoded : decoded (parts x) = .finite (sign == .negative) mantissa (-k) := by rw [hx, decoded]
  unfold truncate
  rw [wholePart?_of_finite hdecoded, floorScaled_neg]
  cases sign <;> rfl

/-- A number and its whole part, unless that is zero, have their bits in the same places. -/
theorem parts_truncate (h : Normal mantissa (-k)) (hx : parts x = .finite sign mantissa (-k) h.pos)
    (hwhole : 0 < mantissa / 2 ^ k) :
    ∃ hpos, parts (truncate x) = .finite sign (mantissa / 2 ^ k * 2 ^ k) (-k) hpos := by
  have hne : mantissa / 2 ^ k ≠ 0 := by omega
  have hlow := h.low
  have hhigh := h.high
  have hk : k ≤ 52 := by
    by_contra hgt
    have hpower : 2 ^ 53 ≤ 2 ^ k := Nat.pow_le_pow_right (by decide) (by omega)
    have hzero : mantissa / 2 ^ k = 0 := Nat.div_eq_of_lt (by omega)
    omega
  have hsplit : ∀ b, k ≤ b → 2 ^ b = 2 ^ (b - k) * 2 ^ k := by
    intro b hb
    rw [← Nat.pow_add, Nat.sub_add_cancel hb]
  have hlog : (mantissa / 2 ^ k).log2 = 52 - k := by
    have hle : 52 - k ≤ (mantissa / 2 ^ k).log2 := by
      rw [Nat.le_log2 hne, Nat.le_div_iff_mul_le (Nat.two_pow_pos k), ← hsplit 52 hk]
      exact hlow
    have hlt : (mantissa / 2 ^ k).log2 < 53 - k := by
      rw [Nat.log2_lt hne, Nat.div_lt_iff_lt_mul (Nat.two_pow_pos k), ← hsplit 53 (by omega)]
      exact hhigh
    omega
  have hlift : lift (mantissa / 2 ^ k) = k := by
    unfold lift
    omega
  have hfits : mantissa / 2 ^ k < 2 ^ 53 := Nat.lt_of_le_of_lt (Nat.div_le_self _ _) hhigh
  have habs : (sign.apply (mantissa / 2 ^ k : Nat)).natAbs = mantissa / 2 ^ k := by
    cases sign with
    | negative => exact (Int.natAbs_neg _).trans (Int.natAbs_natCast _)
    | positive => exact Int.natAbs_natCast _
  have hparts := parts_ofInt habs hwhole hfits
  have hsign : signOf (sign.apply (mantissa / 2 ^ k : Nat)) = sign := by
    cases sign with
    | negative => exact if_pos (show -((mantissa / 2 ^ k : Nat) : Int) < 0 by omega)
    | positive => exact if_neg (show ¬ ((mantissa / 2 ^ k : Nat) : Int) < 0 by omega)
  rw [truncate_of_parts h hx]
  simp only [hsign, hlift] at hparts
  exact ⟨_, hparts⟩

/-- What is left over the whole part are the bits behind the point. -/
theorem sub_truncate (h : Normal mantissa (-k)) (hx : parts x = .finite sign mantissa (-k) h.pos) (hk : k ≤ 1000) :
    UnpackedFloat.sub .binary64 (parts x) (parts (truncate x)) =
      UnpackedFloat.normalize .binary64 (sign.apply (mantissa % 2 ^ k : Nat)) (-k) .positive := by
  rcases Nat.eq_zero_or_pos (mantissa / 2 ^ k) with hzero | hwhole
  · have htruncate : parts (truncate x) = .zero .positive := by
      have happly : sign.apply ((0 : Nat) : Int) = 0 := by cases sign <;> rfl
      rw [truncate_of_parts h hx, hzero, happly, parts_ofInt_zero]
    have hrest : mantissa % 2 ^ k = mantissa := by
      have hsum := Nat.div_add_mod mantissa (2 ^ k)
      rwa [hzero, Nat.mul_zero, Nat.zero_add] at hsum
    have hlift : lift mantissa = 0 := by rw [lift, h.log2]
    have hsame : UnpackedFloat.normalize .binary64 (sign.apply mantissa) (-k) .positive = _ :=
      normalize_exact h.pos h.high (by omega) (by omega) .positive
    simp only [hlift, Nat.pow_zero, Nat.mul_one, Nat.cast_zero, Int.sub_zero] at hsame
    rw [htruncate, hrest, hx, hsame]
    rfl
  · obtain ⟨hpos, htruncate⟩ := parts_truncate h hx hwhole
    have hle : mantissa / 2 ^ k * 2 ^ k ≤ mantissa := Nat.div_mul_le_self _ _
    have hdifference : sign.apply (mantissa : Int) - sign.apply (mantissa / 2 ^ k * 2 ^ k : Nat) =
        sign.apply (mantissa % 2 ^ k : Nat) := by
      have hsum := Nat.div_add_mod mantissa (2 ^ k)
      rw [Nat.mul_comm] at hsum
      cases sign <;> simp only [Sign.apply] <;> omega
    rw [htruncate, hx]
    unfold UnpackedFloat.sub decreaseExponent
    simp only [min_self, sub_self, Int.toNat_zero, Nat.shiftLeft_zero, hdifference]

theorem rest_lt (h : Normal mantissa (-k)) (hrest : mantissa % 2 ^ k = rest) : rest < 2 ^ k ∧ rest < 2 ^ 53 := by
  have hle := Nat.mod_le mantissa (2 ^ k)
  have hlt : mantissa % 2 ^ k < 2 ^ k := Nat.mod_lt _ (Nat.two_pow_pos k)
  have hhigh := h.high
  omega

theorem parts_sub_truncate_of_whole (h : Normal mantissa (-k)) (hx : parts x = .finite sign mantissa (-k) h.pos)
    (hk : k ≤ 1000) (hwhole : mantissa % 2 ^ k = 0) : parts (x - truncate x) = .zero .positive := by
  have happly : sign.apply ((0 : Nat) : Int) = 0 := by cases sign <;> rfl
  have hzero : UnpackedFloat.normalize .binary64 0 (-k) .positive = .zero .positive := by
    unfold UnpackedFloat.normalize
    rw [Int.compare_eq_eq.mpr rfl]
  rw [parts_sub, sub_truncate h hx hk, hwhole, happly, hzero]
  rfl

theorem parts_sub_truncate_of_rest (h : Normal mantissa (-k)) (hx : parts x = .finite sign mantissa (-k) h.pos)
    (hk : k ≤ 1000) (hrest : mantissa % 2 ^ k = rest) (hpos : 0 < rest) :
    ∃ hpos', parts (x - truncate x) = .finite sign (rest * 2 ^ lift rest) (-k - lift rest) hpos' := by
  obtain ⟨-, hlt⟩ := rest_lt h hrest
  have hnormal : Normal (rest * 2 ^ lift rest) (-k - lift rest) := normal_lift_shifted hpos hlt (by omega) (by omega)
  refine ⟨hnormal.pos, ?_⟩
  rw [parts_sub, sub_truncate h hx hk, hrest, normalize_exact hpos hlt (by omega) (by omega)]
  exact parts_packed hnormal sign

/-! ## The order of what is left -/

theorem le_iff (x y : Float) : x ≤ y ↔ ((parts x).compare (parts y)).any (·.isLE) = true := by
  show decide (((parts x).compare (parts y)).any (·.isLE) = true) = true ↔ _
  rw [decide_eq_true_iff]

theorem parts_point_one : parts 1.0 = .finite .positive (2 ^ 52) (-52) normal_one.pos := rfl

theorem parts_minus_one : parts (-1.0) = .finite .negative (2 ^ 52) (-52) normal_one.pos := rfl

/-- The bits behind the point are less than one. -/
theorem exponent_lt_of_rest (hpos : 0 < rest) (hlt : rest < 2 ^ k) (hhigh : rest < 2 ^ 53) :
    -(k : Int) - lift rest < -52 := by
  have hlog : rest.log2 < k := (Nat.log2_lt hpos.ne').mpr hlt
  have hwidth : rest.log2 < 53 := (Nat.log2_lt hpos.ne').mpr hhigh
  unfold lift
  omega

/-- **What is left of a number that is not negative is at least zero and less than one.** -/
theorem fraction_of_positive (h : Normal mantissa (-k)) (hx : parts x = .finite .positive mantissa (-k) h.pos)
    (hk : k ≤ 1000) : 0.0 ≤ x - truncate x ∧ x - truncate x < 1.0 := by
  rw [le_iff, lt_iff, parts_point_zero, parts_point_one]
  rcases Nat.eq_zero_or_pos (mantissa % 2 ^ k) with hzero | hpos
  · rw [parts_sub_truncate_of_whole h hx hk hzero]
    exact ⟨rfl, rfl⟩
  · obtain ⟨hpos', hparts⟩ := parts_sub_truncate_of_rest h hx hk rfl hpos
    obtain ⟨hlt, hhigh⟩ := rest_lt h rfl
    have hexponent := exponent_lt_of_rest hpos hlt hhigh
    rw [hparts]
    refine ⟨rfl, ?_⟩
    show some ((compare _ (-52 : Int)).then _) = _
    rw [Int.compare_eq_lt.mpr hexponent]
    rfl

/-- **What is left of a negative number that is not whole is negative too.** -/
theorem fraction_of_negative (h : Normal mantissa (-k)) (hx : parts x = .finite .negative mantissa (-k) h.pos)
    (hk : k ≤ 1000) (hpos : 0 < mantissa % 2 ^ k) : -1.0 < x - truncate x ∧ x - truncate x < 0.0 := by
  obtain ⟨hpos', hparts⟩ := parts_sub_truncate_of_rest h hx hk rfl hpos
  obtain ⟨hlt, hhigh⟩ := rest_lt h rfl
  have hexponent := exponent_lt_of_rest hpos hlt hhigh
  rw [lt_iff, lt_iff, parts_point_zero, parts_minus_one, hparts]
  refine ⟨?_, rfl⟩
  -- below zero the greater exponent is the lesser number
  show some ((compare (-52 : Int) _).then _).swap = _
  rw [Int.compare_eq_gt.mpr hexponent]
  rfl

end

end Reckon.Number
