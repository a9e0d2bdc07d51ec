import Reckon.Proofs.Number.Product

/-!
# `Proofs.Number.Rounding` — what is rounded goes to the nearest number

A product or quotient is worked out with more bits than a mantissa has, and those that do not fit are shifted out
of it. Two of them are kept in mind: the first one, and whether any after it was set. They say where the exact
value lies between two neighbouring mantissas (`Between`), and shifting on does not spoil that
(`Between.shiftRight`). So the mantissa that comes of rounding is at most half a place away from the value
(`Between.rounded`), and since it has full width that is little in proportion (`Nearest.error_le`).

Main statements: `exists_nearest`, `exists_nearest_product`, `exists_nearest_quotient`.
-/

namespace Reckon.Number

open Float.Model UnpackedFloat

/-! ## Between two mantissas -/

/-- An exact value, counted in units of a mantissa's last place, lies where the two bits after the mantissa say:
on it, in the lower half of the way to the next, in the middle, or in the upper half. -/
def Between (em : ExtendedMantissa) (unit value : ℚ) : Prop :=
  match em.roundBit, em.stickyBit with
  | false, false => value = em.mantissa * unit
  | false, true => em.mantissa * unit < value ∧ value < (em.mantissa + 1 / 2) * unit
  | true, false => value = (em.mantissa + 1 / 2) * unit
  | true, true => (em.mantissa + 1 / 2) * unit < value ∧ value < (em.mantissa + 1) * unit

namespace Between

variable {em : ExtendedMantissa} {unit value : ℚ}

/-- One bit more shifted out, in units twice as large. -/
theorem shiftRightOne (hunit : 0 < unit) (h : Between em unit value) :
    Between em.shiftRightOne (2 * unit) value := by
  obtain ⟨mantissa, roundBit, stickyBit⟩ := em
  obtain ⟨half, rfl | rfl⟩ := Nat.even_or_odd' mantissa
  · have hhalf : 2 * half / 2 = half := by omega
    have hbit : (2 * half % 2 != 0) = false := by simp
    unfold Between ExtendedMantissa.shiftRightOne at *
    simp only [hhalf, hbit]
    cases roundBit <;> cases stickyBit <;> simp only [Bool.or_self, Bool.or_true, Bool.or_false] at h ⊢ <;>
      push_cast at h
    · linarith
    · constructor <;> linarith
    · constructor <;> linarith
    · constructor <;> linarith
  · have hhalf : (2 * half + 1) / 2 = half := by omega
    have hbit : ((2 * half + 1) % 2 != 0) = true := by simp
    unfold Between ExtendedMantissa.shiftRightOne at *
    simp only [hhalf, hbit]
    cases roundBit <;> cases stickyBit <;> simp only [Bool.or_self, Bool.or_true, Bool.or_false] at h ⊢ <;>
      push_cast at h
    · linarith
    · constructor <;> linarith
    · constructor <;> linarith
    · constructor <;> linarith

theorem shiftRight (hunit : 0 < unit) (h : Between em unit value) (k : Nat) :
    Between (em >>> k) (unit * 2 ^ k) value := by
  induction k with
  | zero =>
    rw [pow_zero, mul_one]
    exact h
  | succ k ih =>
    have hstep : Between (em >>> k).shiftRightOne (2 * (unit * 2 ^ k)) value := ih.shiftRightOne (by positivity)
    have hdouble : unit * 2 ^ (k + 1) = 2 * (unit * 2 ^ k) := by ring
    rw [hdouble]
    exact hstep

/-- The rounded mantissa is half a place away at most. -/
theorem rounded (hunit : 0 < unit) (h : Between em unit value) :
    |(em.roundedMantissa : ℚ) * unit - value| ≤ unit / 2 := by
  obtain ⟨mantissa, roundBit, stickyBit⟩ := em
  have hodd : mantissa % 2 = 0 ∨ mantissa % 2 = 1 := by omega
  rw [abs_le]
  cases roundBit with
  | false =>
    have hsame : ∀ sticky, (ExtendedMantissa.mk mantissa false sticky).roundedMantissa = mantissa := by
      intro sticky
      cases sticky <;> rfl
    rw [hsame]
    cases stickyBit <;> simp only [Between] at h <;> constructor <;> linarith
  | true =>
    cases stickyBit with
    | false =>
      -- half way the even neighbour is taken, which is as near as the other
      have heven : (ExtendedMantissa.mk mantissa true false).roundedMantissa = mantissa + mantissa % 2 := rfl
      simp only [Between] at h
      rw [heven]
      rcases hodd with hbit | hbit <;> rw [hbit] <;> push_cast <;> constructor <;> linarith
    | true =>
      have hnext : (ExtendedMantissa.mk mantissa true true).roundedMantissa = mantissa + 1 := rfl
      simp only [Between] at h
      rw [hnext]
      push_cast
      constructor <;> linarith

end Between

theorem mantissa_shiftRight (em : ExtendedMantissa) (k : Nat) : (em >>> k).mantissa = em.mantissa / 2 ^ k := by
  induction k with
  | zero => simp [HShiftRight.hShiftRight, Nat.repeat]
  | succ k ih =>
    show (em >>> k).mantissa / 2 = _
    rw [ih, Nat.div_div_eq_div_mul, Nat.pow_succ]

/-- Rounding never passes the next mantissa. -/
theorem roundedMantissa_bounds (em : ExtendedMantissa) :
    em.mantissa ≤ em.roundedMantissa ∧ em.roundedMantissa ≤ em.mantissa + 1 := by
  obtain ⟨mantissa, roundBit, stickyBit⟩ := em
  cases roundBit <;> cases stickyBit <;>
    simp only [ExtendedMantissa.roundedMantissa, ExtendedMantissa.accuracy, Accuracy.roundToNearestEven] <;>
    omega

/-! ## The nearest number -/

/-- The number `mantissa * 2 ^ exponent` has full width and is at most half of its last place away from a value. -/
structure Nearest (mantissa : Nat) (exponent : Int) (value : ℚ) : Prop where
  normal : Normal mantissa exponent
  near : |(mantissa : ℚ) * 2 ^ exponent - value| ≤ 2 ^ exponent / 2

/-- The mantissa has fifty-three bits, so half of its last place is little in proportion. -/
theorem Nearest.error_le {mantissa : Nat} {exponent : Int} {value : ℚ} (h : Nearest mantissa exponent value) :
    |(mantissa : ℚ) * 2 ^ exponent - value| * 2 ^ 53 ≤ (mantissa : ℚ) * 2 ^ exponent := by
  have hunit : (0 : ℚ) < 2 ^ exponent := by positivity
  have hwide : (2 : ℚ) ^ 52 ≤ mantissa := by exact_mod_cast h.normal.low
  have hproduct : (2 : ℚ) ^ 52 * 2 ^ exponent ≤ mantissa * 2 ^ exponent :=
    mul_le_mul_of_nonneg_right hwide hunit.le
  have hnear := h.near
  linarith

/-- The value is within the powers that a mantissa of full width can stand for. -/
theorem Nearest.value_bounds {mantissa : Nat} {exponent : Int} {value : ℚ} (h : Nearest mantissa exponent value) :
    (2 : ℚ) ^ (exponent + 51) < value ∧ value < 2 ^ (exponent + 53) := by
  have hunit : (0 : ℚ) < 2 ^ exponent := by positivity
  have hlow : (2 : ℚ) ^ 52 ≤ mantissa := by exact_mod_cast h.normal.low
  have hhigh : (mantissa : ℚ) + 1 ≤ 2 ^ 53 := by exact_mod_cast h.normal.high
  have hlow' : (2 : ℚ) ^ 52 * 2 ^ exponent ≤ mantissa * 2 ^ exponent := mul_le_mul_of_nonneg_right hlow hunit.le
  have hhigh' : ((mantissa : ℚ) + 1) * 2 ^ exponent ≤ 2 ^ 53 * 2 ^ exponent :=
    mul_le_mul_of_nonneg_right hhigh hunit.le
  have hdown : (2 : ℚ) ^ (exponent + 51) = 2 ^ exponent * 2 ^ 51 := zpow_add₀ two_ne_zero _ _
  have hup : (2 : ℚ) ^ (exponent + 53) = 2 ^ exponent * 2 ^ 53 := zpow_add₀ two_ne_zero _ _
  obtain ⟨hbelow, habove⟩ := abs_le.mp h.near
  rw [hdown, hup]
  constructor <;> linarith

/-- So its exponent is within those of any powers that the value lies between. -/
theorem Nearest.exponent_bounds {mantissa : Nat} {exponent low high : Int} {value : ℚ}
    (h : Nearest mantissa exponent value) (hlow : (2 : ℚ) ^ low ≤ value) (hhigh : value ≤ 2 ^ high) :
    low < exponent + 53 ∧ exponent + 51 < high := by
  obtain ⟨hdown, hup⟩ := h.value_bounds
  exact ⟨(zpow_lt_zpow_iff_right₀ one_lt_two).mp (hlow.trans_lt hup),
    (zpow_lt_zpow_iff_right₀ one_lt_two).mp (hdown.trans_le hhigh)⟩

variable {m : Nat} {e : Int} {accuracy : Accuracy} {sign : Sign} {value : ℚ}

variable (accuracy) in
theorem shiftToTargetExponent_wide {k : Nat} (hk : m.log2 = 52 + k) (hleast : -1074 ≤ e) :
    shiftToTargetExponent .binary64 m e accuracy =
      (ExtendedMantissa.ofMantissaAndAccuracy m accuracy >>> k, e + k) := by
  have htarget : Float.Model.Format.binary64.targetExponent (totalExponent m e) = e + k := by
    unfold totalExponent Float.Model.Format.targetExponent
    rw [hk]
    show max (((52 + k : Nat) : Int) + 1 + e - 53) (-1074) = e + k
    omega
  have hshift : (e + (k : Int) - e).toNat = k := by omega
  unfold shiftToTargetExponent shiftToExponent
  dsimp only
  rw [htarget, hshift]

/-- Rounding may carry to one bit more than a mantissa has, which is shifted out again and is zero. -/
theorem roundWithAccuracy_of_shifted {em : ExtendedMantissa} {mantissa k : Nat} {exponent : Int}
    (h : Normal mantissa exponent)
    (hshifted : shiftToTargetExponent .binary64 m e accuracy = (em, exponent - k))
    (hrounded : em.roundedMantissa = mantissa * 2 ^ k) :
    roundWithAccuracy .binary64 sign m e accuracy = .finite sign mantissa exponent h.pos := by
  unfold roundWithAccuracy
  simp only [hshifted, hrounded, shiftToTargetExponent_exact h k]
  exact dif_neg h.pos.ne'

variable (sign) in
/-- **A mantissa of full width or more is rounded to the nearest number.** -/
theorem exists_nearest (hwide : 2 ^ 52 ≤ m) (hleast : -1074 ≤ e) (hgreatest : e + m.log2 ≤ 1022)
    (hvalue : Between (.ofMantissaAndAccuracy m accuracy) (2 ^ e) value) :
    ∃ mantissa exponent, ∃ h : Nearest mantissa exponent value,
      roundWithAccuracy .binary64 sign m e accuracy = .finite sign mantissa exponent h.normal.pos := by
  have hne : m ≠ 0 := by omega
  obtain ⟨k, hk⟩ := Nat.exists_eq_add_of_le ((Nat.le_log2 hne).mpr hwide)
  have hshifted := shiftToTargetExponent_wide accuracy hk hleast
  have hmantissa : (ExtendedMantissa.ofMantissaAndAccuracy m accuracy).mantissa = m := by
    cases accuracy with
    | exact => rfl
    | inexact order => cases order <;> rfl
  have hlow : 2 ^ 52 ≤ m / 2 ^ k := by
    rw [Nat.le_div_iff_mul_le (Nat.two_pow_pos k), ← Nat.pow_add, ← hk]
    exact Nat.log2_self_le hne
  have hhigh : m / 2 ^ k < 2 ^ 53 := by
    have hlt : m < 2 ^ (m.log2 + 1) := Nat.lt_log2_self
    rw [hk, Nat.add_right_comm, Nat.pow_add] at hlt
    exact (Nat.div_lt_iff_lt_mul (Nat.two_pow_pos k)).mpr hlt
  have hunit : (2 : ℚ) ^ e * 2 ^ k = 2 ^ (e + k) := by rw [zpow_add₀ two_ne_zero, zpow_natCast]
  obtain ⟨hdown, hup⟩ := roundedMantissa_bounds (ExtendedMantissa.ofMantissaAndAccuracy m accuracy >>> k)
  rw [mantissa_shiftRight, hmantissa] at hdown hup
  have hnear := (hvalue.shiftRight (by positivity) k).rounded (by positivity)
  rw [hunit] at hnear
  generalize hem : ExtendedMantissa.ofMantissaAndAccuracy m accuracy >>> k = em at *
  rcases Nat.lt_or_eq_of_le (show em.roundedMantissa ≤ 2 ^ 53 by omega) with hlt | hcarry
  · have hnormal : Normal em.roundedMantissa (e + k) := ⟨by omega, hlt, by omega, by omega⟩
    have hplace : shiftToTargetExponent .binary64 m e accuracy = (em, e + k - (0 : Nat)) := by simpa using hshifted
    exact ⟨_, _, ⟨hnormal, hnear⟩, roundWithAccuracy_of_shifted hnormal hplace (by simp)⟩
  · have hnormal : Normal (2 ^ 52) (e + k + 1) := ⟨by omega, by omega, by omega, by omega⟩
    refine ⟨_, _, ⟨hnormal, ?_⟩, roundWithAccuracy_of_shifted (k := 1) hnormal ?_ hcarry⟩
    · have hdouble : (2 : ℚ) ^ (e + k + 1) = 2 ^ (e + k) * 2 := by rw [zpow_add₀ two_ne_zero, zpow_one]
      have hpos : (0 : ℚ) < 2 ^ (e + k) := by positivity
      have hsame : ((2 ^ 52 : Nat) : ℚ) * 2 ^ (e + k + 1) = (em.roundedMantissa : ℚ) * 2 ^ (e + k) := by
        rw [hcarry, hdouble]
        push_cast
        ring
      rw [hsame]
      linarith
    · simpa using hshifted

/-! ## Products and quotients -/

section

variable {x : Float} {mantissa : Nat} {exponent : Int} {j : Nat}

theorem two_zpow_lift (j : Nat) (exponent : Int) :
    (2 : ℚ) ^ lift j * 2 ^ (exponent - lift j) = 2 ^ exponent := by
  rw [← zpow_natCast, ← zpow_add₀ two_ne_zero]
  congr 1
  omega

/-- **A product with a whole number is the nearest number to the exact one.** -/
theorem exists_nearest_product (h : Normal mantissa exponent) (hx : parts x = .finite sign mantissa exponent h.pos)
    (hleast : -1000 ≤ exponent) (hgreatest : exponent ≤ 900) (hj : 0 < j) (hj' : j < 2 ^ 53) :
    ∃ m e, ∃ hm : Nearest m e (mantissa * 2 ^ exponent * j),
      parts (x * Float.ofNat j) = .finite sign m e hm.normal.pos := by
  have hfactor := normal_lift hj hj'
  have hlift : lift j ≤ 52 := Nat.sub_le _ _
  have hwide : 2 ^ 52 ≤ mantissa * (j * 2 ^ lift j) :=
    Nat.le_trans h.low (Nat.le_mul_of_pos_right mantissa hfactor.pos)
  have hlog : (mantissa * (j * 2 ^ lift j)).log2 < 106 := by
    have hpower : 2 ^ 106 = 2 ^ 53 * 2 ^ 53 := rfl
    rw [Nat.log2_lt (by omega), hpower]
    exact Nat.mul_lt_mul_of_lt_of_lt h.high hfactor.high
  have hexact : Between (.ofMantissaAndAccuracy (mantissa * (j * 2 ^ lift j)) .exact) (2 ^ (exponent + -(lift j : Int)))
      (mantissa * 2 ^ exponent * j) := by
    show _ = ((mantissa * (j * 2 ^ lift j) : Nat) : ℚ) * 2 ^ (exponent - lift j)
    push_cast
    rw [← two_zpow_lift j exponent]
    ring
  obtain ⟨m, e, hm, hround⟩ := exists_nearest sign hwide (by omega) (by omega) hexact
  have hsign : sign * .positive = sign := by cases sign <;> rfl
  have hmul : UnpackedFloat.mul .binary64 (parts x) (parts (Float.ofNat j)) = .finite sign m e hm.normal.pos := by
    rw [hx, parts_ofNat hj hj', UnpackedFloat.mul, hsign, hround]
  have hparts : parts (x * Float.ofNat j) =
      parts (.ofModel (Float.Model.pack (UnpackedFloat.mul .binary64 (parts x) (parts (Float.ofNat j))))) := rfl
  refine ⟨m, e, hm, ?_⟩
  rw [hparts, hmul]
  exact parts_packed hm.normal sign

theorem natCast_div_eq {a b : Nat} (hb : 0 < b) : (a : ℚ) / b = (a / b : Nat) + (a % b : Nat) / b := by
  have hb' : (b : ℚ) ≠ 0 := by exact_mod_cast hb.ne'
  have hsum : (a : ℚ) = b * (a / b : Nat) + (a % b : Nat) := by exact_mod_cast (Nat.div_add_mod a b).symm
  conv_lhs => rw [hsum]
  field_simp

theorem div_lt_half_iff {r b : Nat} (hb : 0 < b) : (r : ℚ) / b < 1 / 2 ↔ 2 * r < b := by
  have hb' : (0 : ℚ) < b := by exact_mod_cast hb
  rw [div_lt_div_iff₀ hb' two_pos, one_mul, mul_comm]
  exact_mod_cast Iff.rfl

theorem half_lt_div_iff {r b : Nat} (hb : 0 < b) : 1 / 2 < (r : ℚ) / b ↔ b < 2 * r := by
  have hb' : (0 : ℚ) < b := by exact_mod_cast hb
  rw [div_lt_div_iff₀ two_pos hb', one_mul, mul_comm]
  exact_mod_cast Iff.rfl

theorem div_eq_half {r b : Nat} (hb : 0 < b) (h : 2 * r = b) : (r : ℚ) / b = 1 / 2 := by
  have hlow : ¬ (r : ℚ) / b < 1 / 2 := by
    rw [div_lt_half_iff hb]
    omega
  have hhigh : ¬ 1 / 2 < (r : ℚ) / b := by
    rw [half_lt_div_iff hb]
    omega
  exact le_antisymm (not_lt.mp hhigh) (not_lt.mp hlow)

/-- A quotient of whole numbers lies above its whole part as far as the remainder says. -/
theorem between_div {a b : Nat} {unit : ℚ} (hb : 0 < b) (hunit : 0 < unit) :
    Between (.ofMantissaAndAccuracy (a / b) (accuracyOfFraction (a % b) b)) unit ((a : ℚ) / b * unit) := by
  have hb' : (0 : ℚ) < b := by exact_mod_cast hb
  have hrest : (a % b : Nat) < (b : ℚ) := by exact_mod_cast Nat.mod_lt a hb
  rw [natCast_div_eq hb]
  generalize a / b = quotient
  generalize a % b = rest at *
  unfold accuracyOfFraction
  by_cases hzero : rest = 0
  · rw [if_pos hzero, hzero]
    simp [Between, ExtendedMantissa.ofMantissaAndAccuracy]
  · have hpos : (0 : ℚ) < rest / b := by positivity
    have hlt : (rest : ℚ) / b < 1 := (div_lt_one hb').mpr hrest
    rw [if_neg hzero]
    rcases Nat.lt_trichotomy (2 * rest) b with hlow | heq | hhigh
    · have hhalf := (div_lt_half_iff hb).mpr hlow
      rw [Nat.compare_eq_lt.mpr hlow]
      show (quotient : ℚ) * unit < _ ∧ _ < ((quotient : ℚ) + 1 / 2) * unit
      exact ⟨mul_lt_mul_of_pos_right (by linarith) hunit, mul_lt_mul_of_pos_right (by linarith) hunit⟩
    · rw [Nat.compare_eq_eq.mpr heq, div_eq_half hb heq]
      rfl
    · have hhalf := (half_lt_div_iff hb).mpr hhigh
      rw [Nat.compare_eq_gt.mpr hhigh]
      show ((quotient : ℚ) + 1 / 2) * unit < _ ∧ _ < ((quotient : ℚ) + 1) * unit
      exact ⟨mul_lt_mul_of_pos_right (by linarith) hunit, mul_lt_mul_of_pos_right (by linarith) hunit⟩

/-- **A quotient by a whole number is the nearest number to the exact one.** -/
theorem exists_nearest_quotient (h : Normal mantissa exponent) (hx : parts x = .finite sign mantissa exponent h.pos)
    (hleast : -1000 ≤ exponent) (hgreatest : exponent ≤ 900) (hj : 0 < j) (hj' : j < 2 ^ 53) :
    ∃ m e, ∃ hm : Nearest m e (mantissa * 2 ^ exponent / j),
      parts (x / Float.ofNat j) = .finite sign m e hm.normal.pos := by
  have hdivisor := normal_lift hj hj'
  have hlift : lift j ≤ 52 := Nat.sub_le _ _
  have htarget : min (exponent - -(lift j : Int)) (Float.Model.Format.binary64.targetExponent
      (totalExponent mantissa exponent - totalExponent (j * 2 ^ lift j) (-lift j))) = exponent + lift j - 53 := by
    unfold totalExponent Float.Model.Format.targetExponent
    rw [h.log2, hdivisor.log2]
    show min _ (max (((52 : Nat) : Int) + 1 + exponent - (((52 : Nat) : Int) + 1 + -lift j) - 53) (-1074)) = _
    omega
  have hshift : (exponent - -(lift j : Int) - (exponent + lift j - 53)).toNat = 53 := by omega
  have hcore : divCore .binary64 mantissa exponent (j * 2 ^ lift j) (-lift j) =
      (mantissa * 2 ^ 53 / (j * 2 ^ lift j), exponent + lift j - 53,
        accuracyOfFraction (mantissa * 2 ^ 53 % (j * 2 ^ lift j)) (j * 2 ^ lift j)) := by
    unfold divCore
    dsimp only
    rw [htarget, hshift, Nat.shiftLeft_eq]
  have hlow := h.low
  have hhigh := h.high
  have hdivisorLow := hdivisor.low
  have hdivisorHigh := hdivisor.high
  have hwide : 2 ^ 52 ≤ mantissa * 2 ^ 53 / (j * 2 ^ lift j) := by
    rw [Nat.le_div_iff_mul_le hdivisor.pos]
    omega
  have hlog : (mantissa * 2 ^ 53 / (j * 2 ^ lift j)).log2 < 54 := by
    rw [Nat.log2_lt (by omega), Nat.div_lt_iff_lt_mul hdivisor.pos]
    omega
  have hexact : Between (.ofMantissaAndAccuracy (mantissa * 2 ^ 53 / (j * 2 ^ lift j))
      (accuracyOfFraction (mantissa * 2 ^ 53 % (j * 2 ^ lift j)) (j * 2 ^ lift j)))
        (2 ^ (exponent + lift j - 53)) (mantissa * 2 ^ exponent / j) := by
    have hvalue : (mantissa * 2 ^ exponent / j : ℚ) =
        ((mantissa * 2 ^ 53 : Nat) : ℚ) / (j * 2 ^ lift j : Nat) * 2 ^ (exponent + lift j - 53) := by
      have hpower : (2 : ℚ) ^ (exponent + lift j - 53) = 2 ^ exponent * 2 ^ lift j / 2 ^ 53 := by
        rw [zpow_sub₀ two_ne_zero, zpow_add₀ two_ne_zero, zpow_natCast]
        rfl
      have hj0 : (j : ℚ) ≠ 0 := by exact_mod_cast hj.ne'
      rw [hpower]
      push_cast
      field_simp
      norm_num
    rw [hvalue]
    exact between_div hdivisor.pos (by positivity)
  obtain ⟨m, e, hm, hround⟩ := exists_nearest sign hwide (by omega) (by omega) hexact
  have hsign : sign / .positive = sign := by cases sign <;> rfl
  have hdiv : UnpackedFloat.div .binary64 (parts x) (parts (Float.ofNat j)) = .finite sign m e hm.normal.pos := by
    rw [hx, parts_ofNat hj hj', UnpackedFloat.div, hcore, hsign]
    exact hround
  have hparts : parts (x / Float.ofNat j) =
      parts (.ofModel (Float.Model.pack (UnpackedFloat.div .binary64 (parts x) (parts (Float.ofNat j))))) := rfl
  refine ⟨m, e, hm, ?_⟩
  rw [hparts, hdiv]
  exact parts_packed hm.normal sign

end

end Reckon.Number
