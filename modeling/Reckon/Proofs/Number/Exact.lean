import Reckon.Proofs.Number.Fraction

/-!
# `Proofs.Number.Exact` — the fraction that a number stands for

A finite number stands for a fraction, plus or minus its mantissa times a power of two (`rational?`). What is computed
on mantissa and exponent is said of this fraction here: its whole part (`wholePart?_of_rational`), whether it is whole
(`isWhole_iff`), and its sign.

Mantissa and exponent have the shape that bits can hold: full width, unless the exponent is the least one
(`Shaped`). Packing keeps all of that shape, the numbers too small for full width included
(`decoded_parts_pack`), so a result that has it is a number of the same fraction.

Main statements: `wholePart?_of_rational`, `isWhole_iff`, `rational?_neg`, `rational?_abs`, `decoded_parts_pack`.
-/

namespace Reckon.Number

open Float.Model UnpackedFloat

/-! ## Fractions -/

/-- A fraction with a sign before it. -/
def withSign (negative : Bool) (q : ℚ) : ℚ :=
  if negative then -q else q

/-- The fraction that decoded parts stand for. -/
def Binary.value? : Binary → Option ℚ
  | .finite negative mantissa exponent => some (withSign negative (mantissa * 2 ^ exponent))
  | _ => none

/-- The fraction that a finite number stands for. -/
def rational? (x : Float) : Option ℚ :=
  (Binary.ofFloat x).value?

/-- A fraction without what is behind its point. -/
def cut (q : ℚ) : ℤ :=
  if q < 0 then ⌈q⌉ else ⌊q⌋

theorem withSign_neg (negative : Bool) (q : ℚ) : withSign (!negative) q = -withSign negative q := by
  cases negative
  · rfl
  · exact (neg_neg q).symm

theorem abs_withSign (negative : Bool) {q : ℚ} (hq : 0 ≤ q) : |withSign negative q| = q := by
  cases negative with
  | false => exact abs_of_nonneg hq
  | true => exact (abs_neg q).trans (abs_of_nonneg hq)

theorem cut_neg (q : ℚ) : cut (-q) = -cut q := by
  unfold cut
  rcases lt_trichotomy q 0 with h | rfl | h
  · rw [if_pos h, if_neg (not_lt.mpr (neg_pos.mpr h).le), Int.floor_neg]
  · simp
  · rw [if_neg (not_lt.mpr h.le), if_pos (neg_lt_zero.mpr h), Int.ceil_neg]

theorem cut_of_nonneg {q : ℚ} (h : 0 ≤ q) : cut q = ⌊q⌋ :=
  if_neg (not_lt.mpr h)

theorem cut_withSign (negative : Bool) {q : ℚ} (hq : 0 ≤ q) :
    cut (withSign negative q) = if negative then -⌊q⌋ else ⌊q⌋ := by
  cases negative with
  | false => exact cut_of_nonneg hq
  | true => exact (cut_neg q).trans (congrArg Neg.neg (cut_of_nonneg hq))

theorem cut_intCast (n : ℤ) : cut n = n := by
  unfold cut
  split
  · exact Int.ceil_intCast n
  · exact Int.floor_intCast n

/-! ## The shape of mantissa and exponent -/

/-- A mantissa of full width, or one of less with the least exponent. -/
structure Shaped (mantissa : Nat) (exponent : Int) : Prop where
  high : mantissa < 2 ^ 53
  least : -1074 ≤ exponent
  greatest : exponent ≤ 971
  full : 2 ^ 52 ≤ mantissa ∨ exponent = -1074

section

variable {x : Float} {negative : Bool} {mantissa : Nat} {exponent : Int} {a : ℚ}

theorem Normal.shaped (h : Normal mantissa exponent) : Shaped mantissa exponent :=
  ⟨h.high, h.least, h.greatest, .inl h.low⟩

/-- Whatever bits hold has that shape. -/
theorem shaped_of_ofFloat (h : Binary.ofFloat x = .finite negative mantissa exponent) : Shaped mantissa exponent := by
  have hlt : x.toBits.toNat % Nat.pow 2 52 < Nat.pow 2 52 := Nat.mod_lt _ (by decide)
  have hbiased : x.toBits.toNat / Nat.pow 2 52 % Nat.pow 2 11 < Nat.pow 2 11 := Nat.mod_lt _ (by decide)
  have h52 : Nat.pow 2 52 = 2 ^ 52 := rfl
  have h11 : Nat.pow 2 11 = 2 ^ 11 := rfl
  unfold Binary.ofFloat at h
  dsimp only at h
  split at h
  · split at h <;> cases h
  · split at h
    · cases h
      exact ⟨by omega, le_rfl, by omega, .inr rfl⟩
    · cases h
      exact ⟨by omega, by omega, by omega, .inl (by omega)⟩

theorem rational?_of_ofFloat (h : Binary.ofFloat x = .finite negative mantissa exponent) :
    rational? x = some (withSign negative (mantissa * 2 ^ exponent)) :=
  congrArg Binary.value? h

theorem exists_of_rational (h : rational? x = some a) :
    ∃ negative mantissa exponent, Binary.ofFloat x = .finite negative mantissa exponent ∧
      Shaped mantissa exponent ∧ a = withSign negative (mantissa * 2 ^ exponent) := by
  unfold rational? at h
  cases hx : Binary.ofFloat x with
  | nan | infinite => rw [hx] at h; cases h
  | finite negative mantissa exponent =>
    rw [hx] at h
    exact ⟨negative, mantissa, exponent, rfl, shaped_of_ofFloat hx, (Option.some.inj h).symm⟩

/-! ## Packing -/

/-- Nothing is lost by packing a mantissa that is short of full width. -/
theorem unpack_pack_short (hpos : 0 < mantissa) (hlt : mantissa < 2 ^ 52) (sign : Sign) :
    unpack .binary64 (UnpackedFloat.pack .binary64 (.finite sign mantissa (-1074) hpos)) =
      .finite sign mantissa (-1074) hpos := by
  have hwidth : ¬ mantissa.log2 + 1 = 53 := by
    have hlog : mantissa.log2 < 52 := (Nat.log2_lt hpos.ne').mpr hlt
    omega
  have hpack : UnpackedFloat.pack .binary64 (.finite sign mantissa (-1074) hpos) =
      packComponents .binary64 sign 0#11 (BitVec.ofNat 52 mantissa) := by
    unfold UnpackedFloat.pack
    dsimp only
    exact (if_neg (by decide)).trans (if_neg hwidth)
  have hvalue : (BitVec.ofNat 52 mantissa).toNat = mantissa := by
    rw [BitVec.toNat_ofNat]
    omega
  have hzero : BitVec.ofNat 52 mantissa ≠ 0#52 := by
    intro heq
    have hnat := congrArg BitVec.toNat heq
    rw [hvalue] at hnat
    exact hpos.ne' hnat
  rw [hpack]
  unfold UnpackedFloat.unpack
  simp only [unpackMantissa_packComponents, unpackExponent_packComponents]
  rw [if_neg (by decide), if_pos trivial, dif_neg hzero, UnpackedFloat.finite.injEq]
  refine ⟨?_, hvalue, rfl⟩
  rw [unpackSign_packComponents, ofBitVec_toBitVec]

/-- **A result of the right shape is kept by packing.** -/
theorem decoded_parts_pack {u : UnpackedFloat} (hu : decoded u = .finite negative mantissa exponent)
    (h : Shaped mantissa exponent) :
    decoded (parts (.ofModel (Float.Model.pack u))) = .finite negative mantissa exponent := by
  cases u with
  | notANumber | infinity => cases hu
  | zero sign =>
    rw [← hu]
    cases sign <;> rfl
  | finite sign m e hpos =>
    obtain ⟨rfl, rfl, rfl⟩ := Binary.finite.inj hu
    rcases Nat.lt_or_ge m (2 ^ 52) with hlow | hlow
    · obtain rfl : e = -1074 := h.full.resolve_left (by omega)
      exact congrArg decoded (unpack_pack_short hpos hlow sign)
    · exact congrArg decoded (parts_packed ⟨hlow, h.high, h.least, h.greatest⟩ sign)

theorem ofFloat_pack {u : UnpackedFloat} (hu : decoded u = .finite negative mantissa exponent)
    (h : Shaped mantissa exponent) :
    Binary.ofFloat (.ofModel (Float.Model.pack u)) = .finite negative mantissa exponent := by
  rw [ofFloat_eq_decoded, decoded_parts_pack hu h]

/-! ## Signs -/

theorem decoded_neg {u : UnpackedFloat} (hu : decoded u = .finite negative mantissa exponent) :
    decoded u.neg = .finite (!negative) mantissa exponent := by
  cases u with
  | notANumber | infinity => cases hu
  | zero sign | finite sign =>
    obtain ⟨rfl, rfl, rfl⟩ := Binary.finite.inj hu
    cases sign <;> rfl

theorem decoded_abs {u : UnpackedFloat} (hu : decoded u = .finite negative mantissa exponent) :
    decoded u.abs = .finite false mantissa exponent := by
  cases u with
  | notANumber | infinity => cases hu
  | zero sign | finite sign =>
    obtain ⟨rfl, rfl, rfl⟩ := Binary.finite.inj hu
    rfl

theorem ofFloat_neg (hx : Binary.ofFloat x = .finite negative mantissa exponent) :
    Binary.ofFloat (-x) = .finite (!negative) mantissa exponent :=
  ofFloat_pack (decoded_neg (ofFloat_eq_decoded x ▸ hx)) (shaped_of_ofFloat hx)

theorem ofFloat_abs (hx : Binary.ofFloat x = .finite negative mantissa exponent) :
    Binary.ofFloat x.abs = .finite false mantissa exponent :=
  ofFloat_pack (decoded_abs (ofFloat_eq_decoded x ▸ hx)) (shaped_of_ofFloat hx)

theorem rational?_neg (h : rational? x = some a) : rational? (-x) = some (-a) := by
  obtain ⟨negative, mantissa, exponent, hx, -, rfl⟩ := exists_of_rational h
  rw [rational?_of_ofFloat (ofFloat_neg hx), withSign_neg]

theorem rational?_abs (h : rational? x = some a) : rational? x.abs = some |a| := by
  obtain ⟨negative, mantissa, exponent, hx, -, rfl⟩ := exists_of_rational h
  rw [rational?_of_ofFloat (ofFloat_abs hx), abs_withSign _ (by positivity)]
  rfl

/-- The sign bit is the sign of the decoded number. -/
theorem isNegative_of_ofFloat (hx : Binary.ofFloat x = .finite negative mantissa exponent) :
    isNegative x = negative := by
  unfold Binary.ofFloat at hx
  dsimp only at hx
  split at hx
  · split at hx <;> cases hx
  · split at hx <;> exact (Binary.finite.inj hx).1

theorem isFinite_of_rational (h : rational? x = some a) : x.isFinite = true := by
  obtain ⟨negative, mantissa, exponent, hx, -, -⟩ := exists_of_rational h
  rw [ofFloat_eq_decoded] at hx
  show (parts x).isFinite = true
  cases hparts : parts x with
  | notANumber | infinity => rw [hparts] at hx; cases hx
  | zero | finite => rfl

theorem isNaN_of_rational (h : rational? x = some a) : x.isNaN = false := by
  obtain ⟨negative, mantissa, exponent, hx, -, -⟩ := exists_of_rational h
  rw [ofFloat_eq_decoded] at hx
  show (parts x).isNaN = false
  cases hparts : parts x with
  | notANumber => rw [hparts] at hx; cases hx
  | infinity | zero | finite => rfl

/-! ## Whole parts -/

/-- The whole part is that of the fraction. -/
theorem floorScaled_eq (mantissa : Nat) (exponent : Int) :
    (floorScaled mantissa exponent : ℤ) = ⌊(mantissa : ℚ) * 2 ^ exponent⌋ := by
  unfold floorScaled
  by_cases hup : 0 ≤ exponent
  · obtain ⟨k, rfl⟩ := Int.eq_ofNat_of_zero_le hup
    have hpow : Nat.pow 2 k = 2 ^ k := rfl
    have hvalue : (mantissa : ℚ) * 2 ^ (k : ℤ) = ((mantissa * 2 ^ k : Nat) : ℤ) := by
      push_cast
      rw [zpow_natCast]
    rw [if_pos hup, hvalue, Int.floor_intCast, Int.toNat_natCast, hpow]
  · obtain ⟨k, hk⟩ := Int.eq_ofNat_of_zero_le (show 0 ≤ -exponent by omega)
    obtain rfl : exponent = -(k : Int) := by omega
    have hpow : Nat.pow 2 k = 2 ^ k := rfl
    have hk' : (-(-(k : Int))).toNat = k := by omega
    rw [if_neg hup, hk', hpow, mul_zpow_neg_natCast, Rat.floor_natCast_div_natCast]
    push_cast
    rfl

/-- **The whole part is the fraction without what is behind its point.** -/
theorem wholePart?_of_rational (h : rational? x = some a) : wholePart? x = some (cut a) := by
  obtain ⟨negative, mantissa, exponent, hx, -, rfl⟩ := exists_of_rational h
  rw [cut_withSign _ (by positivity), ← floorScaled_eq]
  unfold wholePart?
  rw [hx]

theorem cut_eq_iff {q : ℚ} : (cut q : ℚ) = q ↔ ∃ n : ℤ, q = n :=
  ⟨fun h => ⟨cut q, h.symm⟩, fun ⟨n, hn⟩ => by rw [hn, cut_intCast]⟩

theorem withSign_eq_intCast_iff {q : ℚ} : (∃ n : ℤ, withSign negative q = n) ↔ ∃ n : ℤ, q = n := by
  cases negative with
  | false => exact Iff.rfl
  | true =>
    constructor
    · rintro ⟨n, hn⟩
      exact ⟨-n, by rw [Int.cast_neg, ← hn]; exact (neg_neg q).symm⟩
    · rintro ⟨n, rfl⟩
      exact ⟨-n, (Int.cast_neg n).symm⟩

/-- **A number is whole if its fraction is.** -/
theorem isWhole_iff (h : rational? x = some a) : isWhole x = true ↔ ∃ n : ℤ, a = n := by
  obtain ⟨negative, mantissa, exponent, hx, -, rfl⟩ := exists_of_rational h
  rw [withSign_eq_intCast_iff]
  unfold isWhole
  rw [hx, Bool.or_eq_true, decide_eq_true_iff, beq_iff_eq]
  by_cases hup : 0 ≤ exponent
  · obtain ⟨k, rfl⟩ := Int.eq_ofNat_of_zero_le hup
    exact iff_of_true (.inl hup) ⟨(mantissa * 2 ^ k : Nat), by push_cast; rw [zpow_natCast]⟩
  · obtain ⟨k, hk⟩ := Int.eq_ofNat_of_zero_le (show 0 ≤ -exponent by omega)
    obtain rfl : exponent = -(k : Int) := by omega
    have hpow : Nat.pow 2 k = 2 ^ k := rfl
    have hk' : (-(-(k : Int))).toNat = k := by omega
    have hunit : ((2 ^ k : Nat) : ℚ) ≠ 0 := by positivity
    rw [hk', hpow, mul_zpow_neg_natCast, or_iff_right hup, ← Nat.dvd_iff_mod_eq_zero]
    constructor
    · rintro ⟨c, rfl⟩
      exact ⟨c, by rw [Nat.cast_mul, mul_div_cancel_left₀ _ hunit, Int.cast_natCast]⟩
    · rintro ⟨n, hn⟩
      rw [div_eq_iff hunit] at hn
      have hproduct : (mantissa : ℤ) = n * (2 ^ k : Nat) := by exact_mod_cast hn
      exact Int.natCast_dvd_natCast.mp ⟨n, hproduct.trans (mul_comm _ _)⟩

end

end Reckon.Number
