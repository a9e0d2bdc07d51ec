import Mathlib
import Reckon.Number.Binary

/-!
# `Proofs.Number.Special` — the numbers that are not finite

There is one number that is not a number, and there are two infinities; every other number decodes to a
mantissa and an exponent.
-/

namespace Reckon.Number

open Float.Model UnpackedFloat

theorem eq_of_toBits {x y : Float} (h : x.toBits.toNat = y.toBits.toNat) : x = y := by
  obtain ⟨⟨bits, valid⟩⟩ := x
  obtain ⟨⟨bits', valid'⟩⟩ := y
  cases UInt64.toNat_inj.mp h
  rfl

/-! ## Exponent and fraction -/

/-- The exponent as the bits hold it. -/
def biased (x : Float) : Nat := x.toBits.toNat / 2 ^ 52 % 2 ^ 11

/-- The fraction as the bits hold it. -/
def fraction (x : Float) : Nat := x.toBits.toNat % 2 ^ 52

theorem toNat_unpackExponent (x : Float) :
    (@unpackExponent Format.binary64 x.toBits.toBitVec).toNat = biased x := by
  show (x.toBits.toNat >>> 52) % 2 ^ 11 = _
  rw [Nat.shiftRight_eq_div_pow]
  rfl

theorem toNat_unpackMantissa (x : Float) :
    (@unpackMantissa Format.binary64 x.toBits.toBitVec).toNat = fraction x := by
  show (x.toBits.toNat >>> 0) % 2 ^ 52 = _
  rfl

theorem unpackExponent_eq_iff (x : Float) :
    @unpackExponent Format.binary64 x.toBits.toBitVec = -1#11 ↔ biased x = 2047 := by
  rw [← BitVec.toNat_inj, toNat_unpackExponent]
  exact Iff.rfl

theorem unpackMantissa_eq_iff (x : Float) :
    @unpackMantissa Format.binary64 x.toBits.toBitVec = 0#52 ↔ fraction x = 0 := by
  rw [← BitVec.toNat_inj, toNat_unpackMantissa]
  exact Iff.rfl

theorem isNaN_iff {x : Float} : x.isNaN = true ↔ biased x = 2047 ∧ fraction x ≠ 0 := by
  rw [← unpackExponent_eq_iff, Ne, ← unpackMantissa_eq_iff]
  show (UnpackedFloat.unpack .binary64 x.toBits.toBitVec).isNaN = true ↔ _
  rw [UnpackedFloat.unpack]
  split
  · next hexponent =>
    split
    · next hmantissa => exact ⟨nofun, fun h => absurd hmantissa h.2⟩
    · next hmantissa => exact ⟨fun _ => ⟨hexponent, hmantissa⟩, fun _ => rfl⟩
  · next hexponent =>
    refine ⟨fun h => ?_, fun h => absurd h.1 hexponent⟩
    split at h
    · split at h <;> cases h
    · cases h

theorem isInf_iff {x : Float} : x.isInf = true ↔ biased x = 2047 ∧ fraction x = 0 := by
  rw [← unpackExponent_eq_iff, ← unpackMantissa_eq_iff]
  show (UnpackedFloat.unpack .binary64 x.toBits.toBitVec).isInf = true ↔ _
  rw [UnpackedFloat.unpack]
  split
  · next hexponent =>
    split
    · next hmantissa => exact ⟨fun _ => ⟨hexponent, hmantissa⟩, fun _ => rfl⟩
    · next hmantissa => exact ⟨nofun, fun h => absurd h.2 hmantissa⟩
  · next hexponent =>
    refine ⟨fun h => ?_, fun h => absurd h.1 hexponent⟩
    split at h
    · split at h <;> cases h
    · cases h

/-! ## Numbers that are not finite -/

/-- The numbers that are not finite, by their bits. -/
theorem toBits_special : (0.0 / 0.0 : Float).toBits.toNat = (packedNaN .binary64).toNat ∧
    (1.0 / 0.0 : Float).toBits.toNat = 2047 * 2 ^ 52 ∧ (-1.0 / 0.0 : Float).toBits.toNat = 2 ^ 63 + 2047 * 2 ^ 52 := by
  decide +kernel

theorem eq_nan {x : Float} (h : x.isNaN = true) : x = 0.0 / 0.0 := by
  obtain ⟨hexponent, hmantissa⟩ := isNaN_iff.mp h
  have hbits := x.toModel.valid.eq_packedNaN ((unpackExponent_eq_iff x).mpr hexponent)
    fun hzero => hmantissa ((unpackMantissa_eq_iff x).mp hzero)
  apply eq_of_toBits
  rw [toBits_special.1, ← hbits]
  rfl

theorem eq_infinity {x : Float} (h : x.isInf = true) : x = 1.0 / 0.0 ∨ x = -1.0 / 0.0 := by
  obtain ⟨hexponent, hmantissa⟩ := isInf_iff.mp h
  obtain ⟨-, hpositive, hnegative⟩ := toBits_special
  have hlt : x.toBits.toNat < 2 ^ 64 := x.toBits.toNat_lt
  unfold biased at hexponent
  unfold fraction at hmantissa
  by_cases hsign : x.toBits.toNat < 2 ^ 63
  · refine .inl (eq_of_toBits ?_)
    rw [hpositive]
    omega
  · refine .inr (eq_of_toBits ?_)
    rw [hnegative]
    omega

/-- A number that is not infinite decodes to a mantissa and an exponent. -/
theorem exists_finite {x : Float} (hnan : x.isNaN = false) (hinf : x.isInf = false) :
    ∃ negative mantissa exponent, Binary.ofFloat x = .finite negative mantissa exponent := by
  have hbiased : biased x ≠ 2047 := by
    intro h
    by_cases hzero : fraction x = 0
    · rw [isInf_iff.mpr ⟨h, hzero⟩] at hinf
      cases hinf
    · rw [isNaN_iff.mpr ⟨h, hzero⟩] at hnan
      cases hnan
  unfold Binary.ofFloat
  dsimp only
  rw [if_neg (show ¬x.toBits.toNat / Nat.pow 2 52 % Nat.pow 2 11 = 2047 from hbiased)]
  split
  · exact ⟨_, _, _, rfl⟩
  · exact ⟨_, _, _, rfl⟩

/-- What is neither has a whole part. -/
theorem exists_wholePart {x : Float} (hnan : x.isNaN = false) (hinf : x.isInf = false) :
    ∃ n, wholePart? x = some n := by
  obtain ⟨negative, mantissa, exponent, hparts⟩ := exists_finite hnan hinf
  unfold wholePart?
  rw [hparts]
  exact ⟨_, rfl⟩

end Reckon.Number
