import Reckon.Proofs.Number.Order
import Reckon.Proofs.Number.Special

/-!
# `Proofs.Number.Whole` — whole numbers that numbers hold exactly

A mantissa has fifty-three bits, so a whole number of no more bits is held exactly: it is moved up until its
mantissa has full width (`lift`), and the exponent says how far. On the way there it is rounded twice, as an
integer and as a product with one, and packed into bits and unpacked again. None of it loses anything:
rounding drops zeros only (`roundWithAccuracy_exact`), and packing keeps what is `Normal` (`unpack_pack`).

What follows from the parts: the whole part is the number itself, the order is the order of counting, and what
lies below a whole number has its whole part below it. A number is taken by what it equals here, so that a zero
may have either sign.

Main statements: `parts_ofNat`, `compareNumbers_ofNat`, `wholePart?_of_beq`, `wholePart_lt`.
-/

namespace Reckon.Number

open Float.Model UnpackedFloat

/-! ## Packing and unpacking -/

/-- A mantissa of full width, with an exponent that numbers have. -/
structure Normal (mantissa : Nat) (exponent : Int) : Prop where
  low : 2 ^ 52 ≤ mantissa
  high : mantissa < 2 ^ 53
  least : -1074 ≤ exponent
  greatest : exponent ≤ 971

namespace Normal

variable {mantissa : Nat} {exponent : Int}

theorem pos (h : Normal mantissa exponent) : 0 < mantissa := by
  have hlow := h.low
  omega

theorem log2 (h : Normal mantissa exponent) : mantissa.log2 = 52 := by
  have hpos : mantissa ≠ 0 := Nat.pos_iff_ne_zero.mp h.pos
  have hlow : 52 ≤ mantissa.log2 := (Nat.le_log2 hpos).mpr h.low
  have hhigh : mantissa.log2 < 53 := (Nat.log2_lt hpos).mpr h.high
  omega

end Normal

theorem unpackSign_packComponents (spec : Float.Model.Format) (sign : Sign) (exponent : BitVec spec.exponentBits)
    (mantissa : BitVec spec.mantissaBitsWithoutImplicit) :
    unpackSign (packComponents spec sign exponent mantissa) = sign.toBitVec := by
  ext i hi
  obtain rfl : i = 0 := by omega
  simp [unpackSign, packComponents, BitVec.getLsbD_append, BitVec.getElem_append]

theorem ofBitVec_toBitVec (sign : Sign) : Sign.ofBitVec sign.toBitVec = sign := by
  cases sign <;> rfl

theorem toNat_append_one (fraction : BitVec 52) : (1#1 ++ fraction).toNat = 2 ^ 52 + fraction.toNat := by
  rw [BitVec.toNat_append, ← Nat.shiftLeft_add_eq_or_of_lt fraction.isLt]
  rfl

/-- The implicit bit, put back in front of the others. -/
theorem toNat_implicit {mantissa : Nat} {exponent : Int} (h : Normal mantissa exponent) :
    (1#1 ++ BitVec.ofNat 52 mantissa).toNat = mantissa := by
  have hlow := h.low
  have hhigh := h.high
  rw [toNat_append_one, BitVec.toNat_ofNat]
  omega

/-- Nothing is lost by packing. -/
theorem unpack_pack {mantissa : Nat} {exponent : Int} (h : Normal mantissa exponent) (sign : Sign) :
    unpack .binary64 (UnpackedFloat.pack .binary64 (.finite sign mantissa exponent h.pos)) =
      .finite sign mantissa exponent h.pos := by
  have hleast := h.least
  have hgreatest := h.greatest
  generalize hbiased : (exponent + 1075).toNat = b
  have hb : (BitVec.ofNat 11 b).toNat = b := by
    rw [BitVec.toNat_ofNat]
    omega
  have hzero : BitVec.ofNat 11 b ≠ 0#11 := by
    intro heq
    have hvalue := congrArg BitVec.toNat heq
    rw [hb, BitVec.toNat_ofNat] at hvalue
    omega
  have hones : BitVec.ofNat 11 b ≠ -1#11 := by
    intro heq
    have hvalue := congrArg BitVec.toNat heq
    rw [hb] at hvalue
    have hall : (-1#11).toNat = 2047 := rfl
    omega
  have hpack : UnpackedFloat.pack .binary64 (.finite sign mantissa exponent h.pos) =
      packComponents .binary64 sign (BitVec.ofNat 11 b) (BitVec.ofNat 52 mantissa) := by
    have hb' : (exponent + (1023 : Nat) + (52 : Nat)).toNat = b := by omega
    have hfits : ¬ 2 ^ 11 ≤ (exponent + (1023 : Nat) + (52 : Nat)).toNat + 1 := by omega
    have hwidth : mantissa.log2 + 1 = 53 := by rw [h.log2]
    unfold UnpackedFloat.pack
    dsimp only
    refine (if_neg hfits).trans ((if_pos hwidth).trans ?_)
    congr
  rw [hpack]
  unfold UnpackedFloat.unpack
  simp only [unpackMantissa_packComponents, unpackExponent_packComponents]
  rw [if_neg hones, if_neg hzero]
  rw [UnpackedFloat.finite.injEq]
  refine ⟨?_, toNat_implicit h, ?_⟩
  · rw [unpackSign_packComponents, ofBitVec_toBitVec]
  · show ((BitVec.ofNat 11 b).toNat : Int) - ((1023 : Nat) + (52 : Nat)) = exponent
    omega

/-! ## Rounding -/

theorem repeat_shiftRightOne (mantissa k : Nat) :
    k.repeat ExtendedMantissa.shiftRightOne ⟨mantissa * 2 ^ k, false, false⟩ = ⟨mantissa, false, false⟩ := by
  induction k generalizing mantissa with
  | zero => simp [Nat.repeat]
  | succ k ih =>
    have hdouble : mantissa * 2 ^ (k + 1) = mantissa * 2 * 2 ^ k := by
      rw [Nat.pow_succ, Nat.mul_assoc, Nat.mul_comm 2]
    rw [Nat.repeat, hdouble, ih]
    simp [ExtendedMantissa.shiftRightOne]

theorem log2_shifted {mantissa : Nat} (hpos : 0 < mantissa) (k : Nat) :
    (mantissa * 2 ^ k).log2 = mantissa.log2 + k := by
  induction k with
  | zero => simp
  | succ k ih =>
    have hk : mantissa * 2 ^ k ≠ 0 := by positivity
    have hdouble : mantissa * 2 ^ (k + 1) = 2 * (mantissa * 2 ^ k) := by
      rw [Nat.pow_succ]
      ring
    rw [hdouble, Nat.log2_two_mul hk, ih, Nat.add_assoc]

variable {mantissa : Nat} {exponent : Int}

theorem shiftToTargetExponent_exact (h : Normal mantissa exponent) (k : Nat) :
    shiftToTargetExponent .binary64 (mantissa * 2 ^ k) (exponent - k) .exact =
      (⟨mantissa, false, false⟩, exponent) := by
  have hleast := h.least
  have htarget : Float.Model.Format.binary64.targetExponent (totalExponent (mantissa * 2 ^ k) (exponent - k)) = exponent := by
    unfold totalExponent Float.Model.Format.targetExponent
    rw [log2_shifted h.pos, h.log2]
    show max (((52 + k : Nat) : Int) + 1 + (exponent - k) - 53) (-1074) = exponent
    omega
  have hshift : (exponent - (exponent - k)).toNat = k := by omega
  unfold shiftToTargetExponent shiftToExponent
  dsimp only
  rw [htarget, hshift]
  refine Prod.ext (repeat_shiftRightOne mantissa k) ?_
  show exponent - k + k = exponent
  omega

/-- Rounding keeps what has more bits than a mantissa only behind the point. -/
theorem roundWithAccuracy_exact (h : Normal mantissa exponent) (sign : Sign) (k : Nat) :
    roundWithAccuracy .binary64 sign (mantissa * 2 ^ k) (exponent - k) .exact =
      .finite sign mantissa exponent h.pos := by
  have hagain := shiftToTargetExponent_exact h 0
  simp only [Nat.pow_zero, Nat.mul_one, Nat.cast_zero, Int.sub_zero] at hagain
  have hrounded : ExtendedMantissa.roundedMantissa ⟨mantissa, false, false⟩ = mantissa := rfl
  unfold roundWithAccuracy
  simp only [shiftToTargetExponent_exact h k, hrounded, hagain]
  exact dif_neg h.pos.ne'

/-! ## Whole numbers -/

/-- How far a whole number is moved up until its mantissa has full width. -/
def lift (n : Nat) : Nat := 52 - n.log2

theorem normal_lift {n : Nat} (hpos : 0 < n) (hlt : n < 2 ^ 53) : Normal (n * 2 ^ lift n) (-lift n) := by
  have hlog : n.log2 < 53 := (Nat.log2_lt hpos.ne').mpr hlt
  have hwidth : (n * 2 ^ lift n).log2 = 52 := by
    rw [log2_shifted hpos]
    unfold lift
    omega
  have hne : n * 2 ^ lift n ≠ 0 := by positivity
  refine ⟨(Nat.le_log2 hne).mp hwidth.ge, (Nat.log2_lt hne).mp (by omega), ?_, ?_⟩
  · unfold lift
    omega
  · unfold lift
    omega

/-- The parts of a whole number. -/
theorem unpackedOfNat {n : Nat} (hpos : 0 < n) (hlt : n < 2 ^ 53) :
    UnpackedFloat.ofNat .binary64 n =
      .finite .positive (n * 2 ^ lift n) (-lift n) (normal_lift hpos hlt).pos := by
  have hlog : n.log2 < 53 := (Nat.log2_lt hpos.ne').mpr hlt
  have hcompare : compare (n : Int) 0 = .gt := Int.compare_eq_gt.mpr (by omega)
  have htarget : Float.Model.Format.binary64.targetExponent (totalExponent n 0) = -lift n := by
    show max ((n.log2 : Int) + 1 + 0 - 53) (-1074) = _
    unfold lift
    omega
  have hround := roundWithAccuracy_exact (normal_lift hpos hlt) .positive 0
  unfold UnpackedFloat.ofNat UnpackedFloat.ofInt UnpackedFloat.normalize
  rw [hcompare]
  show UnpackedFloat.round .binary64 .positive n 0 = _
  unfold UnpackedFloat.round decreaseExponent
  rw [htarget]
  have hshift : ((0 : Int) - -(lift n : Int)).toNat = lift n := by omega
  simp only [hshift, Nat.shiftLeft_eq]
  simpa using hround

theorem parts_packed (h : Normal mantissa exponent) (sign : Sign) :
    parts (.ofModel (Float.Model.pack (.finite sign mantissa exponent h.pos))) =
      .finite sign mantissa exponent h.pos :=
  unpack_pack h sign

theorem normal_one : Normal (2 ^ 52) (-52) := by
  constructor <;> decide

theorem parts_one : parts (Float.ofBits 0x3FF0000000000000) = .finite .positive (2 ^ 52) (-52) normal_one.pos := by
  rfl

/-- **A whole number of no more bits than a mantissa is exact.** -/
theorem parts_ofNat {n : Nat} (hpos : 0 < n) (hlt : n < 2 ^ 53) :
    parts (Float.ofNat n) =
      .finite .positive (n * 2 ^ lift n) (-lift n) (normal_lift hpos hlt).pos := by
  have hnormal := normal_lift hpos hlt
  have hword : n.toUInt64.toNat = n := by
    show n % 2 ^ 64 = n
    omega
  have hfloat : parts n.toUInt64.toFloat = .finite .positive (n * 2 ^ lift n) (-lift n) hnormal.pos := by
    have hmodel : parts n.toUInt64.toFloat =
        parts (.ofModel (Float.Model.pack (UnpackedFloat.ofNat .binary64 n.toUInt64.toNat))) := rfl
    rw [hmodel, hword, unpackedOfNat hpos hlt, parts_packed hnormal]
  have hproduct : Float.ofNat n = n.toUInt64.toFloat * Float.ofBits 0x3FF0000000000000 :=
    dif_pos ⟨hlt, by decide⟩
  have hunpacked : parts (n.toUInt64.toFloat * Float.ofBits 0x3FF0000000000000) =
      parts (.ofModel (Float.Model.pack (UnpackedFloat.mul .binary64 (parts n.toUInt64.toFloat)
        (parts (Float.ofBits 0x3FF0000000000000))))) := rfl
  -- multiplying by one moves the mantissa up, and rounding moves it down again
  have hmul : UnpackedFloat.mul .binary64 (.finite .positive (n * 2 ^ lift n) (-lift n) hnormal.pos)
      (.finite .positive (2 ^ 52) (-52) normal_one.pos) =
        .finite .positive (n * 2 ^ lift n) (-lift n) hnormal.pos :=
    roundWithAccuracy_exact hnormal .positive 52
  rw [hproduct, hunpacked, hfloat, parts_one, hmul, parts_packed hnormal]

theorem parts_zero : parts (Float.ofNat 0) = .zero .positive := rfl

theorem parts_point_zero : parts 0.0 = .zero .positive := rfl

theorem parts_neg (h : Normal mantissa exponent) {sign : Sign} {x : Float}
    (hx : parts x = .finite sign mantissa exponent h.pos) :
    parts (-x) = .finite (-sign) mantissa exponent h.pos := by
  have hneg : parts (-x) = parts (.ofModel (Float.Model.pack (parts x).neg)) := rfl
  rw [hneg, hx]
  exact parts_packed h (-sign)

/-! ## Decoding -/

/-- What the parts of a number are decoded to. -/
def decoded : UnpackedFloat → Binary
  | .notANumber => .nan
  | .infinity sign => .infinite (sign == .negative)
  | .zero sign => .finite (sign == .negative) 0 (-1074)
  | .finite sign mantissa exponent _ => .finite (sign == .negative) mantissa exponent

/-- The sign bit, and whether the sign is negative. -/
theorem unpackSign_eq (x : Float) :
    (Sign.ofBitVec (@unpackSign .binary64 x.toBits.toBitVec) == .negative) =
      decide (Nat.pow 2 63 ≤ x.toBits.toNat) := by
  have hlt : x.toBits.toNat < 2 ^ 64 := x.toBits.toNat_lt
  have hbit : (@unpackSign .binary64 x.toBits.toBitVec).toNat = x.toBits.toNat / 2 ^ 63 % 2 := by
    show (x.toBits.toNat >>> 63) % 2 ^ 1 = _
    rw [Nat.shiftRight_eq_div_pow]
  have hpow : Nat.pow 2 63 = 2 ^ 63 := rfl
  unfold Sign.ofBitVec
  by_cases hzero : @unpackSign .binary64 x.toBits.toBitVec = 0#1
  · have hclear : x.toBits.toNat / 2 ^ 63 % 2 = 0 := by
      rw [← hbit, hzero]
      rfl
    rw [if_pos hzero, hpow, decide_eq_false (by omega)]
    rfl
  · have hset : x.toBits.toNat / 2 ^ 63 % 2 ≠ 0 := by
      intro h
      rw [← hbit] at h
      exact hzero (BitVec.toNat_inj.mp h)
    rw [if_neg hzero, hpow, decide_eq_true (by omega)]
    rfl

/-- Decoding and unpacking read the same off the bits. -/
theorem ofFloat_eq_decoded (x : Float) : Binary.ofFloat x = decoded (parts x) := by
  have hsign := unpackSign_eq x
  have hmantissa := toNat_unpackMantissa x
  have hexponent := toNat_unpackExponent x
  unfold Binary.ofFloat
  show (if biased x = 2047 then if fraction x = 0 then _ else _ else if biased x = 0 then _ else _) =
    decoded (UnpackedFloat.unpack .binary64 x.toBits.toBitVec)
  unfold UnpackedFloat.unpack
  dsimp only
  by_cases hones : biased x = 2047
  · rw [if_pos hones, if_pos ((unpackExponent_eq_iff x).mpr hones)]
    by_cases hzero : fraction x = 0
    · rw [if_pos hzero, if_pos ((unpackMantissa_eq_iff x).mpr hzero), decoded, hsign]
    · rw [if_neg hzero, if_neg (mt (unpackMantissa_eq_iff x).mp hzero), decoded]
  · rw [if_neg hones, if_neg (mt (unpackExponent_eq_iff x).mp hones)]
    have hleast : @unpackExponent .binary64 x.toBits.toBitVec = 0#11 ↔ biased x = 0 := by
      rw [← BitVec.toNat_inj, hexponent]
      exact Iff.rfl
    by_cases hsubnormal : biased x = 0
    · rw [if_pos hsubnormal, if_pos (hleast.mpr hsubnormal)]
      by_cases hzero : fraction x = 0
      · rw [dif_pos ((unpackMantissa_eq_iff x).mpr hzero), decoded, hsign]
        exact congrArg (Binary.finite _ · _) hzero
      · rw [dif_neg (mt (unpackMantissa_eq_iff x).mp hzero), decoded, hsign, hmantissa]
        show Binary.finite _ _ _ = .finite _ _ (((@unpackExponent .binary64 x.toBits.toBitVec).toNat : Int) -
          ((1023 : Nat) + (52 : Nat)) + 1)
        rw [hexponent, hsubnormal]
        rfl
    · rw [if_neg hsubnormal, if_neg (mt hleast.mp hsubnormal), decoded, hsign]
      show Binary.finite _ _ _ = .finite _ _ (((@unpackExponent .binary64 x.toBits.toBitVec).toNat : Int) -
        ((1023 : Nat) + (52 : Nat)))
      rw [hexponent, toNat_append_one, hmantissa]
      rfl

theorem wholePart?_of_finite {x : Float} {negative : Bool}
    (h : decoded (parts x) = .finite negative mantissa exponent) :
    wholePart? x = some (if negative then -(floorScaled mantissa exponent : Int)
      else floorScaled mantissa exponent) := by
  unfold wholePart?
  rw [ofFloat_eq_decoded, h]

/-- No mantissa is wider than full width. -/
theorem mantissa_lt {x : Float} {sign : Sign} {hpos : 0 < mantissa}
    (h : parts x = .finite sign mantissa exponent hpos) : mantissa < 2 ^ 53 := by
  have hparts := ofFloat_eq_decoded x
  rw [h, decoded] at hparts
  have hlt : x.toBits.toNat % Nat.pow 2 52 < Nat.pow 2 52 := Nat.mod_lt _ (by decide)
  have hpow : Nat.pow 2 52 = 2 ^ 52 := rfl
  unfold Binary.ofFloat at hparts
  dsimp only at hparts
  split at hparts
  · split at hparts <;> cases hparts
  · split at hparts
    · obtain ⟨-, hmantissa, -⟩ := Binary.finite.inj hparts
      omega
    · obtain ⟨-, hmantissa, -⟩ := Binary.finite.inj hparts
      omega

theorem floorScaled_zero (exponent : Int) : floorScaled 0 exponent = 0 := by
  simp [floorScaled]

theorem floorScaled_neg (mantissa k : Nat) : floorScaled mantissa (-k) = mantissa / 2 ^ k := by
  rcases Nat.eq_zero_or_pos k with rfl | hpos
  · simp [floorScaled]
  · have hk : (-(-k : Int)).toNat = k := by omega
    unfold floorScaled
    rw [if_neg (by omega), hk]
    rfl

theorem floorScaled_lifted (n : Nat) : floorScaled (n * 2 ^ lift n) (-lift n) = n := by
  rw [floorScaled_neg]
  exact Nat.mul_div_cancel n (Nat.two_pow_pos _)

/-! ## Whole parts and order of whole numbers -/

section

variable {n i j : Nat}

theorem lift_lt_or_eq (hpos : 0 < i) (hlt : i < j) :
    lift j < lift i ∨ lift i = lift j ∧ i * 2 ^ lift i < j * 2 ^ lift j := by
  have hlog : i.log2 ≤ j.log2 := by
    have hself : 2 ^ i.log2 ≤ i := Nat.log2_self_le hpos.ne'
    exact (Nat.le_log2 (by omega)).mpr (by omega)
  have hle : lift j ≤ lift i := by
    unfold lift
    omega
  rcases Nat.lt_or_eq_of_le hle with h | h
  · exact .inl h
  · rw [h]
    exact .inr ⟨rfl, Nat.mul_lt_mul_of_pos_right hlt (Nat.two_pow_pos _)⟩

theorem ofNat_lt_ofNat (hlt : i < j) (hj : j < 2 ^ 53) :
    (parts (Float.ofNat i)).compare (parts (Float.ofNat j)) = some .lt := by
  have hjpos : 0 < j := by omega
  rw [parts_ofNat hjpos hj]
  rcases Nat.eq_zero_or_pos i with rfl | hpos
  · rfl
  · rw [parts_ofNat hpos (by omega)]
    show some ((compare (-lift i : Int) (-lift j)).then (compare (i * 2 ^ lift i) (j * 2 ^ lift j))) = _
    rcases lift_lt_or_eq hpos hlt with h | ⟨heq, h⟩
    · rw [Int.compare_eq_lt.mpr (by omega)]
      rfl
    · rw [heq, Int.compare_eq_eq.mpr rfl, ← heq, Nat.compare_eq_lt.mpr (heq ▸ h)]
      rfl

theorem ofNat_beq_self (hlt : n < 2 ^ 53) : (Float.ofNat n == Float.ofNat n) = true := by
  rw [beq_iff]
  rcases Nat.eq_zero_or_pos n with rfl | hpos
  · rfl
  · rw [parts_ofNat hpos hlt]
    show some ((compare (-lift n : Int) (-lift n)).then (compare (n * 2 ^ lift n) (n * 2 ^ lift n))) = _
    simp

/-- **Whole numbers are compared as they are counted.** -/
theorem compareNumbers_ofNat (hi : i < 2 ^ 53) (hj : j < 2 ^ 53) :
    compareNumbers (Float.ofNat i) (Float.ofNat j) = some (compare i j) := by
  rw [compareNumbers_eq]
  rcases Nat.lt_trichotomy i j with h | rfl | h
  · rw [ofNat_lt_ofNat h hj, Nat.compare_eq_lt.mpr h]
  · rw [← compareNumbers_eq, (compareNumbers_eq_iff _ _).mpr (ofNat_beq_self hi)]
    simp
  · rw [consistent_parts.swap (Float.ofNat j) (Float.ofNat i), ofNat_lt_ofNat h hi, Nat.compare_eq_gt.mpr h]
    rfl

/-! ### Numbers that equal a whole number -/

theorem eq_zero_of_compare {u : UnpackedFloat} {sign : Sign} (h : u.compare (.zero sign) = some .eq) :
    ∃ sign', u = .zero sign' := by
  cases u with
  | zero sign' => exact ⟨sign', rfl⟩
  | notANumber => cases h
  | infinity s | finite s m e hm => cases s <;> cases h

/-- Nothing but a finite number itself is level with it. -/
theorem eq_finite_of_compare {u : UnpackedFloat} {sign : Sign} {hpos : 0 < mantissa}
    (h : u.compare (.finite sign mantissa exponent hpos) = some .eq) :
    u = .finite sign mantissa exponent hpos := by
  cases u with
  | notANumber => cases h
  | zero s => cases sign <;> cases h
  | infinity s => cases s <;> cases h
  | finite s m e hm =>
    have hsame : ∀ {e' : Int} {m' : Nat}, (compare e e').then (compare m m') = .eq → e = e' ∧ m = m' := by
      intro e' m' hthen
      obtain ⟨he, hm⟩ := Ordering.then_eq_eq.mp hthen
      exact ⟨Int.compare_eq_eq.mp he, Nat.compare_eq_eq.mp hm⟩
    -- with different signs the groups decide, and with the same sign exponent and mantissa do
    cases s with
    | negative =>
      cases sign with
      | negative =>
        obtain ⟨rfl, rfl⟩ := hsame (Ordering.swap_eq_eq.mp (Option.some.inj h))
        rfl
      | positive => cases h
    | positive =>
      cases sign with
      | negative => cases h
      | positive =>
        obtain ⟨rfl, rfl⟩ := hsame (Option.some.inj h)
        rfl

theorem parts_of_beq {x : Float} (hlt : n < 2 ^ 53) (h : (x == Float.ofNat n) = true) :
    (n = 0 ∧ ∃ sign, parts x = .zero sign) ∨
      ∃ hpos : 0 < n, parts x =
        .finite .positive (n * 2 ^ lift n) (-lift n) (normal_lift hpos hlt).pos := by
  rw [beq_iff] at h
  rcases Nat.eq_zero_or_pos n with rfl | hpos
  · rw [parts_zero] at h
    exact .inl ⟨rfl, eq_zero_of_compare h⟩
  · rw [parts_ofNat hpos hlt] at h
    exact .inr ⟨hpos, eq_finite_of_compare h⟩

theorem not_isNaN_of_beq {x : Float} (hlt : n < 2 ^ 53) (h : (x == Float.ofNat n) = true) :
    x.isNaN = false := by
  show (parts x).isNaN = false
  rcases parts_of_beq hlt h with ⟨-, sign, hx⟩ | ⟨hpos, hx⟩
  · rw [hx]
    rfl
  · rw [hx]
    rfl

theorem not_lt_zero_of_beq {x : Float} (hlt : n < 2 ^ 53) (h : (x == Float.ofNat n) = true) : ¬ x < 0.0 := by
  rw [lt_iff, parts_point_zero]
  rcases parts_of_beq hlt h with ⟨-, sign, hx⟩ | ⟨hpos, hx⟩
  · rw [hx]
    nofun
  · rw [hx]
    nofun

/-- **A number that equals a whole number has it for its whole part.** -/
theorem wholePart?_of_beq {x : Float} (hlt : n < 2 ^ 53) (h : (x == Float.ofNat n) = true) :
    wholePart? x = some (n : Int) := by
  rcases parts_of_beq hlt h with ⟨rfl, sign, hx⟩ | ⟨hpos, hx⟩
  · have hdecoded : decoded (parts x) = .finite (sign == .negative) 0 (-1074) := by rw [hx, decoded]
    rw [wholePart?_of_finite hdecoded, floorScaled_zero]
    simp
  · have hdecoded : decoded (parts x) = .finite false (n * 2 ^ lift n) (-lift n) := by
      rw [hx]
      rfl
    rw [wholePart?_of_finite hdecoded, floorScaled_lifted]
    simp

/-- A number that equals a negative whole number is below zero. -/
theorem lt_zero_of_beq {x : Float} {z : Int} (hneg : z < 0) (hlt : -2 ^ 53 < z)
    (h : (x == Float.ofInt z) = true) : x < 0.0 := by
  obtain ⟨n, rfl⟩ := Int.eq_negSucc_of_lt_zero hneg
  have hn : n + 1 < 2 ^ 53 := by omega
  have hnormal := normal_lift (Nat.succ_pos n) hn
  have hparts : parts (Float.ofInt (Int.negSucc n)) = .finite .negative _ _ hnormal.pos :=
    parts_neg hnormal (parts_ofNat (Nat.succ_pos n) hn)
  rw [beq_iff, hparts] at h
  rw [lt_iff, parts_point_zero, eq_finite_of_compare h]
  rfl

/-! ### Numbers below a whole number -/

/-- What is less than a whole number in exponent or mantissa is less in its whole part. -/
theorem floorScaled_lt (hpos : 0 < n) (hn : n < 2 ^ 53) (hm : mantissa < 2 ^ 53)
    (h : exponent < -lift n ∨ exponent = -lift n ∧ mantissa < n * 2 ^ lift n) :
    floorScaled mantissa exponent < n := by
  obtain ⟨k, rfl⟩ : ∃ k : Nat, exponent = -k := ⟨(-exponent).toNat, by omega⟩
  rw [floorScaled_neg, Nat.div_lt_iff_lt_mul (Nat.two_pow_pos k)]
  rcases h with h | ⟨heq, h⟩
  · -- one bit further up, and a mantissa of full width does not reach it any more
    have hwidth : 2 ^ 52 ≤ n * 2 ^ lift n := (normal_lift hpos hn).low
    have hup : 2 ^ (lift n + 1) ≤ 2 ^ k := Nat.pow_le_pow_right (by decide) (by omega)
    calc mantissa < 2 ^ 52 * 2 := hm
      _ ≤ n * 2 ^ lift n * 2 := Nat.mul_le_mul_right 2 hwidth
      _ = n * 2 ^ (lift n + 1) := by rw [Nat.mul_assoc, ← Nat.pow_succ]
      _ ≤ n * 2 ^ k := Nat.mul_le_mul_left n hup
  · obtain rfl : k = lift n := by omega
    exact h

theorem lt_cases {m m' : Nat} {e e' : Int} {hm : 0 < m} {hm' : 0 < m'}
    (h : (UnpackedFloat.finite .positive m e hm).compare (.finite .positive m' e' hm') = some .lt) :
    e < e' ∨ e = e' ∧ m < m' := by
  have hthen : (compare e e').then (compare m m') = .lt := Option.some.inj h
  rcases Ordering.then_eq_lt.mp hthen with he | ⟨he, hmantissa⟩
  · exact .inl (Int.compare_eq_lt.mp he)
  · exact .inr ⟨Int.compare_eq_eq.mp he, Nat.compare_eq_lt.mp hmantissa⟩

/-- A number below a whole number has a whole part below it. -/
theorem wholePart_lt {x : Float} {z : Int} (hlt : x < Float.ofNat n) (hnonneg : ¬ x < 0.0)
    (hn : n < 2 ^ 53) (hz : wholePart? x = some z) : z.toNat < n := by
  rw [lt_iff] at hlt hnonneg
  rw [parts_point_zero] at hnonneg
  have hpos : 0 < n := by
    rcases Nat.eq_zero_or_pos n with rfl | hpos
    · exact absurd hlt hnonneg
    · exact hpos
  rw [parts_ofNat hpos hn] at hlt
  cases hx : parts x with
  | notANumber =>
    rw [hx] at hlt
    cases hlt
  | infinity s =>
    rw [hx] at hlt hnonneg
    cases s with
    | negative => exact absurd rfl hnonneg
    | positive => cases hlt
  | zero s =>
    have hdecoded : decoded (parts x) = .finite (s == .negative) 0 (-1074) := by rw [hx, decoded]
    rw [wholePart?_of_finite hdecoded, floorScaled_zero] at hz
    simp only [Nat.cast_zero, Int.neg_zero, ite_self, Option.some.injEq] at hz
    omega
  | finite s m e hm =>
    rw [hx] at hlt hnonneg
    cases s with
    | negative => exact absurd rfl hnonneg
    | positive =>
      have hdecoded : decoded (parts x) = .finite false m e := by
        rw [hx]
        rfl
      have hz : (floorScaled m e : Int) = z := Option.some.inj ((wholePart?_of_finite hdecoded).symm.trans hz)
      have hwidth : m < 2 ^ 53 := mantissa_lt hx
      have hbelow : floorScaled m e < n := floorScaled_lt hpos hn hwidth (lt_cases hlt)
      omega

end

end Reckon.Number
