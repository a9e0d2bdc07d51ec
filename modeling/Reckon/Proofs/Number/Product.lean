import Reckon.Proofs.Number.Whole

/-!
# `Proofs.Number.Product` — products and quotients of whole numbers

A product of two numbers is rounded, and so is a quotient. Where it is a whole number below `2 ^ 53` there is
nothing to round off: the mantissas multiplied are that of the product, moved up by some more places
(`mul_lifted`), and divided they go into each other without a rest (`div_lifted`). So whole numbers are
multiplied and divided as integers are, whatever their sign.

To say so of numbers, and not only of their parts, takes that a finite number is told by its parts
(`eq_of_parts`).

Main statements: `ofInt_mul_ofNat`, `ofInt_div_ofNat`, `roundHalfEven?_ofInt`.
-/

namespace Reckon.Number

open Float.Model UnpackedFloat

/-! ## Numbers and their parts -/

/-- The bits of a finite number, put together again. -/
theorem toNat_toBits_of_finite {x : Float} {negative : Bool} {mantissa : Nat} {exponent : Int}
    (h : Binary.ofFloat x = .finite negative mantissa exponent) :
    x.toBits.toNat = (if negative then 2 ^ 63 else 0) +
      if mantissa < 2 ^ 52 then mantissa else (exponent + 1075).toNat * 2 ^ 52 + (mantissa - 2 ^ 52) := by
  have hlt : x.toBits.toNat < 2 ^ 64 := x.toBits.toNat_lt
  unfold Binary.ofFloat at h
  generalize x.toBits.toNat = bits at *
  have h63 : Nat.pow 2 63 = 2 ^ 63 := rfl
  have h52 : Nat.pow 2 52 = 2 ^ 52 := rfl
  have h11 : Nat.pow 2 11 = 2 ^ 11 := rfl
  rw [h63, h52, h11] at h
  dsimp only at h
  have hsign : (if decide (2 ^ 63 ≤ bits) = true then 2 ^ 63 else 0) = bits / 2 ^ 63 * 2 ^ 63 := by
    by_cases hset : 2 ^ 63 ≤ bits
    · rw [decide_eq_true hset, if_pos rfl]
      omega
    · rw [decide_eq_false hset, if_neg Bool.false_ne_true]
      omega
  split at h
  · split at h <;> cases h
  · split at h
    · cases h
      rw [hsign, if_pos (by omega)]
      omega
    · cases h
      rw [hsign, if_neg (by omega)]
      omega

theorem eq_of_ofFloat {x y : Float} {negative : Bool} {mantissa : Nat} {exponent : Int}
    (hx : Binary.ofFloat x = .finite negative mantissa exponent)
    (hy : Binary.ofFloat y = .finite negative mantissa exponent) : x = y := by
  apply eq_of_toBits
  rw [toNat_toBits_of_finite hx, toNat_toBits_of_finite hy]

/-- A finite number is told by its parts. -/
theorem eq_of_parts {x y : Float} {negative : Bool} {mantissa : Nat} {exponent : Int} (h : parts x = parts y)
    (hfinite : decoded (parts x) = .finite negative mantissa exponent) : x = y := by
  refine eq_of_ofFloat (by rw [ofFloat_eq_decoded, hfinite]) ?_
  rw [ofFloat_eq_decoded, ← h, hfinite]

/-! ## Whole numbers of either sign -/

/-- The sign of a whole number; zero has none of its own. -/
def signOf (z : Int) : Sign :=
  if z < 0 then .negative else .positive

section

variable {z : Int} {n j : Nat}

theorem parts_ofInt (hz : z.natAbs = n) (hpos : 0 < n) (hlt : n < 2 ^ 53) :
    parts (Float.ofInt z) = .finite (signOf z) (n * 2 ^ lift n) (-lift n) (normal_lift hpos hlt).pos := by
  cases z with
  | ofNat k =>
    obtain rfl : k = n := hz
    exact parts_ofNat hpos hlt
  | negSucc k =>
    obtain rfl : k + 1 = n := hz
    have hsign : signOf (Int.negSucc k) = -Sign.positive := if_pos (Int.negSucc_lt_zero k)
    rw [hsign]
    exact parts_neg (normal_lift hpos hlt) (parts_ofNat hpos hlt)

theorem parts_ofInt_zero : parts (Float.ofInt 0) = .zero .positive := rfl

theorem decoded_ofInt (hz : z.natAbs = n) (hpos : 0 < n) (hlt : n < 2 ^ 53) :
    decoded (parts (Float.ofInt z)) = .finite (decide (z < 0)) (n * 2 ^ lift n) (-lift n) := by
  have hsign : (signOf z == .negative) = decide (z < 0) := by
    unfold signOf
    by_cases hneg : z < 0
    · rw [if_pos hneg, decide_eq_true hneg]
      rfl
    · rw [if_neg hneg, decide_eq_false hneg]
      rfl
  rw [parts_ofInt hz hpos hlt, decoded, hsign]

/-- A number with the parts of a whole number is this number. -/
theorem eq_ofInt {x : Float} (hlt : z.natAbs < 2 ^ 53) (h : parts x = parts (Float.ofInt z)) :
    x = Float.ofInt z := by
  rcases Nat.eq_zero_or_pos z.natAbs with hzero | hpos
  · obtain rfl : z = 0 := Int.natAbs_eq_zero.mp hzero
    have hdecoded : decoded (parts x) = .finite false 0 (-1074) := by
      rw [h, parts_ofInt_zero]
      rfl
    exact eq_of_parts h hdecoded
  · exact eq_of_parts h (h ▸ decoded_ofInt rfl hpos hlt)

/-- A whole number is the nearest to itself. -/
theorem nearestEven_lifted (n : Nat) : nearestEven (n * 2 ^ lift n) (-lift n) = n := by
  rcases Nat.eq_zero_or_pos (lift n) with hzero | hpos
  · rw [hzero]
    simp [nearestEven]
  · have hlift : (-(-lift n : Int)).toNat = lift n := by omega
    have hpow : Nat.pow 2 (lift n) = 2 ^ lift n := rfl
    have hunit : 0 < 2 ^ lift n := Nat.two_pow_pos _
    have hbelow : n * 2 ^ lift n / 2 ^ lift n = n := Nat.mul_div_cancel n hunit
    have hrest : n * 2 ^ lift n % 2 ^ lift n = 0 := Nat.mul_mod_left n _
    unfold nearestEven
    dsimp only
    rw [if_neg (by omega), hlift, hpow, hbelow, hrest]
    exact if_pos hunit

theorem signed_natAbs (z : Int) : (if decide (z < 0) = true then -(z.natAbs : Int) else z.natAbs) = z := by
  by_cases hneg : z < 0
  · rw [decide_eq_true hneg, if_pos rfl]
    omega
  · rw [decide_eq_false hneg, if_neg Bool.false_ne_true]
    omega

theorem integer_zero : wholePart? (Float.ofInt 0) = some 0 ∧ roundHalfEven? (Float.ofInt 0) = some 0 := by
  decide +kernel

theorem wholePart?_ofInt (hlt : z.natAbs < 2 ^ 53) : wholePart? (Float.ofInt z) = some z := by
  rcases Nat.eq_zero_or_pos z.natAbs with hzero | hpos
  · obtain rfl : z = 0 := Int.natAbs_eq_zero.mp hzero
    exact integer_zero.1
  · rw [wholePart?_of_finite (decoded_ofInt rfl hpos hlt), floorScaled_lifted, signed_natAbs]

/-- **A whole number is not rounded.** -/
theorem roundHalfEven?_ofInt (hlt : z.natAbs < 2 ^ 53) : roundHalfEven? (Float.ofInt z) = some z := by
  rcases Nat.eq_zero_or_pos z.natAbs with hzero | hpos
  · obtain rfl : z = 0 := Int.natAbs_eq_zero.mp hzero
    exact integer_zero.2
  · unfold roundHalfEven?
    rw [ofFloat_eq_decoded, decoded_ofInt rfl hpos hlt]
    dsimp only
    rw [nearestEven_lifted, signed_natAbs]

/-! ## Products -/

/-- A product of whole numbers has its full width no later than its factors have theirs. -/
theorem lift_mul_le (hn : 0 < n) (hj : 0 < j) (hlt : n * j < 2 ^ 53) : lift (n * j) ≤ lift n + lift j := by
  have hnlog : 2 ^ n.log2 ≤ n := Nat.log2_self_le hn.ne'
  have hjlog : 2 ^ j.log2 ≤ j := Nat.log2_self_le hj.ne'
  have hpower : 2 ^ (n.log2 + j.log2) ≤ n * j := by
    rw [Nat.pow_add]
    exact Nat.mul_le_mul hnlog hjlog
  have hlog : n.log2 + j.log2 ≤ (n * j).log2 := (Nat.le_log2 (Nat.mul_pos hn hj).ne').mpr hpower
  have hwidth : (n * j).log2 < 53 := (Nat.log2_lt (Nat.mul_pos hn hj).ne').mpr hlt
  unfold lift
  omega

theorem mul_lifted (hn : 0 < n) (hj : 0 < j) (hlt : n * j < 2 ^ 53) (sign : Sign) :
    roundWithAccuracy .binary64 sign (n * 2 ^ lift n * (j * 2 ^ lift j)) (-lift n + -lift j) .exact =
      .finite sign (n * j * 2 ^ lift (n * j)) (-lift (n * j)) (normal_lift (Nat.mul_pos hn hj) hlt).pos := by
  have hle := lift_mul_le hn hj hlt
  obtain ⟨k, hk⟩ := Nat.exists_eq_add_of_le hle
  have hmantissa : n * 2 ^ lift n * (j * 2 ^ lift j) = n * j * 2 ^ lift (n * j) * 2 ^ k := by
    have hpower : 2 ^ lift n * 2 ^ lift j = 2 ^ lift (n * j) * 2 ^ k := by
      rw [← Nat.pow_add, ← Nat.pow_add, hk]
    calc n * 2 ^ lift n * (j * 2 ^ lift j) = n * j * (2 ^ lift n * 2 ^ lift j) := by ring
      _ = n * j * 2 ^ lift (n * j) * 2 ^ k := by rw [hpower, Nat.mul_assoc (n * j)]
  have hexponent : -(lift n : Int) + -lift j = -lift (n * j) - k := by omega
  rw [hmantissa, hexponent]
  exact roundWithAccuracy_exact (normal_lift (Nat.mul_pos hn hj) hlt) sign k

theorem signOf_mul (hj : 0 < j) : signOf (z * j) = signOf z := by
  have hneg : z * j < 0 ↔ z < 0 := by
    constructor
    · intro h
      by_contra hnonneg
      have := Int.mul_nonneg (Int.not_lt.mp hnonneg) (Int.natCast_nonneg j)
      omega
    · intro h
      exact Int.mul_neg_of_neg_of_pos h (by omega)
  simp only [signOf, hneg]

theorem natAbs_mul_natCast (z : Int) (j : Nat) : (z * j).natAbs = z.natAbs * j := by
  rw [Int.natAbs_mul, Int.natAbs_natCast]

/-- **Whole numbers are multiplied exactly.** -/
theorem ofInt_mul_ofNat (hj : 0 < j) (hj' : j < 2 ^ 53) (hlt : z.natAbs * j < 2 ^ 53) :
    Float.ofInt z * Float.ofNat j = Float.ofInt (z * j) := by
  have habs := natAbs_mul_natCast z j
  have hmul : parts (Float.ofInt z * Float.ofNat j) =
      parts (.ofModel (Float.Model.pack (UnpackedFloat.mul .binary64 (parts (Float.ofInt z))
        (parts (Float.ofNat j))))) := rfl
  refine eq_ofInt (by omega) ?_
  rcases Nat.eq_zero_or_pos z.natAbs with hzero | hpos
  · obtain rfl : z = 0 := Int.natAbs_eq_zero.mp hzero
    rw [Int.zero_mul, hmul, parts_ofInt_zero, parts_ofNat hj hj', UnpackedFloat.mul]
    rfl
  · have hn : z.natAbs < 2 ^ 53 := Nat.lt_of_le_of_lt (Nat.le_mul_of_pos_right _ hj) hlt
    have hsign : signOf z * .positive = signOf z := by cases signOf z <;> rfl
    have hrounded : UnpackedFloat.mul .binary64 (parts (Float.ofInt z)) (parts (Float.ofNat j)) =
        parts (Float.ofInt (z * j)) := by
      rw [parts_ofInt rfl hpos hn, parts_ofNat hj hj', parts_ofInt habs (Nat.mul_pos hpos hj) hlt, signOf_mul hj,
        ← mul_lifted hpos hj hlt, UnpackedFloat.mul, hsign]
    rw [hmul, hrounded, parts_ofInt habs (Nat.mul_pos hpos hj) hlt]
    exact parts_packed (normal_lift (Nat.mul_pos hpos hj) hlt) _

/-! ## Quotients -/

/-- A dividend is moved up far enough for the quotient to have its full width. -/
theorem lift_le_quotient (hn : 0 < n) (hj : 0 < j) (hlt : n * j < 2 ^ 53) :
    lift n + lift j ≤ lift (n * j) + 53 := by
  have hnlog : n < 2 ^ (n.log2 + 1) := Nat.lt_log2_self
  have hjlog : j < 2 ^ (j.log2 + 1) := Nat.lt_log2_self
  have hpower : n * j < 2 ^ (n.log2 + 1 + (j.log2 + 1)) := by
    rw [Nat.pow_add]
    exact Nat.mul_lt_mul_of_lt_of_lt hnlog hjlog
  have hlog : (n * j).log2 < n.log2 + 1 + (j.log2 + 1) := (Nat.log2_lt (Nat.mul_pos hn hj).ne').mpr hpower
  have hwidth : (n * j).log2 < 53 := (Nat.log2_lt (Nat.mul_pos hn hj).ne').mpr hlt
  unfold lift
  omega

/-- The mantissa of a product, moved up, divided by that of a factor leaves no rest. -/
theorem div_lifted (hn : 0 < n) (hj : 0 < j) (hlt : n * j < 2 ^ 53) (hj' : j < 2 ^ 53) :
    divCore .binary64 (n * j * 2 ^ lift (n * j)) (-lift (n * j)) (j * 2 ^ lift j) (-lift j) =
      (n * 2 ^ (lift (n * j) + 53 - lift j), -((lift (n * j) + 53 - lift j : Nat) : Int), .exact) := by
  have hproduct := normal_lift (Nat.mul_pos hn hj) hlt
  have hfactor := normal_lift hj hj'
  have hle : lift j ≤ 52 := Nat.sub_le _ _
  have htarget : min (-(lift (n * j) : Int) - -lift j) (Float.Model.Format.binary64.targetExponent
      (totalExponent (n * j * 2 ^ lift (n * j)) (-lift (n * j)) - totalExponent (j * 2 ^ lift j) (-lift j))) =
        -((lift (n * j) + 53 - lift j : Nat) : Int) := by
    have hleast : lift (n * j) ≤ 52 := Nat.sub_le _ _
    unfold totalExponent Float.Model.Format.targetExponent
    rw [hproduct.log2, hfactor.log2]
    show min _ (max (((52 : Nat) : Int) + 1 + -lift (n * j) - (((52 : Nat) : Int) + 1 + -lift j) - 53) (-1074)) = _
    omega
  have hshift : (-(lift (n * j) : Int) - -lift j - -((lift (n * j) + 53 - lift j : Nat) : Int)).toNat = 53 := by
    omega
  have hdividend : (n * j * 2 ^ lift (n * j)) <<< 53 =
      n * 2 ^ (lift (n * j) + 53 - lift j) * (j * 2 ^ lift j) := by
    have hpower : 2 ^ lift (n * j) * 2 ^ 53 = 2 ^ (lift (n * j) + 53 - lift j) * 2 ^ lift j := by
      rw [← Nat.pow_add, ← Nat.pow_add, Nat.sub_add_cancel (by omega)]
    calc (n * j * 2 ^ lift (n * j)) <<< 53 = n * j * (2 ^ lift (n * j) * 2 ^ 53) := by
          rw [Nat.shiftLeft_eq, Nat.mul_assoc (n * j)]
      _ = n * 2 ^ (lift (n * j) + 53 - lift j) * (j * 2 ^ lift j) := by
          rw [hpower]
          ring
  unfold divCore
  dsimp only
  rw [htarget, hshift, hdividend, Nat.mul_div_cancel _ hfactor.pos, Nat.mul_mod_left]
  rfl

/-- **Whole numbers that go into each other are divided exactly.** -/
theorem ofInt_div_ofNat (hj : 0 < j) (hj' : j < 2 ^ 53) (hlt : z.natAbs * j < 2 ^ 53) :
    Float.ofInt (z * j) / Float.ofNat j = Float.ofInt z := by
  have habs := natAbs_mul_natCast z j
  have hn : z.natAbs < 2 ^ 53 := Nat.lt_of_le_of_lt (Nat.le_mul_of_pos_right _ hj) hlt
  have hdiv : parts (Float.ofInt (z * j) / Float.ofNat j) =
      parts (.ofModel (Float.Model.pack (UnpackedFloat.div .binary64 (parts (Float.ofInt (z * j)))
        (parts (Float.ofNat j))))) := rfl
  refine eq_ofInt hn ?_
  rcases Nat.eq_zero_or_pos z.natAbs with hzero | hpos
  · obtain rfl : z = 0 := Int.natAbs_eq_zero.mp hzero
    rw [hdiv, Int.zero_mul, parts_ofInt_zero, parts_ofNat hj hj', UnpackedFloat.div]
    rfl
  · have hsign : signOf z / .positive = signOf z := by cases signOf z <;> rfl
    obtain ⟨k, hk⟩ : ∃ k, lift (z.natAbs * j) + 53 - lift j = lift z.natAbs + k :=
      Nat.exists_eq_add_of_le (by have := lift_le_quotient hpos hj hlt; omega)
    have hmantissa : z.natAbs * 2 ^ (lift z.natAbs + k) = z.natAbs * 2 ^ lift z.natAbs * 2 ^ k := by
      rw [Nat.pow_add, Nat.mul_assoc]
    have hexponent : -((lift z.natAbs + k : Nat) : Int) = -lift z.natAbs - k := by omega
    have hrounded : UnpackedFloat.div .binary64 (parts (Float.ofInt (z * j))) (parts (Float.ofNat j)) =
        parts (Float.ofInt z) := by
      rw [parts_ofInt habs (Nat.mul_pos hpos hj) hlt, parts_ofNat hj hj', parts_ofInt rfl hpos hn,
        UnpackedFloat.div, div_lifted hpos hj hlt hj', signOf_mul hj, hsign, hk]
      dsimp only
      rw [hmantissa, hexponent]
      exact roundWithAccuracy_exact (normal_lift hpos hn) (signOf z) k
    rw [hdiv, hrounded, parts_ofInt rfl hpos hn]
    exact parts_packed (normal_lift hpos hn) _

end

end Reckon.Number
