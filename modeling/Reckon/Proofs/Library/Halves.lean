import Reckon.Proofs.Number.Remainder
import Reckon.Library.Numeric

/-!
# `Proofs.Library.Halves` — whole numbers nearest to numbers

Of the whole numbers, one or two are nearest to a fraction. Of two, half way below and above, `round` is to take the
one farther from zero (`NearestAway`). It adds one half to the magnitude and cuts what is behind the point. The sum
is rounded itself. What was whole, or a half, or anything between stays on its side of the next whole number, with two
exceptions (`AtEdge`): the number just below one half is carried to one, and an odd number that has no room for a
half goes to the even number above.

Main statement: `round_nearest_iff`.
-/

namespace Reckon.Library

open Number

/-! ## The nearest whole number -/

/-- A whole number as near to a fraction as any, and of two such ones the one farther from zero. -/
structure NearestAway (a : ℚ) (n : ℤ) : Prop where
  near : ∀ k : ℤ, |a - n| ≤ |a - k|
  away : ∀ k : ℤ, |a - k| = |a - n| → |k| ≤ |n|

/-- The whole part of the magnitude and one half, with the sign of the fraction. -/
def halfAway (a : ℚ) : ℤ :=
  if a < 0 then -⌊|a| + 1 / 2⌋ else ⌊|a| + 1 / 2⌋

section

variable {a : ℚ} {n : ℤ}

theorem NearestAway.neg (h : NearestAway a n) : NearestAway (-a) (-n) := by
  have hflip : ∀ k : ℤ, |-a - k| = |a - (-k : ℤ)| := fun k => by
    rw [← abs_neg]
    push_cast
    congr 1
    ring
  refine ⟨fun k => ?_, fun k hk => ?_⟩
  · rw [hflip, hflip, neg_neg]
    exact h.near (-k)
  · rw [hflip, hflip, neg_neg] at hk
    rw [abs_neg, ← abs_neg k]
    exact h.away (-k) hk

/-- Within one half of a fraction that is not negative, and half way above it. -/
theorem nearestAway_of_bounds (ha : 0 ≤ a) (hn : 0 ≤ n) (hlow : (n : ℚ) - 1 / 2 ≤ a) (hhigh : a < n + 1 / 2) :
    NearestAway a n := by
  have habs : |a - n| ≤ 1 / 2 := abs_le.mpr ⟨by linarith, by linarith⟩
  have hbelow : ∀ k : ℤ, k + 1 ≤ n → |a - n| ≤ |a - k| := by
    intro k hk
    have hk' : (k : ℚ) + 1 ≤ n := by exact_mod_cast hk
    exact habs.trans ((by linarith : (1 : ℚ) / 2 ≤ a - k).trans (le_abs_self _))
  have habove : ∀ k : ℤ, n + 1 ≤ k → |a - n| < |a - k| := by
    intro k hk
    have hk' : (n : ℚ) + 1 ≤ k := by exact_mod_cast hk
    exact habs.trans_lt ((by linarith : (1 : ℚ) / 2 < -(a - k)).trans_le (neg_le_abs _))
  refine ⟨fun k => ?_, fun k hk => ?_⟩
  · rcases lt_trichotomy k n with hless | rfl | hmore
    · exact hbelow k hless
    · exact le_rfl
    · exact (habove k hmore).le
  · have hle : k ≤ n := not_lt.mp fun hmore => (habove k hmore).ne' hk
    rw [abs_of_nonneg hn, abs_le]
    refine ⟨?_, hle⟩
    by_contra hless
    -- farther below zero than `n` is above it
    have hnonneg : (0 : ℚ) ≤ n := by exact_mod_cast hn
    have hless' : (k : ℚ) + 1 ≤ -n := by exact_mod_cast not_le.mp hless
    have hfar := le_abs_self (a - k)
    rw [hk] at hfar
    linarith

/-- **There is such a whole number.** -/
theorem nearestAway_halfAway (a : ℚ) : NearestAway a (halfAway a) := by
  have hmagnitude : NearestAway |a| ⌊|a| + 1 / 2⌋ := by
    have hnonneg := abs_nonneg a
    have hlow := Int.floor_le (|a| + 1 / 2)
    have hhigh := Int.lt_floor_add_one (|a| + 1 / 2)
    exact nearestAway_of_bounds hnonneg (Int.floor_nonneg.mpr (by linarith)) (by linarith) (by linarith)
  unfold halfAway
  by_cases hneg : a < 0
  · rw [if_pos hneg]
    simpa [abs_of_neg hneg] using hmagnitude.neg
  · rw [if_neg hneg]
    simpa [abs_of_nonneg (not_lt.mp hneg)] using hmagnitude

/-- **There is no other.** -/
theorem NearestAway.unique {k : ℤ} (hn : NearestAway a n) (hk : NearestAway a k) : n = k := by
  have hsame : |a - n| = |a - k| := le_antisymm (hn.near k) (hk.near n)
  have hmagnitude : |n| = |k| := le_antisymm (hk.away n hsame) (hn.away k hsame.symm)
  rcases abs_eq_abs.mp hmagnitude with heq | hopposite
  · exact heq
  · -- zero is nearer than two opposite ones
    obtain rfl : k = -n := by omega
    have hzero := hn.near 0
    push_cast at hsame hzero
    rw [sub_zero] at hzero
    rw [abs_eq_abs] at hsame
    rcases hsame with heq | hbalance
    · have hcast : ((n : ℤ) : ℚ) = ((-n : ℤ) : ℚ) := by
        push_cast
        linarith
      exact_mod_cast hcast
    · have ha : a = 0 := by linarith
      rw [ha, abs_zero, zero_sub, abs_neg] at hzero
      have hnil : (n : ℚ) = 0 := abs_eq_zero.mp (le_antisymm hzero (abs_nonneg _))
      have hnil' : n = 0 := by exact_mod_cast hnil
      rw [hnil', neg_zero]

theorem nearestAway_iff : NearestAway a n ↔ n = halfAway a :=
  ⟨fun h => h.unique (nearestAway_halfAway a), fun h => h ▸ nearestAway_halfAway a⟩

/-- The nearest whole number is within one half. -/
theorem NearestAway.abs_sub_le (h : NearestAway a n) : |(n : ℚ) - a| ≤ 1 / 2 := by
  rw [abs_sub_comm]
  exact (h.near (round a)).trans (abs_sub_round a)

theorem floor_add_half (n : ℤ) : ⌊(n : ℚ) + 1 / 2⌋ = n := by
  rw [Int.floor_intCast_add]
  norm_num

theorem halfAway_intCast (n : ℤ) : halfAway n = n := by
  refine (nearestAway_iff.mp ⟨fun k => ?_, fun k hk => ?_⟩).symm
  · rw [sub_self, abs_zero]
    exact abs_nonneg _
  · rw [sub_self, abs_zero, abs_eq_zero, sub_eq_zero] at hk
    obtain rfl : n = k := by exact_mod_cast hk
    exact le_rfl

end

/-! ## One half added -/

/-- The numbers that are carried too far: the last one below one half, and the odd ones that have no place behind
the point. -/
def AtEdge (a : ℚ) : Prop :=
  |a| = 1 / 2 - 1 / 2 ^ 54 ∨ 2 ^ 52 ≤ |a| ∧ |a| < 2 ^ 53 ∧ ⌊|a|⌋ % 2 = 1

instance (a : ℚ) : Decidable (AtEdge a) :=
  inferInstanceAs (Decidable (_ ∨ _))

/-- The magnitude of the rounded number. -/
def carried (a : ℚ) : ℤ :=
  ⌊|a| + 1 / 2⌋ + if AtEdge a then 1 else 0

theorem atEdge_neg {a : ℚ} : AtEdge (-a) ↔ AtEdge a := by
  unfold AtEdge
  rw [abs_neg]

theorem carried_neg (a : ℚ) : carried (-a) = carried a := by
  simp only [carried, abs_neg, atEdge_neg]

theorem carried_zero : carried 0 = 0 := by
  norm_num [carried, AtEdge]

theorem carried_nonneg (a : ℚ) : 0 ≤ carried a := by
  have hfloor : 0 ≤ ⌊|a| + 1 / 2⌋ := Int.floor_nonneg.mpr (by positivity)
  unfold carried
  split <;> omega

/-- The rounded number. -/
def rounded (a : ℚ) : ℤ :=
  if a < 0 then -carried a else carried a

/-- What is added to the nearest whole number. -/
theorem rounded_eq (a : ℚ) : rounded a = halfAway a + if AtEdge a then (SignType.sign a : ℤ) else 0 := by
  unfold rounded halfAway
  rcases lt_trichotomy a 0 with hneg | rfl | hpos
  · rw [if_pos hneg, if_pos hneg, sign_neg hneg, carried, neg_add]
    split <;> rfl
  · norm_num [carried, AtEdge]
  · rw [if_neg hpos.not_gt, if_neg hpos.not_gt, sign_pos hpos, carried]
    rfl

theorem rounded_of_inner {a : ℚ} (h : ¬ AtEdge a) : rounded a = halfAway a := by
  rw [rounded_eq, if_neg h, add_zero]

/-- The rounded number is within one half of a number that is not at the edges, and of no other. -/
theorem abs_rounded_sub_le_iff (a : ℚ) : |(rounded a : ℚ) - a| ≤ 1 / 2 ↔ ¬ AtEdge a := by
  have hmagnitude : |(rounded a : ℚ) - a| = abs ((carried a : ℚ) - |a|) := by
    unfold rounded
    by_cases hneg : a < 0
    · rw [if_pos hneg, abs_of_neg hneg, ← abs_neg, Int.cast_neg]
      congr 1
      ring
    · rw [if_neg hneg, abs_of_nonneg (not_lt.mp hneg)]
  have hlow := Int.floor_le (|a| + 1 / 2)
  have hhigh := Int.lt_floor_add_one (|a| + 1 / 2)
  rw [hmagnitude, carried]
  by_cases hedge : AtEdge a
  · rw [if_pos hedge, abs_le]
    refine iff_of_false (fun h => ?_) (not_not_intro hedge)
    have hup := h.2
    push_cast at hup
    linarith
  · rw [if_neg hedge, add_zero, abs_le]
    exact iff_of_true ⟨by linarith, by linarith⟩ hedge

section

variable {m r : Nat} {e : Int}

/-- The half is less than half a unit of the last place. -/
theorem whole_sum_wide (h : Shaped m e) (hwide : 2 ^ 53 ≤ m * (2 : ℚ) ^ e) (hr : Rounds (m * 2 ^ e + 1 / 2) r) :
    ⌊(r : ℚ) * 2 ^ place (m * 2 ^ e + 1 / 2)⌋ = ⌊m * (2 : ℚ) ^ e + 1 / 2⌋ := by
  have he : 1 ≤ e := by
    by_contra hsmall
    have hunit : (2 : ℚ) ^ e ≤ 1 := zpow_le_one_of_nonpos₀ one_le_two (by omega)
    have hhigh : (m : ℚ) < 2 ^ 53 := by exact_mod_cast h.high
    have hproduct : (m : ℚ) * 2 ^ e ≤ m := mul_le_of_le_one_right (Nat.cast_nonneg m) hunit
    linarith
  have hunit := two_le_zpow (e := e) (by omega)
  have hpos : (0 : ℚ) < m * 2 ^ e + 1 / 2 := by positivity
  have hfull : (2 : ℚ) ^ 52 ≤ m := by exact_mod_cast h.full.resolve_right (by omega)
  have hhigh : (m : ℚ) + 1 ≤ 2 ^ 53 := by exact_mod_cast h.high
  have hplace : place (m * 2 ^ e + 1 / 2) = e := by
    refine le_antisymm (place_lt hpos ?_ (by omega)) (le_place hpos ?_)
    · calc (m : ℚ) * 2 ^ e + 1 / 2 < (m + 1) * 2 ^ e := by linarith
        _ ≤ 2 ^ 53 * 2 ^ e := mul_le_mul_of_nonneg_right hhigh (zpow_pos_two e).le
        _ = 2 ^ (e + 53) := by
          rw [zpow_add₀ two_ne_zero, mul_comm]
          rfl
    · calc (2 : ℚ) ^ (e + 52) = 2 ^ 52 * 2 ^ e := by
            rw [zpow_add₀ two_ne_zero, mul_comm]
            rfl
        _ ≤ m * 2 ^ e := mul_le_mul_of_nonneg_right hfull (zpow_pos_two e).le
        _ ≤ m * 2 ^ e + 1 / 2 := by linarith
  have hsame : r = m := by
    have hle : m ≤ r := hr.le_of_ge (by rw [hplace]; linarith)
    have hnear := (abs_le.mp hr.near).2
    rw [hplace] at hnear
    have hbound : (r : ℚ) * 2 ^ e < (m + 1) * 2 ^ e := by linarith
    have hlt : (r : ℚ) < m + 1 := lt_of_mul_lt_mul_right hbound (zpow_pos_two e).le
    have hnat : r < m + 1 := by exact_mod_cast hlt
    omega
  obtain ⟨k, rfl⟩ := Int.eq_ofNat_of_zero_le (show 0 ≤ e by omega)
  have hwhole : (m : ℚ) * 2 ^ (k : ℤ) = ((m * 2 ^ k : Nat) : ℤ) := by
    push_cast
    rw [zpow_natCast]
  rw [hplace, hsame, hwhole, Int.floor_intCast, Int.floor_intCast_add]
  norm_num

/-- The half is half a unit of the last place, so the sum is the even one of the neighbours. -/
theorem whole_sum_even (hlow : 2 ^ 52 ≤ m) (hhigh : m < 2 ^ 53) (hr : Rounds (m * (2 : ℚ) ^ (0 : ℤ) + 1 / 2) r) :
    ⌊(r : ℚ) * 2 ^ place (m * (2 : ℚ) ^ (0 : ℤ) + 1 / 2)⌋ = m + m % 2 := by
  have hlow' : (2 : ℚ) ^ 52 ≤ m := by exact_mod_cast hlow
  have hhigh' : (m : ℚ) + 1 ≤ 2 ^ 53 := by exact_mod_cast hhigh
  rw [zpow_zero, mul_one] at hr ⊢
  have hpos : (0 : ℚ) < m + 1 / 2 := by positivity
  have hplace : place ((m : ℚ) + 1 / 2) = 0 := by
    refine le_antisymm (place_lt hpos ?_ (by decide)) (le_place hpos ?_)
    · calc (m : ℚ) + 1 / 2 < 2 ^ 53 := by linarith
        _ = 2 ^ (0 + 53 : ℤ) := rfl
    · calc (2 : ℚ) ^ (0 + 52 : ℤ) = 2 ^ 52 := rfl
        _ ≤ m + 1 / 2 := by linarith
  obtain ⟨hdown, hup⟩ := abs_le.mp hr.near
  have htie := hr.even
  rw [hplace, zpow_zero, mul_one] at hdown hup htie
  have hle : m ≤ r := by exact_mod_cast (by linarith : (m : ℚ) ≤ r)
  have hge : r ≤ m + 1 := by exact_mod_cast (by linarith : (r : ℚ) ≤ m + 1)
  have heven : r % 2 = 0 := by
    rcases Nat.lt_or_eq_of_le hge with hless | rfl
    · obtain rfl : r = m := by omega
      exact htie (by norm_num [abs_of_neg])
    · refine htie ?_
      push_cast
      rw [abs_of_pos] <;> linarith
  rw [hplace, zpow_zero, mul_one, Int.floor_natCast]
  omega

/-- Below one half only the last number is near to one when the half is added. -/
theorem edge_of_small (h : Shaped m e) (hm : 0 < m) (hsmall : m * (2 : ℚ) ^ e < 1 / 2)
    (hreach : 1 / 2 - 1 / 2 ^ 54 ≤ m * (2 : ℚ) ^ e) : m * (2 : ℚ) ^ e = 1 / 2 - 1 / 2 ^ 54 := by
  have hpos : 0 < m * (2 : ℚ) ^ e := by positivity
  have he : e = -54 := by
    rw [← place_of_shaped h hm]
    refine le_antisymm (place_lt hpos (hsmall.trans_eq ?_) (by decide)) (le_place hpos (le_trans ?_ hreach)) <;> norm_num
  have hunit : (2 : ℚ) ^ (-54 : ℤ) = 1 / 2 ^ 54 := by norm_num
  have hhigh := h.high
  rw [he, hunit] at hreach ⊢
  have hfull : (2 : ℚ) ^ 53 ≤ m + 1 := by linarith
  obtain rfl : m = 2 ^ 53 - 1 := by
    have hnat : 2 ^ 53 ≤ m + 1 := by exact_mod_cast hfull
    omega
  norm_num

/-- A sum that fits the last place of the number is a multiple of it, and so is the next whole number. -/
theorem far_of_room {n : Nat} (hleast : -1074 ≤ e) (he : e < 0) (hroom : m * (2 : ℚ) ^ e + 1 / 2 < 2 ^ (e + 53))
    (hhigh : m * (2 : ℚ) ^ e + 1 / 2 < n + 1) :
    m * (2 : ℚ) ^ e + 1 / 2 + 2 ^ place (m * 2 ^ e + 1 / 2) / 2 < n + 1 := by
  have hunit := zpow_pos_two e
  have hpos : (0 : ℚ) < m * 2 ^ e + 1 / 2 := by positivity
  have hplace : (2 : ℚ) ^ place (m * 2 ^ e + 1 / 2) ≤ 2 ^ e :=
    zpow_le_zpow_right₀ one_le_two (place_lt hpos hroom hleast)
  generalize (2 : ℚ) ^ place (m * 2 ^ e + 1 / 2) = last at hplace ⊢
  obtain ⟨k, hk⟩ := Int.eq_ofNat_of_zero_le (show 0 ≤ -1 - e by omega)
  have hhalf : (1 : ℚ) / 2 = (2 ^ k : Nat) * 2 ^ e := by
    push_cast
    rw [← zpow_natCast, ← zpow_add₀ two_ne_zero, ← hk, sub_add_cancel, zpow_neg_one, one_div]
  have hnext := natCast_eq_multiple he.le (n + 1)
  push_cast at hnext hhalf
  have hless : m + 2 ^ k < (n + 1) * 2 ^ (-e).toNat := by
    rw [hnext, hhalf, ← add_mul] at hhigh
    exact_mod_cast lt_of_mul_lt_mul_right hhigh hunit.le
  have hstep : ((m : ℚ) + 2 ^ k + 1) ≤ (n + 1) * 2 ^ (-e).toNat := by exact_mod_cast hless
  have hbound := mul_le_mul_of_nonneg_right hstep hunit.le
  rw [hhalf, hnext]
  linarith

/-- A sum that is carried into one more bit has just passed a whole number, and the next one is far. -/
theorem far_of_carry {n : Nat} (hleast : -1074 ≤ e) (he : e < 0) (hlarge : 1 / 2 ≤ m * (2 : ℚ) ^ e)
    (hlt : m * (2 : ℚ) ^ e < 2 ^ (e + 53)) (hcarry : 2 ^ (e + 53) ≤ m * (2 : ℚ) ^ e + 1 / 2)
    (hhigh : m * (2 : ℚ) ^ e + 1 / 2 < n + 1) :
    m * (2 : ℚ) ^ e + 1 / 2 + 2 ^ place (m * 2 ^ e + 1 / 2) / 2 < n + 1 := by
  have hpos : (0 : ℚ) < m * 2 ^ e + 1 / 2 := by positivity
  have hplace : (2 : ℚ) ^ place (m * 2 ^ e + 1 / 2) ≤ 2 ^ (e + 1) := by
    refine zpow_le_zpow_right₀ one_le_two (place_lt hpos ?_ (by omega))
    calc (m : ℚ) * 2 ^ e + 1 / 2 < 2 ^ (e + 53) + 2 ^ (e + 53) := by linarith
      _ = 2 ^ (e + 1 + 53) := by
        rw [add_right_comm, zpow_add_one₀ two_ne_zero]
        ring
  have htwice : (2 : ℚ) ^ (e + 1) = 2 * 2 ^ e := by
    rw [zpow_add_one₀ two_ne_zero, mul_comm]
  have hhalf := zpow_le_one_half he
  have hwide : -1 < e + 53 := by
    refine (zpow_lt_zpow_iff_right₀ (one_lt_two (α := ℚ))).mp (lt_of_le_of_lt ?_ hlt)
    norm_num
    linarith
  obtain ⟨k, hk⟩ := Int.eq_ofNat_of_zero_le (show 0 ≤ e + 53 by omega)
  rw [hk, zpow_natCast] at hlt hcarry
  have hnext : 2 ^ k ≤ n := by
    have hless : ((2 ^ k : Nat) : ℚ) < (n + 1 : Nat) := by
      push_cast
      linarith
    have hnat : 2 ^ k < n + 1 := by exact_mod_cast hless
    omega
  have hnext' : (2 : ℚ) ^ k ≤ n := by exact_mod_cast hnext
  linarith

/-- A number from one half on that has places behind the point has one for the half, or is not near to a whole
number with it. -/
theorem far_of_large {n : Nat} (h : Shaped m e) (he : e < 0) (hlarge : 1 / 2 ≤ m * (2 : ℚ) ^ e)
    (hhigh : m * (2 : ℚ) ^ e + 1 / 2 < n + 1) :
    m * (2 : ℚ) ^ e + 1 / 2 + 2 ^ place (m * 2 ^ e + 1 / 2) / 2 < n + 1 := by
  have hlt : (m : ℚ) * 2 ^ e < 2 ^ (e + 53) := by
    rw [zpow_add₀ two_ne_zero, mul_comm]
    exact mul_lt_mul_of_pos_left (by exact_mod_cast h.high) (zpow_pos_two e)
  rcases lt_or_ge (m * (2 : ℚ) ^ e + 1 / 2) (2 ^ (e + 53)) with hroom | hcarry
  · exact far_of_room h.least he hroom hhigh
  · exact far_of_carry h.least he hlarge hlt hcarry hhigh

/-- The sum is near to the next whole number for the last number below one half only. -/
theorem whole_sum_short (h : Shaped m e) (hm : 0 < m) (he : e < 0) (hlt : m * (2 : ℚ) ^ e < 2 ^ 52)
    (hr : Rounds (m * 2 ^ e + 1 / 2) r) :
    ⌊(r : ℚ) * 2 ^ place (m * 2 ^ e + 1 / 2)⌋ =
      ⌊m * (2 : ℚ) ^ e + 1 / 2⌋ + if m * (2 : ℚ) ^ e = 1 / 2 - 1 / 2 ^ 54 then 1 else 0 := by
  have hvalue : 0 < m * (2 : ℚ) ^ e := by positivity
  have hpos : 0 < m * (2 : ℚ) ^ e + 1 / 2 := by positivity
  have hplace := place_le_zero hpos.le (by linarith)
  obtain ⟨n, hn⟩ := Int.eq_ofNat_of_zero_le (Int.floor_nonneg.mpr hpos.le)
  obtain ⟨hlow, hhigh⟩ := Int.floor_eq_iff.mp hn
  rw [Int.cast_natCast] at hlow hhigh
  rw [hn]
  rcases le_or_gt (1 / 2) (m * (2 : ℚ) ^ e) with hlarge | hsmall
  · rw [hr.floor_eq hplace hlow (far_of_large h he hlarge hhigh), if_neg fun hedge => by linarith, add_zero]
  · obtain rfl : n = 0 := by
      have hless : (n : ℚ) < 1 := by linarith
      have hnat : n < 1 := by exact_mod_cast hless
      omega
    have hunit : place (m * 2 ^ e + 1 / 2) = -53 := by
      refine le_antisymm (place_lt hpos ?_ (by decide)) (le_place hpos ?_) <;> norm_num <;> linarith
    have hhalf : (2 : ℚ) ^ place (m * 2 ^ e + 1 / 2) / 2 = 1 / 2 ^ 54 := by
      rw [hunit]
      norm_num
    by_cases hedge : m * (2 : ℚ) ^ e = 1 / 2 - 1 / 2 ^ 54
    · have hreach : ((0 : Nat) : ℚ) + 1 ≤ m * 2 ^ e + 1 / 2 + 2 ^ place (m * 2 ^ e + 1 / 2) / 2 := by
        rw [hhalf, hedge]
        norm_num
      have heven : (0 + 1) * 2 ^ (-place (m * 2 ^ e + 1 / 2)).toNat % 2 = 0 := by
        rw [hunit]
        decide
      rw [hr.eq_next hplace hlow hhigh hreach fun _ => heven, if_pos hedge]
      norm_num
    · have hfar : m * (2 : ℚ) ^ e + 1 / 2 + 2 ^ place (m * 2 ^ e + 1 / 2) / 2 < ((0 : Nat) : ℚ) + 1 := by
        refine not_le.mp fun hreach => hedge (edge_of_small h hm hsmall ?_)
        rw [hhalf, Nat.cast_zero] at hreach
        linarith
      rw [hr.floor_eq hplace hlow hfar, if_neg hedge, add_zero]

/-- **The whole part of a number and one half, when the sum is rounded.** -/
theorem whole_sum (h : Shaped m e) (hm : 0 < m) (hr : Rounds (m * 2 ^ e + 1 / 2) r) :
    ⌊(r : ℚ) * 2 ^ place (m * 2 ^ e + 1 / 2)⌋ = carried (m * 2 ^ e) := by
  have hunit := zpow_pos_two e
  have hvalue : 0 < m * (2 : ℚ) ^ e := by positivity
  have hbelow : m * (2 : ℚ) ^ e < 2 ^ 53 * 2 ^ e := mul_lt_mul_of_pos_right (by exact_mod_cast h.high) hunit
  have hfull : e ≠ -1074 → (2 : ℚ) ^ 52 * 2 ^ e ≤ m * 2 ^ e := fun hne =>
    mul_le_mul_of_nonneg_right (by exact_mod_cast h.full.resolve_right hne) hunit.le
  unfold carried AtEdge
  simp only [abs_of_pos hvalue]
  rcases lt_trichotomy e 0 with he | rfl | he
  · have hpower := zpow_le_one_half he
    have hlt : m * (2 : ℚ) ^ e < 2 ^ 52 := by linarith
    rw [whole_sum_short h hm he hlt hr]
    congr 1
    refine if_congr (or_iff_left fun hedge => ?_).symm rfl rfl
    exact absurd hedge.1 (not_le.mpr hlt)
  · have hlow : 2 ^ 52 ≤ m := h.full.resolve_right (by decide)
    have hlow' : (2 : ℚ) ^ 52 ≤ m := by exact_mod_cast hlow
    have hhigh' : (m : ℚ) < 2 ^ 53 := by exact_mod_cast h.high
    rw [whole_sum_even hlow h.high hr, zpow_zero, mul_one, Int.floor_natCast_add, Int.floor_natCast]
    have hedge : ((m : ℚ) = 1 / 2 - 1 / 2 ^ 54 ∨ 2 ^ 52 ≤ (m : ℚ) ∧ (m : ℚ) < 2 ^ 53 ∧ (m : ℤ) % 2 = 1) ↔
        (m : ℤ) % 2 = 1 := by
      refine ⟨fun h => ?_, fun hodd => .inr ⟨hlow', hhigh', hodd⟩⟩
      rcases h with hsmall | ⟨-, -, hodd⟩
      · norm_num at hsmall
        linarith
      · exact hodd
    rw [if_congr hedge rfl rfl]
    have hhalf : ⌊(1 : ℚ) / 2⌋ = 0 := by norm_num
    rw [hhalf]
    split <;> omega
  · have hpower := two_le_zpow he
    have hwide : 2 ^ 53 ≤ m * (2 : ℚ) ^ e := by linarith [hfull (by omega)]
    rw [whole_sum_wide h hwide hr, if_neg, add_zero]
    rintro (hedge | ⟨-, hedge, -⟩) <;> linarith

end

/-! ## Rounding -/

section

variable {x y : Float} {a : ℚ}

/-- The sum has this whole part for zero too. -/
theorem wholePart?_abs_add_half (hx : rational? x = some a) : wholePart? (x.abs + 0.5) = some (carried a) ∧
    IsExact (carried a) := by
  have habs := rational?_abs hx
  have hhalf : rational? 0.5 = some (1 / 2) := by decide +kernel
  suffices hsum : ∃ q, rational? (x.abs + 0.5) = some q ∧ cut q = carried a by
    obtain ⟨q, hq, hcut⟩ := hsum
    rw [← hcut]
    exact ⟨wholePart?_of_rational hq, isExact_cut hq⟩
  rcases eq_or_ne a 0 with rfl | ha
  · rw [abs_zero] at habs
    refine ⟨_, rational?_zero_add habs hhalf one_half_pos.ne', ?_⟩
    rw [carried_zero]
    norm_num [cut]
  · obtain ⟨negative, m, e, -, hshaped, rfl⟩ := exists_of_rational hx
    have hm := pos_of_ne_zero ha
    have hvalue : 0 < m * (2 : ℚ) ^ e := by positivity
    have hmagnitude : carried (withSign negative (m * 2 ^ e)) = carried (m * 2 ^ e) := by
      cases negative
      · rfl
      · exact carried_neg _
    rw [abs_withSign _ hvalue.le] at habs
    have hceiling : m * (2 : ℚ) ^ e + 1 / 2 < ceiling := by
      have hle := hshaped.le
      have hwide : (1 : ℚ) < 2 ^ (971 : ℤ) := one_lt_zpow₀ one_lt_two (by decide)
      unfold ceiling
      generalize (2 : ℚ) ^ (971 : ℤ) = unit at hle hwide ⊢
      linarith
    obtain ⟨r, hrounds, hsum⟩ := exists_sum habs hhalf hvalue one_half_pos hceiling
    refine ⟨_, hsum, ?_⟩
    rw [cut_of_nonneg (by positivity), whole_sum hshaped hm hrounds, hmagnitude]

/-- **The rounded number is the carried magnitude with the sign of the number.** -/
theorem roundHalfAway_of_rational (hx : rational? x = some a) : roundHalfAway x =
    if isNegative x then -Float.ofInt (carried a) else Float.ofInt (carried a) := by
  unfold roundHalfAway
  rw [(wholePart?_abs_add_half hx).1, isFinite_of_rational hx]
  rfl

/-- The rounded number stands for the whole number nearest to it, and at the edges for the one after that. -/
theorem rational?_roundHalfAway (hx : rational? x = some a) : rational? (roundHalfAway x) = some ((rounded a : ℤ) : ℚ) := by
  have hnumber := rational?_ofInt (wholePart?_abs_add_half hx).2
  rw [roundHalfAway_of_rational hx]
  unfold rounded
  rcases eq_or_ne a 0 with rfl | ha
  · rw [carried_zero] at hnumber ⊢
    split
    · exact rational?_neg hnumber
    · exact hnumber
  · rw [isNegative_of_rational hx ha]
    by_cases hneg : a < 0
    · rw [decide_eq_true hneg, if_pos rfl, if_pos hneg, rational?_neg hnumber, Int.cast_neg]
    · rw [decide_eq_false hneg, if_neg Bool.false_ne_true, if_neg hneg, hnumber]

theorem round_neg (hx : rational? x = some a) : roundHalfAway (-x) = -roundHalfAway x := by
  rw [roundHalfAway_of_rational (rational?_neg hx), roundHalfAway_of_rational hx, carried_neg, isNegative_neg hx]
  cases isNegative x with
  | false => rfl
  | true => exact (neg_neg_of_rational (rational?_ofInt (wholePart?_abs_add_half hx).2)).symm

/-- From the edges on, numbers are whole. -/
theorem abs_eq_intCast (hx : rational? x = some a) (hwide : 2 ^ 52 ≤ |a|) : ∃ n : ℤ, |a| = n := by
  obtain ⟨negative, m, e, -, hshaped, rfl⟩ := exists_of_rational hx
  have hunit := zpow_pos_two e
  rw [abs_withSign _ (by positivity)] at hwide ⊢
  have he : 0 ≤ e := by
    by_contra hsmall
    have hhigh : (m : ℚ) < 2 ^ 53 := by exact_mod_cast hshaped.high
    have hhalf := zpow_le_one_half (not_le.mp hsmall)
    have hless : m * (2 : ℚ) ^ e < 2 ^ 53 * 2 ^ e := mul_lt_mul_of_pos_right hhigh hunit
    linarith
  obtain ⟨k, rfl⟩ := Int.eq_ofNat_of_zero_le he
  refine ⟨(m * 2 ^ k : Nat), ?_⟩
  push_cast
  rw [zpow_natCast]

/-- A carried magnitude is not at the edges: from there it is carried to an even one, and others do not get there. -/
theorem not_atEdge_carried (hx : rational? x = some a) : ¬ AtEdge (carried a) := by
  have hnonneg : (0 : ℚ) ≤ carried a := by exact_mod_cast carried_nonneg a
  unfold AtEdge
  rw [abs_of_nonneg hnonneg, Int.floor_intCast]
  rintro (hsmall | ⟨hlow, hhigh, hodd⟩)
  · have hpositive : (0 : ℚ) < carried a := by
      rw [hsmall]
      norm_num
    have hone : (1 : ℚ) ≤ carried a := by exact_mod_cast hpositive
    norm_num at hsmall
    linarith
  · have hlow' : 2 ^ 52 ≤ carried a := by exact_mod_cast hlow
    by_cases hedge : AtEdge a
    · rw [carried, if_pos hedge] at hlow' hodd
      rcases hedge with hsmall | ⟨hwide, -, hodd'⟩
      · rw [hsmall] at hlow'
        norm_num at hlow'
      · obtain ⟨z, hz⟩ := abs_eq_intCast hx hwide
        rw [hz, floor_add_half] at hodd
        rw [hz, Int.floor_intCast] at hodd'
        omega
    · rw [carried, if_neg hedge, add_zero] at hlow' hlow hhigh hodd
      have hwide : 2 ^ 52 ≤ |a| := by
        have hmore : 2 ^ 52 + 1 ≤ ⌊|a| + 1 / 2⌋ := by omega
        have hmore' : ((2 ^ 52 + 1 : ℤ) : ℚ) ≤ |a| + 1 / 2 := Int.le_floor.mp hmore
        push_cast at hmore'
        linarith
      obtain ⟨z, hz⟩ := abs_eq_intCast hx hwide
      rw [hz, floor_add_half] at hlow hhigh hodd
      exact hedge (.inr (by rw [hz, Int.floor_intCast]; exact ⟨hlow, hhigh, hodd⟩))

/-- So it is not carried once more. -/
theorem carried_carried (hx : rational? x = some a) : carried (carried a) = carried a := by
  have hnonneg : (0 : ℚ) ≤ carried a := by exact_mod_cast carried_nonneg a
  rw [carried, if_neg (not_atEdge_carried hx), add_zero, abs_of_nonneg hnonneg, floor_add_half]

theorem round_round (hx : rational? x = some a) : roundHalfAway (roundHalfAway x) = roundHalfAway x := by
  have hexact := (wholePart?_abs_add_half hx).2
  have hnumber := rational?_ofInt hexact
  have hsign := isNegative_ofInt (carried_nonneg a) hexact
  rw [roundHalfAway_of_rational hx]
  cases isNegative x with
  | false =>
    rw [if_neg Bool.false_ne_true, roundHalfAway_of_rational hnumber, hsign, carried_carried hx]
    rfl
  | true =>
    rw [if_pos rfl, round_neg hnumber, roundHalfAway_of_rational hnumber, hsign, carried_carried hx]
    rfl

/-- **`round` gives the nearest whole number, and the one farther from zero of two, except at the edges.** There it
gives the one after that. It leaves the sign to its operand, and what is rounded stays. -/
theorem round_nearest_iff (hx : rational? x = some a) : ∃ (r : Float) (n : ℤ),
    numeric roundHalfAway [.number x] = .ok (.number r) ∧ rational? r = some (n : ℚ) ∧
      (NearestAway a n ↔ ¬ AtEdge a) ∧ (|(n : ℚ) - a| ≤ 1 / 2 ↔ ¬ AtEdge a) ∧
      (AtEdge a → n = halfAway a + SignType.sign a) ∧ (∀ z : ℤ, a = z → (n = z ↔ ¬ AtEdge a)) ∧
      numeric roundHalfAway [.number (-x)] = .ok (.number (-r)) ∧
      numeric roundHalfAway [.number r] = .ok (.number r) := by
  have hnear : NearestAway a (rounded a) ↔ ¬ AtEdge a :=
    ⟨fun h => (abs_rounded_sub_le_iff a).mp (h.abs_sub_le), fun hinner => rounded_of_inner hinner ▸ nearestAway_halfAway a⟩
  refine ⟨_, _, rfl, rational?_roundHalfAway hx, hnear, abs_rounded_sub_le_iff a, fun hedge => ?_, fun z hz => ?_, ?_, ?_⟩
  · rw [rounded_eq, if_pos hedge]
  · subst hz
    refine ⟨fun h => (abs_rounded_sub_le_iff _).mp ?_, fun hinner => ?_⟩
    · rw [h, sub_self, abs_zero]
      exact one_half_pos.le
    · rw [rounded_of_inner hinner, halfAway_intCast]
  · exact congrArg (Except.ok ∘ Value.number) (round_neg hx)
  · exact congrArg (Except.ok ∘ Value.number) (round_round hx)

end

/-- Minus two and a half is half way, and goes to minus three. -/
theorem round_minus_two_and_a_half : rational? (-2.5) = some (-5 / 2) ∧ ∃ (r : Float) (n : ℤ),
    numeric roundHalfAway [.number (-2.5)] = .ok (.number r) ∧ rational? r = some (n : ℚ) ∧
      (NearestAway (-5 / 2) n ↔ ¬ AtEdge (-5 / 2)) ∧ (|(n : ℚ) - -5 / 2| ≤ 1 / 2 ↔ ¬ AtEdge (-5 / 2)) ∧
      (AtEdge (-5 / 2) → n = halfAway (-5 / 2) + SignType.sign (-5 / 2 : ℚ)) ∧
      (∀ z : ℤ, (-5 / 2 : ℚ) = z → (n = z ↔ ¬ AtEdge (-5 / 2))) ∧
      numeric roundHalfAway [.number (- -2.5)] = .ok (.number (-r)) ∧
      numeric roundHalfAway [.number r] = .ok (.number r) := by
  have hx : rational? (-2.5) = some (-5 / 2) := by decide +kernel
  exact ⟨hx, round_nearest_iff hx⟩

/-- The number just below one half is rounded to one, which is more than one half away; zero is nearer. -/
theorem rounded_past_the_half : ∃ (a : ℚ) (r : Float), rational? 0.49999999999999994 = some a ∧
    numeric roundHalfAway [.number 0.49999999999999994] = .ok (.number r) ∧ rational? r = some 1 ∧ 1 / 2 < |1 - a| ∧
    ¬ NearestAway a 1 ∧ NearestAway a 0 := by
  have hvalues : rational? 0.49999999999999994 = some (9007199254740991 / 18014398509481984) ∧
      rational? (roundHalfAway 0.49999999999999994) = some 1 := by
    decide +kernel
  obtain ⟨hx, hr⟩ := hvalues
  have hzero : halfAway (9007199254740991 / 18014398509481984) = 0 := by norm_num [halfAway, abs_of_pos]
  refine ⟨_, _, hx, rfl, hr, by norm_num [abs_of_pos], ?_, ?_⟩ <;> rw [nearestAway_iff, hzero]
  exact one_ne_zero

end Reckon.Library
