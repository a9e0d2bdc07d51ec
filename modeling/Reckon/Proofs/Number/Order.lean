import Reckon.Value.Order

/-!
# `Proofs.Number.Order` — comparing numbers contradicts itself nowhere

A comparison that may find no order is `Consistent` if it turns round with its operands and chains where it
finds an order. It is so whenever it compares ranks by a total order, for everything that has a rank
(`Consistent.of_rank`).

Numbers have a rank unless they are not a number: the group, from minus infinity over the negative numbers and
the zeros up to infinity, and within a group the exponent and then the mantissa, all under the sign. That
numbers are compared by it is `Number.compare_eq_rank`. So nothing has to be assumed of them: not-a-number is
ordered against nothing, and all others are in a total order that has the equal ones in one place.

Main statements: `consistent_compareNumbers`, `compareNumbers_eq_iff`.
-/

namespace Reckon

open Std

/-! ## Comparisons that may find no order -/

/-- A comparison that may find no order between two things, but contradicts itself nowhere. It turns round
with its operands. And where it finds two steps upward or level, one after the other, it finds them to be one
such step, upward as soon as one of the two is. -/
structure Consistent {α : Type} (order? : α → α → Option Ordering) : Prop where
  swap (a b : α) : order? b a = (order? a b).map Ordering.swap
  trans {a b c : α} {p q : Ordering} (hab : order? a b = some p) (hbc : order? b c = some q)
    (hp : p.isLE = true) (hq : q.isLE = true) : order? a c = some (p.then q)

theorem then_of_isLE {β : Type} {cmp : β → β → Ordering} [TransCmp cmp] {a b c : β}
    (hab : (cmp a b).isLE = true) (hbc : (cmp b c).isLE = true) :
    cmp a c = (cmp a b).then (cmp b c) := by
  cases h : cmp a b with
  | lt => exact TransCmp.lt_of_lt_of_isLE h hbc
  | eq => exact TransCmp.congr_left h
  | gt =>
    rw [h] at hab
    cases hab

/-- Ranks in a total order, for some things or for all, make a consistent comparison. -/
theorem Consistent.of_rank {α β : Type} (rank? : α → Option β) (cmp : β → β → Ordering) [TransCmp cmp] :
    Consistent fun a b => (rank? a).bind fun r => (rank? b).map fun s => cmp r s where
  swap a b := by
    cases rank? a with
    | none => cases rank? b <;> rfl
    | some r =>
      cases rank? b with
      | none => rfl
      | some s => exact congrArg some OrientedCmp.eq_swap
  trans {a b c p q} hab hbc hp hq := by
    obtain ⟨r, hr, hab⟩ := Option.bind_eq_some_iff.mp hab
    obtain ⟨s, hs, rfl⟩ := Option.map_eq_some_iff.mp hab
    obtain ⟨s', hs', hbc⟩ := Option.bind_eq_some_iff.mp hbc
    obtain ⟨t, ht, rfl⟩ := Option.map_eq_some_iff.mp hbc
    obtain rfl : s = s' := Option.some.inj (hs.symm.trans hs')
    simp only [hr, ht, Option.bind_some, Option.map_some]
    rw [then_of_isLE hp hq]

/-- A total order is a consistent comparison. -/
theorem Consistent.of_total {α : Type} (cmp : α → α → Ordering) [TransCmp cmp] :
    Consistent fun a b => some (cmp a b) :=
  .of_rank some cmp

namespace Number

open Float.Model UnpackedFloat

/-! ## Ranks of numbers -/

/-- Where a number stands among all numbers. -/
structure Rank where
  group : Int
  exponent : Int
  mantissa : Int

/-- The first of group, exponent and mantissa that is not the same decides. -/
def Rank.compare : Rank → Rank → Ordering :=
  compareLex (compareOn (·.group)) (compareLex (compareOn (·.exponent)) (compareOn (·.mantissa)))

instance : TransCmp Rank.compare :=
  inferInstanceAs (TransCmp (compareLex _ _))

/-- The rank of a number, if it is one. A negative sign turns everything round. -/
def rank? : UnpackedFloat → Option Rank
  | .notANumber => none
  | .zero _ => some ⟨0, 0, 0⟩
  | .finite sign mantissa exponent _ => some ⟨sign.apply 1, sign.apply exponent, sign.apply mantissa⟩
  | .infinity sign => some ⟨sign.apply 2, 0, 0⟩

theorem compare_neg (m n : Int) : compare (-m) (-n) = (compare m n).swap := by
  rw [Int.compare_swap]
  rcases Int.lt_trichotomy m n with h | h | h
  · rw [Int.compare_eq_gt.mpr h, Int.compare_eq_gt.mpr (by omega)]
  · subst h
    simp
  · rw [Int.compare_eq_lt.mpr h, Int.compare_eq_lt.mpr (by omega)]

theorem compare_natCast (m n : Nat) : compare (m : Int) (n : Int) = compare m n := by
  rcases Nat.lt_trichotomy m n with h | h | h
  · rw [Nat.compare_eq_lt.mpr h, Int.compare_eq_lt.mpr (by omega)]
  · subst h
    simp
  · rw [Nat.compare_eq_gt.mpr h, Int.compare_eq_gt.mpr (by omega)]

theorem Rank.compare_of_group (g e e' m m' : Int) :
    Rank.compare ⟨g, e, m⟩ ⟨g, e', m'⟩ = (Ord.compare e e').then (Ord.compare m m') := by
  show (Ord.compare g g).then _ = _
  rw [ReflOrd.compare_self]
  rfl

/-- **Numbers are compared by their ranks.** -/
theorem compare_eq_rank (a b : UnpackedFloat) :
    a.compare b = (rank? a).bind fun r => (rank? b).map fun s => r.compare s := by
  -- only two finite numbers of one sign have to be looked into: elsewhere the groups decide
  cases a with
  | notANumber => rfl
  | zero s => rcases b with ⟨_ | _⟩ | _ | _ | ⟨_ | _, m', e', _⟩ <;> rfl
  | infinity s => rcases s with _ | _ <;> rcases b with ⟨_ | _⟩ | _ | _ | ⟨_ | _, m', e', _⟩ <;> rfl
  | finite s m e _ =>
    rcases s with _ | _
    · rcases b with ⟨_ | _⟩ | _ | _ | ⟨_ | _, m', e', _⟩
      case finite.negative =>
        show some _ = some (Rank.compare ⟨-1, -e, -m⟩ ⟨-1, -e', -m'⟩)
        rw [Rank.compare_of_group, compare_neg, compare_neg, compare_natCast, Ordering.swap_then]
      all_goals rfl
    · rcases b with ⟨_ | _⟩ | _ | _ | ⟨_ | _, m', e', _⟩
      case finite.positive =>
        show some _ = some (Rank.compare ⟨1, e, m⟩ ⟨1, e', m'⟩)
        rw [Rank.compare_of_group, compare_natCast]
      all_goals rfl

/-! ## Order and equality of numbers -/

/-- A number in the parts that its rank is read off. -/
def parts (x : Float) : UnpackedFloat :=
  x.toModel.unpack

theorem consistent_parts : Consistent fun x y : Float => (parts x).compare (parts y) := by
  have hranks := Consistent.of_rank (fun x => rank? (parts x)) Rank.compare
  simp only [← compare_eq_rank] at hranks
  exact hranks

theorem lt_iff (x y : Float) : x < y ↔ (parts x).compare (parts y) = some .lt := by
  show decide (((parts x).compare (parts y) == some .lt) = true) = true ↔ _
  rw [decide_eq_true_iff, beq_iff_eq]

theorem beq_iff (x y : Float) : (x == y) = true ↔ (parts x).compare (parts y) = some .eq := by
  show ((parts x).compare (parts y) == some .eq) = true ↔ _
  rw [beq_iff_eq]

/-- Only not-a-number is ordered against nothing. -/
theorem compare_eq_none_iff (x y : Float) :
    (parts x).compare (parts y) = none ↔ (x.isNaN || y.isNaN) = true := by
  have hrank : ∀ u : UnpackedFloat, rank? u = none ↔ u.isNaN = true := by
    intro u
    cases u with
    | notANumber => exact ⟨fun _ => rfl, fun _ => rfl⟩
    | zero s | finite s m e _ | infinity s =>
      constructor
      · intro h
        cases h
      · intro h
        cases h
  show _ ↔ ((parts x).isNaN || (parts y).isNaN) = true
  rw [Bool.or_eq_true, ← hrank, ← hrank, compare_eq_rank]
  cases rank? (parts x) <;> cases rank? (parts y) <;> simp

end Number

open Number

theorem compareNumbers_eq (x y : Float) : compareNumbers x y = (parts x).compare (parts y) := by
  unfold compareNumbers
  by_cases hnan : (x.isNaN || y.isNaN) = true
  · rw [if_pos hnan, (compare_eq_none_iff x y).mpr hnan]
  · rw [if_neg hnan]
    -- the second test is the first one with the numbers turned round
    have hswap := consistent_parts.swap x y
    simp only [lt_iff, hswap]
    cases h : (parts x).compare (parts y) with
    | none => exact absurd ((compare_eq_none_iff x y).mp h) hnan
    | some order => cases order <;> rfl

/-- **Comparing numbers contradicts itself nowhere.** -/
theorem consistent_compareNumbers : Consistent compareNumbers := by
  have hparts : compareNumbers = fun x y => (parts x).compare (parts y) := by
    funext x y
    exact compareNumbers_eq x y
  rw [hparts]
  exact consistent_parts

/-- Numbers that compare level are the equal ones. -/
theorem compareNumbers_eq_iff (x y : Float) : compareNumbers x y = some .eq ↔ (x == y) = true := by
  rw [compareNumbers_eq, beq_iff]

end Reckon
