import Reckon.Proofs.Number.Order

/-!
# `Proofs.Value.Order` — the order of values

Equality and order of values are two recursions over nested lists, and the order may be missing at any depth.
Still they tell one story. Each of the facts below is shown for values and for lists of values together, item
by item; numbers, texts and truth values bring it from their own order.

  * `order?_swap` — the order turns round with the values
  * `order?_trans` — it chains, as far as there is one
  * `order?_eq_iff` — values are level exactly if they are equal

Main statement: `order_laws`.
-/

namespace Reckon

open Std

/-! ## Texts -/

theorem compareStrings_eq (s t : String) : compareStrings s t = compare s t := by
  show _ = compareOfLessAndEq s t
  unfold compareStrings compareOfLessAndEq
  by_cases hst : s < t
  · rw [if_pos hst, if_pos hst]
  · rw [if_neg hst, if_neg hst]
    by_cases hts : t < s
    · have hne : s ≠ t := by
        intro h
        subst h
        exact hst hts
      rw [if_pos hts, if_neg hne]
    · have heq : s = t := String.le_antisymm hts hst
      rw [if_neg hts, if_pos heq]

/-- **Comparing texts contradicts itself nowhere.** -/
theorem consistent_compareStrings : Consistent fun s t => some (compareStrings s t) := by
  simp only [compareStrings_eq]
  exact .of_total compare

theorem compareStrings_eq_iff (s t : String) : compareStrings s t = .eq ↔ (s == t) = true := by
  rw [compareStrings_eq, LawfulEqOrd.compare_eq_iff_eq, beq_iff_eq]

namespace Value

/-! ## Lists, item by item -/

theorem order?_array (xs ys : List Value) :
    (array xs).order? (array ys) =
      match compare xs.length ys.length with
      | .eq => itemsOrder? xs ys
      | other => some other :=
  rfl

theorem itemsOrder?_cons (x y : Value) (xs ys : List Value) :
    itemsOrder? (x :: xs) (y :: ys) =
      match x.order? y with
      | some .eq => itemsOrder? xs ys
      | other => other :=
  rfl

theorem itemsOrder?_cons_of_lt {x y : Value} (h : x.order? y = some .lt) (xs ys : List Value) :
    itemsOrder? (x :: xs) (y :: ys) = some .lt := by
  rw [itemsOrder?_cons, h]

theorem itemsOrder?_cons_of_eq {x y : Value} (h : x.order? y = some .eq) (xs ys : List Value) :
    itemsOrder? (x :: xs) (y :: ys) = itemsOrder? xs ys := by
  rw [itemsOrder?_cons, h]

/-- Lists are level or upward by their first items, or, if these are level, by the others. -/
theorem itemsOrder?_cons_cases {x y : Value} {xs ys : List Value} {p : Ordering}
    (h : itemsOrder? (x :: xs) (y :: ys) = some p) (hp : p.isLE = true) :
    (x.order? y = some .lt ∧ p = .lt) ∨ (x.order? y = some .eq ∧ itemsOrder? xs ys = some p) := by
  rw [itemsOrder?_cons] at h
  cases hxy : x.order? y with
  | none =>
    rw [hxy] at h
    cases h
  | some order =>
    rw [hxy] at h
    cases order with
    | lt =>
      cases h
      exact Or.inl ⟨rfl, rfl⟩
    | eq => exact Or.inr ⟨rfl, h⟩
    | gt =>
      cases h
      cases hp

/-- Lists of different lengths are in the order of their lengths. -/
theorem order?_array_of_lt {xs ys : List Value} (h : xs.length < ys.length) :
    (array xs).order? (array ys) = some .lt := by
  rw [order?_array, Nat.compare_eq_lt.mpr h]

theorem order?_array_of_gt {xs ys : List Value} (h : ys.length < xs.length) :
    (array xs).order? (array ys) = some .gt := by
  rw [order?_array, Nat.compare_eq_gt.mpr h]

/-- Lists of one length are in the order of their items. -/
theorem order?_array_of_eq {xs ys : List Value} (h : xs.length = ys.length) :
    (array xs).order? (array ys) = itemsOrder? xs ys := by
  rw [order?_array, Nat.compare_eq_eq.mpr h]

/-- Only lists of one length are level or upward by their items. -/
theorem length_of_order?_array {xs ys : List Value} {p : Ordering}
    (h : (array xs).order? (array ys) = some p) (hp : p.isLE = true) : xs.length ≤ ys.length := by
  apply Nat.le_of_not_lt
  intro hlt
  rw [order?_array_of_gt hlt] at h
  cases h
  cases hp

/-! ## The order turns round -/

mutual

/-- **The order turns round with the values.** -/
theorem order?_swap (a b : Value) : b.order? a = (a.order? b).map Ordering.swap := by
  cases a with
  | boolean x =>
    cases b with
    | boolean y => exact (Consistent.of_total compare).swap x y
    | _ => rfl
  | number x =>
    cases b with
    | number y => exact consistent_compareNumbers.swap x y
    | _ => rfl
  | string s =>
    cases b with
    | string t => exact consistent_compareStrings.swap s t
    | _ => rfl
  | array xs =>
    cases b with
    | array ys =>
      rcases Nat.lt_trichotomy xs.length ys.length with h | h | h
      · rw [order?_array_of_lt h, order?_array_of_gt h]
        rfl
      · rw [order?_array_of_eq h, order?_array_of_eq h.symm]
        exact itemsOrder?_swap xs ys
      · rw [order?_array_of_gt h, order?_array_of_lt h]
        rfl
    | _ => rfl

theorem itemsOrder?_swap (xs ys : List Value) :
    itemsOrder? ys xs = (itemsOrder? xs ys).map Ordering.swap := by
  cases xs with
  | nil => cases ys <;> rfl
  | cons x xs =>
    cases ys with
    | nil => rfl
    | cons y ys =>
      rw [itemsOrder?_cons, itemsOrder?_cons, order?_swap x y]
      -- the same pair decides both ways
      cases x.order? y with
      | none => rfl
      | some order =>
        cases order with
        | eq => exact itemsOrder?_swap xs ys
        | lt | gt => rfl

end

/-! ## The order chains -/

theorem then_lt {p : Ordering} (hp : p.isLE = true) : p.then .lt = .lt := by
  cases p with
  | lt | eq => rfl
  | gt => cases hp

mutual

/-- **The order chains.** One step upward or level after another makes such a step, upward as soon as one of
the two is. -/
theorem order?_trans (a b c : Value) {p q : Ordering} (hab : a.order? b = some p)
    (hbc : b.order? c = some q) (hp : p.isLE = true) (hq : q.isLE = true) :
    a.order? c = some (p.then q) := by
  cases a with
  | boolean x =>
    cases b with
    | boolean y =>
      cases c with
      | boolean z => exact (Consistent.of_total compare).trans hab hbc hp hq
      | _ => cases hbc
    | _ => cases hab
  | number x =>
    cases b with
    | number y =>
      cases c with
      | number z => exact consistent_compareNumbers.trans hab hbc hp hq
      | _ => cases hbc
    | _ => cases hab
  | string s =>
    cases b with
    | string t =>
      cases c with
      | string u => exact consistent_compareStrings.trans hab hbc hp hq
      | _ => cases hbc
    | _ => cases hab
  | array xs =>
    cases b with
    | array ys =>
      cases c with
      | array zs =>
        have hxy : xs.length ≤ ys.length := length_of_order?_array hab hp
        have hyz : ys.length ≤ zs.length := length_of_order?_array hbc hq
        -- one list that is longer than the one before decides; else all are of one length
        by_cases hlt : xs.length < ys.length
        · rw [order?_array_of_lt hlt] at hab
          cases hab
          exact order?_array_of_lt (Nat.lt_of_lt_of_le hlt hyz)
        · have hxy' : xs.length = ys.length := Nat.le_antisymm hxy (Nat.le_of_not_lt hlt)
          by_cases hlt' : ys.length < zs.length
          · rw [order?_array_of_lt hlt'] at hbc
            cases hbc
            rw [order?_array_of_lt (Nat.lt_of_le_of_lt hxy hlt'), then_lt hp]
          · have hyz' : ys.length = zs.length := Nat.le_antisymm hyz (Nat.le_of_not_lt hlt')
            rw [order?_array_of_eq hxy'] at hab
            rw [order?_array_of_eq hyz'] at hbc
            rw [order?_array_of_eq (hxy'.trans hyz')]
            exact itemsOrder?_trans xs ys zs hxy' hyz' hab hbc hp hq
      | _ => cases hbc
    | _ => cases hab

theorem itemsOrder?_trans (xs ys zs : List Value) {p q : Ordering} (hxy : xs.length = ys.length)
    (hyz : ys.length = zs.length) (hab : itemsOrder? xs ys = some p) (hbc : itemsOrder? ys zs = some q)
    (hp : p.isLE = true) (hq : q.isLE = true) : itemsOrder? xs zs = some (p.then q) := by
  cases xs with
  | nil =>
    obtain rfl := List.length_eq_zero_iff.mp hxy.symm
    obtain rfl := List.length_eq_zero_iff.mp hyz.symm
    cases hab
    cases hbc
    rfl
  | cons x xs =>
    cases ys with
    | nil => cases hxy
    | cons y ys =>
      cases zs with
      | nil => cases hyz
      | cons z zs =>
        rcases itemsOrder?_cons_cases hab hp with ⟨hx, rfl⟩ | ⟨hx, hab⟩
        · rcases itemsOrder?_cons_cases hbc hq with ⟨hy, rfl⟩ | ⟨hy, hbc⟩
          · exact itemsOrder?_cons_of_lt (order?_trans x y z hx hy rfl rfl) xs zs
          · exact itemsOrder?_cons_of_lt (order?_trans x y z hx hy rfl rfl) xs zs
        · rcases itemsOrder?_cons_cases hbc hq with ⟨hy, rfl⟩ | ⟨hy, hbc⟩
          · rw [itemsOrder?_cons_of_lt (order?_trans x y z hx hy rfl rfl) xs zs, then_lt hp]
          · rw [itemsOrder?_cons_of_eq (order?_trans x y z hx hy rfl rfl) xs zs]
            exact itemsOrder?_trans xs ys zs (Nat.succ.inj hxy) (Nat.succ.inj hyz) hab hbc hp hq

end

/-! ## Level and equal are the same -/

theorem length_of_itemsEqual {xs ys : List Value} (h : itemsEqual xs ys = true) :
    xs.length = ys.length := by
  induction xs generalizing ys with
  | nil =>
    cases ys with
    | nil => rfl
    | cons y ys => cases h
  | cons x xs ih =>
    cases ys with
    | nil => cases h
    | cons y ys =>
      rw [itemsEqual, Bool.and_eq_true] at h
      exact congrArg (· + 1) (ih h.2)

mutual

/-- **Values are level exactly if they are equal.** -/
theorem order?_eq_iff (a b : Value) : a.order? b = some .eq ↔ a.equals b = true := by
  cases a with
  | boolean x =>
    cases b with
    | boolean y => exact Option.some_inj.trans (LawfulEqOrd.compare_eq_iff_eq.trans beq_iff_eq.symm)
    | _ => exact ⟨nofun, nofun⟩
  | number x =>
    cases b with
    | number y => exact compareNumbers_eq_iff x y
    | _ => exact ⟨nofun, nofun⟩
  | string s =>
    cases b with
    | string t => exact Option.some_inj.trans (compareStrings_eq_iff s t)
    | _ => exact ⟨nofun, nofun⟩
  | array xs =>
    cases b with
    | array ys =>
      show _ ↔ itemsEqual xs ys = true
      rcases Nat.lt_trichotomy xs.length ys.length with h | h | h
      · rw [order?_array_of_lt h]
        exact ⟨nofun, fun heq => absurd (length_of_itemsEqual heq) (Nat.ne_of_lt h)⟩
      · rw [order?_array_of_eq h]
        exact itemsOrder?_eq_iff xs ys h
      · rw [order?_array_of_gt h]
        exact ⟨nofun, fun heq => absurd (length_of_itemsEqual heq) (Nat.ne_of_gt h)⟩
    | _ => exact ⟨nofun, nofun⟩

theorem itemsOrder?_eq_iff (xs ys : List Value) (h : xs.length = ys.length) :
    itemsOrder? xs ys = some .eq ↔ itemsEqual xs ys = true := by
  cases xs with
  | nil =>
    obtain rfl := List.length_eq_zero_iff.mp h.symm
    exact ⟨fun _ => rfl, fun _ => rfl⟩
  | cons x xs =>
    cases ys with
    | nil => cases h
    | cons y ys =>
      rw [itemsEqual, Bool.and_eq_true, ← order?_eq_iff x y,
        ← itemsOrder?_eq_iff xs ys (Nat.succ.inj h)]
      constructor
      · intro hlevel
        rcases itemsOrder?_cons_cases hlevel rfl with ⟨-, hlt⟩ | hlevel
        · cases hlt
        · exact hlevel
      · rintro ⟨hx, hxs⟩
        rw [itemsOrder?_cons_of_eq hx]
        exact hxs

end

theorem equals_symm (a b : Value) : a.equals b = b.equals a := by
  rw [Bool.eq_iff_iff, ← order?_eq_iff, ← order?_eq_iff, order?_swap a b]
  cases a.order? b with
  | none => exact Iff.rfl
  | some order => cases order <;> decide

theorem equals_trans {a b c : Value} (hab : a.equals b = true) (hbc : b.equals c = true) :
    a.equals c = true := by
  rw [← order?_eq_iff] at hab hbc ⊢
  exact order?_trans a b c hab hbc rfl rfl

/-! ## The four comparisons -/

theorem lessEqual_eq (a b : Value) : a.lessEqual b = (a.less b || a.equals b) := by
  rw [Bool.eq_iff_iff, Bool.or_eq_true, ← order?_eq_iff, less, lessEqual]
  cases a.order? b with
  | none => simp
  | some order => cases order <;> simp

theorem greater_eq (a b : Value) : a.greater b = b.less a := by
  rw [greater, less, order?_swap a b]
  cases a.order? b with
  | none => rfl
  | some order => cases order <;> rfl

theorem greaterEqual_eq (a b : Value) : a.greaterEqual b = b.lessEqual a := by
  rw [greaterEqual, lessEqual, order?_swap a b]
  cases a.order? b with
  | none => rfl
  | some order => cases order <;> rfl

/-- **Main theorem.** Values are ordered without contradiction, of whatever kinds they are and however deep
they are nested. The order turns round with the values, and is missing both ways or neither way; values are
level exactly if they are equal; to be equal is symmetric and transitive; and two steps upward or level make
such a step, upward as soon as one of the two is. So the other comparisons come down to being less and being
equal. -/
theorem order_laws (a b c : Value) :
    b.order? a = (a.order? b).map Ordering.swap ∧
      (a.order? b = some .eq ↔ a.equals b = true) ∧
      a.equals b = b.equals a ∧
      (a.equals b = true → b.equals c = true → a.equals c = true) ∧
      (∀ p q, a.order? b = some p → b.order? c = some q → p ≠ .gt → q ≠ .gt →
        ∃ r, a.order? c = some r ∧ r ≠ .gt ∧ (p = .lt ∨ q = .lt → r = .lt)) ∧
      a.lessEqual b = (a.less b || a.equals b) ∧
      a.greater b = b.less a ∧
      a.greaterEqual b = b.lessEqual a := by
  refine ⟨order?_swap a b, order?_eq_iff a b, equals_symm a b, equals_trans, ?_, lessEqual_eq a b,
    greater_eq a b, greaterEqual_eq a b⟩
  intro p q hab hbc hp hq
  have hac := order?_trans a b c hab hbc (Ordering.isLE_iff_ne_gt.mpr hp) (Ordering.isLE_iff_ne_gt.mpr hq)
  cases p with
  | lt => exact ⟨.lt, hac, nofun, fun _ => rfl⟩
  | eq =>
    refine ⟨q, hac, hq, ?_⟩
    rintro (h | h)
    · cases h
    · exact h
  | gt => exact absurd rfl hp

/-- Both zeros are level, inside lists too, so what comes after one comes after the other. -/
theorem order_laws_zeros :
    let a := array [array [number (-0.0)], string "a"]
    let b := array [array [number 0.0], string "a"]
    let c := array [array [number 0.0], string "b"]
    a.order? b = some .eq ∧ b.order? c = some .lt ∧ a.order? c = some .lt ∧ a.equals b = true := by
  intro a b c
  have hab : a.order? b = some .eq := by decide +kernel
  have hbc : b.order? c = some .lt := by decide +kernel
  obtain ⟨-, hequal, -, -, hchain, -⟩ := order_laws a b c
  obtain ⟨r, hac, -, hstrict⟩ := hchain .eq .lt hab hbc nofun nofun
  rw [hstrict (Or.inr rfl)] at hac
  exact ⟨hab, hbc, hac, hequal.mp hab⟩

end Value

end Reckon
