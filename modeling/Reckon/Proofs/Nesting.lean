import Reckon.Nesting

/-!
# `Proofs.Nesting` — what an allowance grants, and results that it cuts short

A stage that is granted too few levels may stop and report that nesting is too deep. `CutShort` says that
this is all the difference an allowance makes: the result is otherwise the one without a bound.
-/

namespace Reckon

namespace Allowance

theorem grants_zero (allowance : Allowance) : allowance.grants 0 = true := by
  cases allowance with
  | none => rfl
  | some n => exact decide_eq_true (Nat.zero_le n)

theorem grants_max (allowance : Allowance) (m n : Nat) :
    allowance.grants (max m n) = (allowance.grants m && allowance.grants n) := by
  cases allowance with
  | none => rfl
  | some k =>
    show decide (max m n ≤ k) = (decide (m ≤ k) && decide (n ≤ k))
    rw [← Bool.decide_and]
    exact decide_eq_decide.mpr Nat.max_le

/-- A level is granted, and so is what it takes further down. -/
theorem grants_succ (allowance : Allowance) (n : Nat) :
    allowance.grants (n + 1) = allowance.descend.any (·.grants n) := by
  cases allowance with
  | none => rfl
  | some k =>
    cases k with
    | zero => simp [grants, descend]
    | succ k => simp [grants, descend]

theorem grants_of_le {allowance : Allowance} {m n : Nat} (hle : m ≤ n)
    (h : allowance.grants n = true) : allowance.grants m = true := by
  cases allowance with
  | none => rfl
  | some k => exact decide_eq_true (Nat.le_trans hle (of_decide_eq_true h))

theorem refuses_of_le {allowance : Allowance} {m n : Nat} (hle : m ≤ n)
    (h : allowance.grants m = false) : allowance.grants n = false := by
  rw [← Bool.not_eq_true] at h ⊢
  exact mt (grants_of_le hle) h

section Stage

variable {asked : Bool} {allowance : Allowance} {n : Nat}

/-- Too few levels are granted to a stage that is asked for. -/
theorem asked_and_refused_iff :
    (asked && !allowance.grants n) = true ↔ asked = true ∧ allowance.grants n = false := by
  rw [Bool.and_eq_true, Bool.not_eq_true']

theorem not_asked_and_refused_iff :
    ¬ (asked && !allowance.grants n) = true ↔ (asked = true → allowance.grants n = true) := by
  rw [asked_and_refused_iff, not_and, Bool.not_eq_false]

end Stage

end Allowance

namespace Except

variable {ε α β : Type} {tooDeep : ε → Prop} {granted : Bool} {r r' : Except ε α}

/-- `r` is the result `r'` without a bound, or else not enough is granted and `r` reports just that. -/
def CutShort (tooDeep : ε → Prop) (granted : Bool) (r r' : Except ε α) : Prop :=
  r = r' ∨ granted = false ∧ ∃ err, tooDeep err ∧ r = .error err

theorem CutShort.refl (r : Except ε α) : CutShort tooDeep granted r r := .inl rfl

/-- Cut short by what is granted, a result is cut short by less. -/
theorem CutShort.deeper {a : Allowance} {m n : Nat} (h : CutShort tooDeep (a.grants m) r r')
    (hle : m ≤ n) : CutShort tooDeep (a.grants n) r r' := by
  rcases h with h | ⟨hrefused, herror⟩
  · exact .inl h
  · exact .inr ⟨Allowance.refuses_of_le hle hrefused, herror⟩

theorem CutShort.bind {f f' : α → Except ε β} (h : CutShort tooDeep granted r r')
    (hf : ∀ a, r = .ok a → CutShort tooDeep granted (f a) (f' a)) :
    CutShort tooDeep granted (r.bind f) (r'.bind f') := by
  rcases h with rfl | ⟨hrefused, err, hdeep, rfl⟩
  · cases r with
    | error err => exact .refl _
    | ok a => exact hf a rfl
  · exact .inr ⟨hrefused, err, hdeep, rfl⟩

theorem CutShort.map (f : α → β) (h : CutShort tooDeep granted r r') :
    CutShort tooDeep granted (r.map f) (r'.map f) := by
  rcases h with rfl | ⟨hrefused, err, hdeep, rfl⟩
  · exact .refl _
  · exact .inr ⟨hrefused, err, hdeep, rfl⟩

end Except

end Reckon
