import Mathlib
import Reckon.Number.Numeral
import Reckon.Number.Overflow

/-!
# `Proofs.Number.Digits` — whole numbers and their digits
-/

namespace Reckon.Number

open Text

theorem digitValue?_of_isDigit {c : Char} (h : c.isDigit = true) :
    digitValue? c = some (c.toNat - '0'.toNat) := by
  have hval : c.val < 128 := by
    simp only [Char.isDigit, Bool.and_eq_true, decide_eq_true_eq] at h
    exact Std.lt_of_le_of_lt h.2 (by decide)
  rw [digitValue?, if_pos hval, if_pos h]

theorem toNat_sub_lt_of_isDigit {c : Char} (h : c.isDigit = true) : c.toNat - '0'.toNat < 10 := by
  simp only [Char.isDigit, Bool.and_eq_true, decide_eq_true_eq] at h
  have hle : c.val.toNat ≤ 57 := UInt32.le_iff_toNat_le.mp h.2
  show c.val.toNat - 48 < 10
  omega

theorem natOfDigits_eq {digits : List Char} (h : ∀ c ∈ digits, c.isDigit = true) :
    natOfDigits digits = Nat.ofDigitChars 10 digits 0 := by
  have hfrom : ∀ n, digits.foldl (fun n c => 10 * n + (digitValue? c).getD 0) n =
      Nat.ofDigitChars 10 digits n := by
    induction digits with
    | nil => exact fun _ => rfl
    | cons c rest ih =>
      intro n
      rw [List.foldl_cons, digitValue?_of_isDigit (h c List.mem_cons_self)]
      exact ih (fun d hd => h d (List.mem_cons_of_mem c hd)) _
  exact hfrom 0

theorem isDigit_of_mem_repr {n : Nat} {c : Char} (h : c ∈ (Nat.repr n).toList) :
    c.isDigit = true := by
  rw [Nat.toList_repr] at h
  exact Nat.isDigit_of_mem_toDigits (by decide) (by decide) h

/-- The digits of a number other than zero do not start with a zero. -/
theorem head?_repr {n : Nat} (h : 0 < n) : (Nat.repr n).toList.head? ≠ some '0' := by
  rw [Nat.toList_repr]
  induction n using Nat.strongRecOn with
  | ind n ih =>
    by_cases hsmall : n < 10
    · rw [Nat.toDigits_of_lt_base hsmall]
      have hdigit : ∀ k < 10, 0 < k → [Nat.digitChar k].head? ≠ some '0' := by decide
      exact hdigit n hsmall h
    · have hquotient : 0 < n / 10 := by omega
      have hhead := ih (n / 10) (by omega) hquotient
      rw [Nat.toDigits_of_base_le (by decide) (by omega), List.head?_append]
      cases hquotientHead : (Nat.toDigits 10 (n / 10)).head? with
      | none => exact absurd (List.head?_eq_none_iff.mp hquotientHead) Nat.toDigits_ne_nil
      | some c =>
        rw [hquotientHead] at hhead
        exact hhead

/-- The digits of a number spell it. -/
theorem natOfDigits_repr (n : Nat) : natOfDigits (Nat.repr n).toList = n := by
  rw [natOfDigits_eq fun c hc => isDigit_of_mem_repr hc, Nat.toList_repr]
  exact Nat.ofDigitChars_ten_toDigits

theorem ofDigitChars_lt {digits : List Char} (h : ∀ c ∈ digits, c.isDigit = true) (n : Nat) :
    Nat.ofDigitChars 10 digits n < (n + 1) * 10 ^ digits.length := by
  induction digits generalizing n with
  | nil =>
    show n < (n + 1) * 1
    omega
  | cons c rest ih =>
    have hdigit := toNat_sub_lt_of_isDigit (h c List.mem_cons_self)
    have hrest := ih (fun d hd => h d (List.mem_cons_of_mem c hd)) (10 * n + (c.toNat - '0'.toNat))
    calc Nat.ofDigitChars 10 rest (10 * n + (c.toNat - '0'.toNat))
      _ < (10 * n + (c.toNat - '0'.toNat) + 1) * 10 ^ rest.length := hrest
      _ ≤ ((n + 1) * 10) * 10 ^ rest.length := Nat.mul_le_mul_right _ (by omega)
      _ = (n + 1) * 10 ^ (rest.length + 1) := by rw [Nat.pow_succ, Nat.mul_assoc, Nat.mul_comm 10]

theorem natOfDigits_lt {digits : List Char} (h : ∀ c ∈ digits, c.isDigit = true) :
    natOfDigits digits < 10 ^ digits.length := by
  rw [natOfDigits_eq h]
  have := ofDigitChars_lt h 0
  rwa [Nat.zero_add, Nat.one_mul] at this

theorem isWritable_iff {n : Int} : isWritable n = true ↔ n.natAbs < 10 ^ mostDigits := by
  rw [isWritable, decide_eq_true_iff]
  exact Nat.length_repr_le_iff (by decide)

/-- A number of few enough digits can be written with them. -/
theorem isWritable_of_natAbs_eq {digits : List Char} {n : Int}
    (h : ∀ c ∈ digits, c.isDigit = true) (hfew : digits.length ≤ mostDigits)
    (hn : n.natAbs = natOfDigits digits) : isWritable n = true := by
  rw [isWritable_iff, hn]
  exact Nat.lt_of_lt_of_le (natOfDigits_lt h) (Nat.pow_le_pow_right (by decide) hfew)

end Reckon.Number
