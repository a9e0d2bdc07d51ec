import Reckon.Proofs.Number.Digits
import Reckon.Proofs.Number.Exact
import Reckon.Library.General
import Reckon.Library.Numeric

/-!
# `Proofs.Library.Numerals` — whole numbers as texts

A numeral is an optional minus sign and the figures of a base, the most significant one first. It does not start with
a zero, except that of zero itself, which has no sign. `readNumeral` reads the numerals of a base and nothing else, so
a text that it reads as a whole number is the numeral of it.

Numbers reach whole numbers of three hundred digits, and each of them has its numeral: in base sixteen for the whole
part of any finite number, in base ten for what a whole number is displayed as.

Main statement: `readNumeral_texts`.
-/

namespace Reckon.Library

open Number

/-! ## Numerals -/

/-- The figures of the bases up to sixteen. -/
def figures : List Char :=
  "0123456789ABCDEF".toList

/-- What a figure stands for in a base. -/
def figure? (base : Nat) (c : Char) : Option Nat :=
  (figures.idxOf? c).filter (· < base)

/-- The number that figures stand for, after those of `n`. -/
def readFigures (base : Nat) (n : Nat) : List Char → Option Nat
  | [] => some n
  | c :: rest => do readFigures base (base * n + (← figure? base c)) rest

/-- The number without a sign that a numeral is of. -/
def readMagnitude (base : Nat) : List Char → Option Nat
  | [] => none
  | '0' :: _ :: _ => none
  | s => readFigures base 0 s

/-- The whole number that a numeral is of. -/
def readNumeral (base : Nat) : List Char → Option Int
  | '-' :: s => do
    let n ← readMagnitude base s
    if n = 0 then none else some (-n)
  | s => do
    let n ← readMagnitude base s
    some n

/-- The figures of a number, the most significant one first. -/
def written (base n : Nat) : List Char :=
  (Nat.toDigits base n).map Char.toUpper

section

variable {base n d : Nat} {c : Char} {s t : List Char}

theorem written_of_lt (h : n < base) : written base n = [(Nat.digitChar n).toUpper] := by
  rw [written, Nat.toDigits_of_lt_base h]
  rfl

theorem written_of_le (hbase : 1 < base) (h : base ≤ n) :
    written base n = written base (n / base) ++ [(Nat.digitChar (n % base)).toUpper] := by
  rw [written, Nat.toDigits_of_base_le hbase h, List.map_append]
  rfl

theorem written_ne_nil : written base n ≠ [] :=
  mt List.map_eq_nil_iff.mp Nat.toDigits_ne_nil

theorem figure?_digitChar (hbase : base ≤ 16) (h : d < base) : figure? base (Nat.digitChar d).toUpper = some d := by
  have hindex : ∀ d < 16, figures.idxOf? (Nat.digitChar d).toUpper = some d := by decide
  rw [figure?, hindex d (by omega)]
  exact Option.filter_some_pos (decide_eq_true h)

theorem readFigures_append (n : Nat) : readFigures base n (s ++ t) = readFigures base n s >>= (readFigures base · t) := by
  induction s generalizing n with
  | nil => rfl
  | cons c rest ih =>
    rw [List.cons_append, readFigures, readFigures]
    cases figure? base c with
    | none => rfl
    | some d => exact ih _

/-- The figures of a number stand for it. -/
theorem readFigures_written (hbase : 1 < base) (hfigures : base ≤ 16) (n : Nat) :
    readFigures base 0 (written base n) = some n := by
  induction n using Nat.strongRecOn with
  | ind n ih =>
    rcases Nat.lt_or_ge n base with hsmall | hlarge
    · rw [written_of_lt hsmall, readFigures, figure?_digitChar hfigures hsmall, Nat.mul_zero]
      exact congrArg some (Nat.zero_add n)
    · have hfigure := figure?_digitChar hfigures (Nat.mod_lt n (by omega : base > 0))
      rw [written_of_le hbase hlarge, readFigures_append, ih _ (Nat.div_lt_self (by omega) hbase)]
      show readFigures base (n / base) [(Nat.digitChar (n % base)).toUpper] = some n
      rw [readFigures, hfigure]
      exact congrArg some (Nat.div_add_mod n base)

/-- Only zero starts with one. -/
theorem head?_written (hbase : 1 < base) (hfigures : base ≤ 16) (hpos : 0 < n) :
    (written base n).head? ≠ some '0' := by
  induction n using Nat.strongRecOn with
  | ind n ih =>
    rcases Nat.lt_or_ge n base with hsmall | hlarge
    · have hfigure : ∀ d < 16, 0 < d → [(Nat.digitChar d).toUpper].head? ≠ some '0' := by decide
      rw [written_of_lt hsmall]
      exact hfigure n (by omega) hpos
    · have hhead := ih (n / base) (Nat.div_lt_self hpos hbase) (Nat.div_pos hlarge (by omega))
      rw [written_of_le hbase hlarge, List.head?_append]
      cases hquotient : (written base (n / base)).head? with
      | none => exact absurd (List.head?_eq_none_iff.mp hquotient) written_ne_nil
      | some c =>
        rw [hquotient] at hhead
        exact hhead

theorem readMagnitude_written (hbase : 1 < base) (hfigures : base ≤ 16) (n : Nat) :
    readMagnitude base (written base n) = some n := by
  have hread := readFigures_written hbase hfigures n
  unfold readMagnitude
  split
  case h_1 hnil => exact absurd hnil written_ne_nil
  case h_2 hzeros =>
    -- more than one figure, and the first a zero
    rcases Nat.eq_zero_or_pos n with rfl | hpos
    · rw [written_of_lt (by omega)] at hzeros
      cases hzeros
    · have hhead := head?_written hbase hfigures hpos
      rw [hzeros] at hhead
      exact absurd rfl hhead
  case h_3 => exact hread

/-- No figure is a sign. -/
theorem readFigures_minus : readFigures base n ('-' :: s) = none := by
  have hindex : figures.idxOf? '-' = none := by decide
  rw [readFigures, figure?, hindex]
  rfl

/-- **The figures of a whole number after its sign are its numeral.** -/
theorem readNumeral_written (hbase : 1 < base) (hfigures : base ≤ 16) (z : Int) :
    readNumeral base (if z < 0 then '-' :: written base z.natAbs else written base z.natAbs) = some z := by
  have hmagnitude := readMagnitude_written hbase hfigures z.natAbs
  by_cases hneg : z < 0
  · rw [if_pos hneg, readNumeral, hmagnitude]
    show (if z.natAbs = 0 then none else some (-(z.natAbs : Int))) = some z
    rw [if_neg (by omega)]
    congr 1
    omega
  · rw [if_neg hneg]
    unfold readNumeral
    split
    case h_1 rest hminus =>
      have hread := readFigures_written hbase hfigures z.natAbs
      rw [hminus, readFigures_minus] at hread
      cases hread
    case h_2 =>
      rw [hmagnitude]
      show some (z.natAbs : Int) = some z
      congr 1
      omega

example : readNumeral 16 ['-', 'F', '0'] = some (-240) ∧ readNumeral 16 ['0', 'F'] = none ∧
    readNumeral 16 ['f'] = none ∧ readNumeral 10 ['-', '0'] = none := by
  decide

end

theorem toUpper_of_isDigit {c : Char} (h : c.isDigit = true) : c.toUpper = c := by
  unfold Char.isDigit at h
  rw [Bool.and_eq_true, decide_eq_true_iff, decide_eq_true_iff] at h
  unfold Char.toUpper
  refine dif_neg fun hletter => ?_
  have hlow := UInt32.le_iff_toNat_le.mp hletter.1
  have hhigh := UInt32.le_iff_toNat_le.mp h.2
  exact absurd (hlow.trans hhigh) (by decide)

/-- Whole numbers are displayed as their numerals. -/
theorem toList_toString_eq_written (z : Int) :
    (toString z).toList = if z < 0 then '-' :: written 10 z.natAbs else written 10 z.natAbs := by
  have hfigures : ∀ n, (Nat.repr n).toList = written 10 n := fun n => by
    have hsame : ∀ c ∈ (Nat.repr n).toList, id c = c.toUpper := fun c hc =>
      (toUpper_of_isDigit (isDigit_of_mem_repr hc)).symm
    rw [written, ← Nat.toList_repr, ← List.map_congr_left hsame, List.map_id]
  cases z with
  | ofNat n =>
    have hnonneg : ¬ Int.ofNat n < 0 := Int.not_lt.mpr (Int.natCast_nonneg n)
    rw [if_neg hnonneg]
    exact hfigures n
  | negSucc n =>
    rw [if_pos (Int.negSucc_lt_zero n)]
    show ("-" ++ Nat.repr (n + 1)).toList = '-' :: written 10 (n + 1)
    rw [String.toList_append, hfigures]
    rfl

/-! ## Texts of numbers -/

section

variable {x : Float} {a : ℚ}

theorem toHex_of_rational (hx : rational? x = some a) : toHex (.number x) =
    .ok (.string (.ofList (if cut a < 0 then '-' :: written 16 (cut a).natAbs else written 16 (cut a).natAbs))) := by
  unfold toHex numberOf
  dsimp only [Bind.bind, Except.bind]
  rw [wholePart?_of_rational hx]
  rfl

/-- A whole number is displayed without its sign of zero, its point and an exponent. -/
theorem displayText_of_whole {n : ℤ} (hx : rational? x = some a) (hn : a = n) : displayText x = toString n := by
  unfold displayText
  rw [isNaN_of_rational hx, wholePart?_of_rational hx, if_neg Bool.false_ne_true]
  dsimp only
  rw [if_pos ((isWhole_iff hx).mpr ⟨n, hn⟩), hn, cut_intCast]

/-- **The whole part of a finite number has its numeral in base sixteen, and a whole number its decimal one.** -/
theorem readNumeral_texts (hx : rational? x = some a) :
    (∃ s, toHex (.number x) = .ok (.string s) ∧ readNumeral 16 s.toList = some (cut a)) ∧
      ∀ n : ℤ, a = n → ∃ s, toText (.number x) = .ok (.string s) ∧ readNumeral 10 s.toList = some n := by
  refine ⟨⟨_, toHex_of_rational hx, ?_⟩, fun n hn => ⟨_, rfl, ?_⟩⟩
  · rw [String.toList_ofList]
    exact readNumeral_written (by decide) (by decide) (cut a)
  · rw [Value.display, displayText_of_whole hx hn, toList_toString_eq_written]
    exact readNumeral_written (by decide) (by decide) n

end

/-- Minus three and twenty zeros is displayed with them all, and has its numeral in base sixteen. -/
theorem readNumeral_texts_of_zeros : rational? (-3e20) = some (-3 * 10 ^ 20) ∧
    (∃ s, toHex (.number (-3e20)) = .ok (.string s) ∧ readNumeral 16 s.toList = some (-3 * 10 ^ 20)) ∧
      ∃ s, toText (.number (-3e20)) = .ok (.string s) ∧ readNumeral 10 s.toList = some (-3 * 10 ^ 20) := by
  have hx : rational? (-3e20) = some (-3 * 10 ^ 20) := by decide +kernel
  have hwhole : (-3 * 10 ^ 20 : ℚ) = ((-3 * 10 ^ 20 : ℤ) : ℚ) := by norm_num
  obtain ⟨⟨s, hhex, hread⟩, hdecimal⟩ := readNumeral_texts hx
  rw [hwhole, cut_intCast] at hread
  exact ⟨hx, ⟨s, hhex, hread⟩, hdecimal _ hwhole⟩

end Reckon.Library
