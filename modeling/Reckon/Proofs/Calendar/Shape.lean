import Reckon.Calendar.Shape
import Reckon.Proofs.Number.Padded

/-!
# `Proofs.Calendar.Shape` — what a shape takes first

A text is cut up by the first of all that a shape can take from it, unless what follows is not read then. Of two
shapes the second counts only if the first takes nothing, and two characters are taken if the shape of each takes the
one. This is what the shapes of all fields of two digits are made of (`TakesFirst.left`, `TakesFirst.right`,
`ends_markRange`, `ends_rangeDigit`), so which of its parts takes a number is decided by the first digit alone.
A shape of some digits takes just as many, and nothing from fewer (`ends_digits`, `ends_digits_of_short`).
-/

namespace Reckon.Calendar

open Number Text

theorem agree_self (c : Char) : agree c c = true := by
  rw [agree, beq_self_eq_true, Bool.true_or]

/-! ## Digits have no case -/

/-- No digit is the other case of a letter. -/
theorem preimage?_of_isDigit {c : Char} (hc : c.isDigit = true) :
    ∀ s ∈ lowerShifts.toList ++ upperShifts.toList, s.preimage? c.toNat = none := by
  have hbeyond : ∀ s ∈ lowerShifts.toList ++ upperShifts.toList, 0 < s.first ∧ (0x39 : Int) < s.first + s.distance := by
    decide +kernel
  intro s hs
  obtain ⟨hfirst, himage⟩ := hbeyond s hs
  have hnine : c.toNat ≤ 0x39 := forall_isDigit (P := fun c => c.toNat ≤ 0x39) (by decide) hc
  have hbefore : ¬ s.first ≤ ((c.toNat : Int) - s.distance).toNat := by omega
  rw [CaseShift.preimage?, CaseShift.covers, decide_eq_false hbefore]
  rfl

theorem eq_of_mem_caseVariants {c d : Char} (hd : d.isDigit = true) (hc : c ∈ caseVariants d) : c = d := by
  obtain ⟨hlower, hupper⟩ : lowerChar d = d ∧ upperChar d = [d] :=
    forall_isDigit (P := fun d => lowerChar d = d ∧ upperChar d = [d]) (by decide) hd
  have hcapitals : lowerShifts.toList.filterMap (·.preimage? d.toNat) = [] :=
    List.filterMap_eq_nil_iff.mpr fun s hs => preimage?_of_isDigit hd s (List.mem_append_left _ hs)
  have hsmall : upperShifts.toList.filterMap (·.preimage? d.toNat) = [] :=
    List.filterMap_eq_nil_iff.mpr fun s hs => preimage?_of_isDigit hd s (List.mem_append_right _ hs)
  simp only [caseVariants, hlower, hupper, hsmall, List.map_nil, List.map_cons] at hc
  simpa [hlower, hupper, hcapitals] using hc

/-- A digit agrees with no other character. -/
theorem agree_of_isDigit {c d : Char} (hd : d.isDigit = true) (hne : c ≠ d) : agree c d = false := by
  rw [agree, beq_false_of_ne hne, Bool.false_or]
  exact Bool.eq_false_iff.mpr fun hmem => hne (eq_of_mem_caseVariants hd (List.contains_iff_mem.mp hmem))

theorem agree_digitChar {j k : Nat} (hj : j < 10) (hk : k < 10) (hne : j ≠ k) :
    agree (Nat.digitChar j) (Nat.digitChar k) = false := by
  have hdistinct : ∀ j < 10, ∀ k < 10, j ≠ k → Nat.digitChar j ≠ Nat.digitChar k := by decide
  exact agree_of_isDigit (isDigit_digitChar k hk) (hdistinct j hj k hk hne)

namespace Shape

/-- A shape takes this first from a text. -/
def TakesFirst (s : Shape) (x : List Char) (e : List Char × List Char) : Prop :=
  ∃ more, s.ends x = e :: more

variable {first second : Shape} {x rest : List Char} {e : List Char × List Char} {a b c low high : Char}

theorem takesFirst_of_eq {s : Shape} (h : s.ends x = [e]) : s.TakesFirst x e :=
  ⟨[], h⟩

/-! ## One of two -/

theorem TakesFirst.left (h : first.TakesFirst x e) : (either first second).TakesFirst x e := by
  obtain ⟨more, h⟩ := h
  exact ⟨more ++ second.ends x, congrArg (· ++ second.ends x) h⟩

theorem TakesFirst.right (hnone : first.ends x = []) (h : second.TakesFirst x e) :
    (either first second).TakesFirst x e := by
  obtain ⟨more, h⟩ := h
  exact ⟨more, (congrArg (· ++ second.ends x) hnone).trans h⟩

/-! ## One after the other -/

/-- The two shapes take a character each. -/
theorem ends_seq_of_one (hfirst : first.ends (a :: b :: rest) = [([a], b :: rest)])
    (hsecond : second.ends (b :: rest) = [([b], rest)]) :
    (seq first second).ends (a :: b :: rest) = [([a, b], rest)] := by
  rw [ends, hfirst, List.flatMap_singleton, hsecond]
  rfl

theorem ends_seq_of_nil (h : first.ends x = []) : (seq first second).ends x = [] := by
  rw [ends, h]
  rfl

theorem ends_range (hlow : low ≤ a) (hhigh : a ≤ high) : (range low high).ends (a :: rest) = [([a], rest)] :=
  if_pos (Bool.and_eq_true_iff.mpr ⟨decide_eq_true hlow, decide_eq_true hhigh⟩)

theorem ends_range_of_lt (h : a < low) : (range low high).ends (a :: rest) = [] :=
  if_neg fun htakes => absurd (of_decide_eq_true (Bool.and_eq_true_iff.mp htakes).1) (Char.not_le.mpr h)

theorem ends_mark : (mark c).ends (c :: rest) = [([c], rest)] :=
  if_pos (agree_self c)

theorem ends_mark_of_not_agree (h : agree c a = false) : (mark c).ends (a :: rest) = [] :=
  if_neg (by rw [h]; exact Bool.false_ne_true)

theorem ends_digit (h : isDecimalDigit a = true) : digit.ends (a :: rest) = [([a], rest)] :=
  if_pos h

theorem ends_markRange (hlow : low ≤ b) (hhigh : b ≤ high) :
    (markRange c low high).ends (c :: b :: rest) = [([c, b], rest)] :=
  ends_seq_of_one ends_mark (ends_range hlow hhigh)

theorem ends_markRange_of_not_agree (h : agree c a = false) : (markRange c low high).ends (a :: rest) = [] :=
  ends_seq_of_nil (ends_mark_of_not_agree h)

theorem ends_rangeDigit (hlow : low ≤ a) (hhigh : a ≤ high) (hb : isDecimalDigit b = true) :
    (rangeDigit low high).ends (a :: b :: rest) = [([a, b], rest)] :=
  ends_seq_of_one (ends_range hlow hhigh) (ends_digit hb)

theorem ends_rangeDigit_of_lt (h : a < low) : (rangeDigit low high).ends (a :: rest) = [] :=
  ends_seq_of_nil (ends_range_of_lt h)

/-! ## Digits -/

theorem digits_succ (count : Nat) (x : List Char) :
    (digits (count + 1)).ends x = (takeOne isDecimalDigit x).flatMap fun e =>
      ((digits count).ends e.2).map fun f => (e.1 ++ f.1, f.2) := by
  cases count with
  | zero =>
    show takeOne isDecimalDigit x = _
    cases x with
    | nil => rfl
    | cons c x =>
      simp only [takeOne]
      split
      · rfl
      · rfl
  | succ count => rfl

/-- As many digits as there should be are taken, whatever follows. -/
theorem ends_digits (hdigit : ∀ c ∈ x, isDecimalDigit c = true) (rest : List Char) :
    (digits x.length).ends (x ++ rest) = [(x, rest)] := by
  induction x with
  | nil => rfl
  | cons c x ih =>
    obtain ⟨hc, hx⟩ := List.forall_mem_cons.mp hdigit
    have hone : takeOne isDecimalDigit (c :: (x ++ rest)) = [([c], x ++ rest)] := if_pos hc
    rw [List.length_cons, digits_succ, List.cons_append, hone, List.flatMap_singleton, ih hx]
    rfl

/-- Nothing is taken if a character that is no digit comes too early. -/
theorem ends_digits_of_short {count : Nat} (hshort : x.length < count) (ha : isDecimalDigit a = false)
    (rest : List Char) : (digits count).ends (x ++ a :: rest) = [] := by
  induction x generalizing count with
  | nil =>
    obtain ⟨count, rfl⟩ := Nat.exists_eq_add_one_of_ne_zero (Nat.ne_of_gt hshort)
    have hnone : takeOne isDecimalDigit (a :: rest) = [] := if_neg (by rw [ha]; exact Bool.false_ne_true)
    rw [List.nil_append, digits_succ, hnone]
    rfl
  | cons c x ih =>
    obtain ⟨count, rfl⟩ := Nat.exists_eq_add_one_of_ne_zero (Nat.ne_of_gt (Nat.zero_lt_of_lt hshort))
    rw [digits_succ, List.flatMap_eq_nil_iff]
    intro e he
    rw [List.cons_append, takeOne] at he
    split at he
    · rw [List.mem_singleton.mp he, ih (Nat.lt_of_succ_lt_succ hshort)]
      rfl
    · cases he

end Shape

end Reckon.Calendar
