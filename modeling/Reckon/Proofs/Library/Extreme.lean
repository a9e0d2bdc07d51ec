import Reckon.Library.General
import Reckon.Proofs.Value.Order

/-!
# `Proofs.Library.Extreme` — the greatest and the least of values

`maximum` and `minimum` go through a sequence once and keep the best item so far. The items need not be
comparable, so an item that is passed over may have no order against the best one at all. That none of them
surpasses the one in the end takes the whole chain of the best ones: each surpasses the one before, so what
surpassed the last of them would have surpassed all.

`Leads` is what the scan keeps of the items that it has seen. One item hands it on (`Leads.step`), hence so
does the whole sequence (`Leads.scan`).

Main statement: `extremes_lead`.
-/

namespace Reckon.Library

variable {surpasses : Value → Value → Bool} {seen : List Value} {best : Value}

/-- A strict order of values that does not tell equal ones apart. -/
structure Surpassing (surpasses : Value → Value → Bool) : Prop where
  irrefl (a : Value) : surpasses a a = false
  trans {a b c : Value} (hab : surpasses a b = true) (hbc : surpasses b c = true) : surpasses a c = true
  congr {a b c : Value} (hab : a.equals b = true) (hbc : surpasses b c = true) : surpasses a c = true

theorem less_eq_true_iff (a b : Value) : a.less b = true ↔ a.order? b = some .lt := by
  rw [Value.less, beq_iff_eq]

theorem surpassing_less : Surpassing Value.less where
  irrefl a := by
    rw [← Bool.not_eq_true, less_eq_true_iff]
    intro h
    have hswap := Value.order?_swap a a
    rw [h] at hswap
    cases hswap
  trans {a b c} hab hbc := by
    rw [less_eq_true_iff] at hab hbc ⊢
    exact Value.order?_trans a b c hab hbc rfl rfl
  congr {a b c} hab hbc := by
    rw [← Value.order?_eq_iff] at hab
    rw [less_eq_true_iff] at hbc ⊢
    exact Value.order?_trans a b c hab hbc rfl rfl

/-- Being greater is being less, looked at from the other side. -/
theorem surpassing_greater : Surpassing Value.greater where
  irrefl a := by
    rw [Value.greater_eq]
    exact surpassing_less.irrefl a
  trans {a b c} hab hbc := by
    rw [Value.greater_eq] at hab hbc ⊢
    exact surpassing_less.trans hbc hab
  congr {a b c} hab hbc := by
    rw [Value.greater_eq, less_eq_true_iff] at hbc ⊢
    rw [Value.equals_symm, ← Value.order?_eq_iff] at hab
    exact Value.order?_trans c b a hbc hab rfl rfl

/-! ## What the scan keeps -/

/-- The item stands in the sequence, nothing there surpasses it, and nothing in front of it is equal to it. -/
structure Leads (surpasses : Value → Value → Bool) (items : List Value) (best : Value) : Prop where
  first : ∃ front rest, items = front ++ best :: rest ∧ ∀ v ∈ front, v.equals best = false
  unsurpassed : ∀ v ∈ items, surpasses v best = false

theorem Leads.single (hs : Surpassing surpasses) (v : Value) : Leads surpasses [v] v where
  first := ⟨[], [], rfl, nofun⟩
  unsurpassed w hw := by
    obtain rfl := List.mem_singleton.mp hw
    exact hs.irrefl w

theorem Leads.not_surpasses (h : Leads surpasses seen best) {w : Value} (hw : w ∈ seen) :
    ¬ surpasses w best = true := by
  rw [h.unsurpassed w hw]
  exact Bool.false_ne_true

/-- An item that does not surpass the best one changes nothing. -/
theorem Leads.keep (h : Leads surpasses seen best) {v : Value} (hv : surpasses v best = false) :
    Leads surpasses (seen ++ [v]) best where
  first := by
    obtain ⟨front, rest, rfl, hfront⟩ := h.first
    exact ⟨front, rest ++ [v], by simp, hfront⟩
  unsurpassed w hw := by
    rcases List.mem_append.mp hw with hw | hw
    · exact h.unsurpassed w hw
    · obtain rfl := List.mem_singleton.mp hw
      exact hv

/-- An item that surpasses the best one leads: what is equal to it or surpasses it would have surpassed the
best one before. -/
theorem Leads.replace (hs : Surpassing surpasses) (h : Leads surpasses seen best) {v : Value}
    (hv : surpasses v best = true) : Leads surpasses (seen ++ [v]) v where
  first := by
    refine ⟨seen, [], rfl, ?_⟩
    intro w hw
    apply Bool.eq_false_iff.mpr
    intro hequal
    exact h.not_surpasses hw (hs.congr hequal hv)
  unsurpassed w hw := by
    rcases List.mem_append.mp hw with hw | hw
    · apply Bool.eq_false_iff.mpr
      intro hlater
      exact h.not_surpasses hw (hs.trans hlater hv)
    · obtain rfl := List.mem_singleton.mp hw
      exact hs.irrefl w

/-- **One item.** -/
theorem Leads.step (hs : Surpassing surpasses) (h : Leads surpasses seen best) (v : Value) :
    Leads surpasses (seen ++ [v]) (if surpasses v best then v else best) := by
  by_cases hv : surpasses v best = true
  · rw [if_pos hv]
    exact h.replace hs hv
  · rw [if_neg hv]
    exact h.keep (Bool.eq_false_iff.mpr hv)

/-- **The whole sequence.** -/
theorem Leads.scan (hs : Surpassing surpasses) (h : Leads surpasses seen best) (items : List Value) :
    Leads surpasses (seen ++ items)
      (items.foldl (fun best v => if surpasses v best then v else best) best) := by
  induction items generalizing seen best with
  | nil =>
    rw [List.append_nil]
    exact h
  | cons v items ih =>
    rw [List.foldl_cons, List.append_cons]
    exact ih (h.step hs v)

theorem extreme_leads (hs : Surpassing surpasses) {params : List Value} (h : spread params ≠ []) :
    ∃ best, extreme surpasses params = .ok best ∧ Leads surpasses (spread params) best := by
  unfold extreme
  cases hspread : spread params with
  | nil => exact absurd hspread h
  | cons v items => exact ⟨_, rfl, (Leads.single hs v).scan hs items⟩

theorem extreme_nil {params : List Value} (h : spread params = []) :
    extreme surpasses params = .error (.wrongCount 1) := by
  unfold extreme
  rw [h]

/-! ## Sequences of parameters -/

theorem spread_of_ne {params : List Value} (h : ∀ items, params ≠ [.array items]) :
    spread params = params := by
  unfold spread
  split
  · next items => exact absurd rfl (h items)
  · rfl

/-- **Main theorem.** A call of `max` or `min` is about the items of its only parameter, if that is a list,
else about all its parameters. Of whatever kinds these are, comparable or not, the greatest value is one of
them that none of them is greater than, and the first of those equal to it; the least value is so with less.
If there are none, the count of parameters is reported to be wrong. -/
theorem extremes_lead (params : List Value) :
    (∀ items, params = [.array items] → spread params = items) ∧
      ((∀ items, params ≠ [.array items]) → spread params = params) ∧
      (spread params ≠ [] →
        (∃ greatest, maximum params = .ok greatest ∧ Leads Value.greater (spread params) greatest) ∧
          ∃ least, minimum params = .ok least ∧ Leads Value.less (spread params) least) ∧
      (spread params = [] →
        maximum params = .error (.wrongCount 1) ∧ minimum params = .error (.wrongCount 1)) := by
  refine ⟨?_, spread_of_ne, ?_, ?_⟩
  · intro items h
    rw [h]
    rfl
  · intro h
    exact ⟨extreme_leads surpassing_greater h, extreme_leads surpassing_less h⟩
  · intro h
    exact ⟨extreme_nil h, extreme_nil h⟩

/-- Not-a-number is not greater than zero and the text is not comparable with it; of the two zeros the first
leads. -/
theorem extremes_lead_zeros :
    let items : List Value :=
      [.number (-1.0), .string "a", .number (0.0 / 0.0), .number (-0.0), .number 0.0]
    spread [.array items] = items ∧ items ≠ [] ∧ maximum [.array items] = .ok (.number (-0.0)) ∧
      Leads Value.greater items (.number (-0.0)) := by
  intro items
  have hmaximum : maximum [.array items] = .ok (.number (-0.0)) := rfl
  obtain ⟨hlist, -, hleads, -⟩ := extremes_lead [.array items]
  have hspread : spread [.array items] = items := hlist items rfl
  rw [hspread] at hleads
  obtain ⟨⟨greatest, hgreatest, hleads⟩, -⟩ := hleads nofun
  rw [hmaximum] at hgreatest
  cases hgreatest
  exact ⟨hspread, nofun, hmaximum, hleads⟩

end Reckon.Library
