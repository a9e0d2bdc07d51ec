/-!
# `Proofs.Except` — what the outcome of a sequence says about its steps

A sequence of steps succeeds only if each of them does, and fails with the first that fails. These lemmas
take such a sequence apart.
-/

namespace Reckon.Except

variable {ε α β : Type}

theorem exists_of_bind_ok {r : Except ε α} {f : α → Except ε β} {b : β} (h : r.bind f = .ok b) :
    ∃ a, r = .ok a ∧ f a = .ok b := by
  cases r with
  | error e => cases h
  | ok a => exact ⟨a, rfl, h⟩

theorem exists_of_map_ok {r : Except ε α} {f : α → β} {b : β} (h : r.map f = .ok b) :
    ∃ a, r = .ok a ∧ f a = b := by
  cases r with
  | error e => cases h
  | ok a => exact ⟨a, rfl, Except.ok.inj h⟩

theorem error_of_bind {r : Except ε α} {f : α → Except ε β} {e : ε} (h : r.bind f = .error e) :
    r = .error e ∨ ∃ a, r = .ok a ∧ f a = .error e := by
  cases r with
  | error e' =>
    cases h
    exact Or.inl rfl
  | ok a => exact Or.inr ⟨a, rfl, h⟩

theorem error_of_map {r : Except ε α} {f : α → β} {e : ε} (h : r.map f = .error e) :
    r = .error e := by
  cases r with
  | error e' =>
    cases h
    rfl
  | ok a => cases h

theorem exists_of_mapError_error {ε' : Type} {r : Except ε α} {f : ε → ε'} {e' : ε'}
    (h : r.mapError f = .error e') : ∃ e, r = .error e ∧ f e = e' := by
  cases r with
  | error e => exact ⟨e, rfl, Except.error.inj h⟩
  | ok a => cases h

/-- A sequence fails with the first of its members that fails. -/
theorem mapM_error_iff {f : α → Except ε β} {l : List α} {e : ε} :
    l.mapM f = .error e ↔ ∃ before a after, l = before ++ a :: after ∧
      (∀ earlier ∈ before, ∃ b, f earlier = .ok b) ∧ f a = .error e := by
  constructor
  · intro h
    induction l with
    | nil => cases h
    | cons a rest ih =>
      rw [List.mapM_cons] at h
      rcases error_of_bind h with ha | ⟨b, hb, h⟩
      · exact ⟨[], a, rest, rfl, nofun, ha⟩
      · rcases error_of_bind h with hrest | ⟨_, -, h⟩
        · obtain ⟨before, a', after, rfl, hbefore, ha'⟩ := ih hrest
          exact ⟨a :: before, a', after, rfl, List.forall_mem_cons.mpr ⟨⟨b, hb⟩, hbefore⟩, ha'⟩
        · cases h
  · rintro ⟨before, a, after, rfl, hbefore, ha⟩
    induction before with
    | nil =>
      rw [List.nil_append, List.mapM_cons, ha]
      rfl
    | cons earlier before ih =>
      obtain ⟨⟨b, hb⟩, hothers⟩ := List.forall_mem_cons.mp hbefore
      rw [List.cons_append, List.mapM_cons, hb]
      show (List.mapM f (before ++ a :: after)).bind _ = _
      rw [ih hothers]
      rfl

end Reckon.Except
