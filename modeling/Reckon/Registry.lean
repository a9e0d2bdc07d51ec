/-!
# `Registry` — entries under text keys

A key has one entry at most, the last that was registered. Listings are in the order of keys.
-/

namespace Reckon

/-- Entries under text keys, each key once. -/
structure Registry (α : Type) where
  entries : List (String × α)

namespace Registry

variable {α : Type}

/-- No entries. -/
def empty : Registry α := ⟨[]⟩

/-- The entry under a key. -/
def get? (r : Registry α) (key : String) : Option α :=
  (r.entries.find? (·.1 == key)).map (·.2)

/-- Without the entry under a key. -/
def erase (r : Registry α) (key : String) : Registry α :=
  ⟨r.entries.filter (·.1 != key)⟩

/-- With an entry under a key, in place of one that is there. -/
def insert (r : Registry α) (key : String) (entry : α) : Registry α :=
  ⟨(key, entry) :: (r.erase key).entries⟩

/-- The keys in order. -/
def keys (r : Registry α) : List String :=
  (r.entries.map (·.1)).mergeSort fun a b => a ≤ b

/-- The entries in any order. -/
def values (r : Registry α) : List α :=
  r.entries.map (·.2)

@[simp] theorem get?_empty (key : String) : (empty : Registry α).get? key = none := rfl

@[simp] theorem get?_erase (r : Registry α) (key other : String) :
    (r.erase key).get? other = if other = key then none else r.get? other := by
  simp only [get?, erase, List.find?_filter]
  by_cases h : other = key
  · subst h
    simp
  · have : (fun entry : String × α => decide ((entry.1 != key) = true ∧ (entry.1 == other) = true)) =
        fun entry => entry.1 == other := by
      funext entry
      by_cases he : entry.1 = other <;> simp [he, h]
    rw [if_neg h, this]

@[simp] theorem get?_insert (r : Registry α) (key other : String) (entry : α) :
    (r.insert key entry).get? other = if other = key then some entry else r.get? other := by
  have := r.get?_erase key other
  simp only [get?, insert] at this ⊢
  by_cases h : key = other
  · simp [h]
  · have h' : ¬ other = key := fun e => h e.symm
    simp only [List.find?_cons, beq_eq_false_iff_ne.2 h, this, h', if_false]

end Registry

end Reckon
