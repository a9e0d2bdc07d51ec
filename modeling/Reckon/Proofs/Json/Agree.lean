import Reckon.Json.Basic

/-!
# `Proofs.Json.Agree` — documents that differ in the order of fields

An object is compared as the mapping that looking up its fields gives; the order in which the fields
stand does not count, at any depth. In everything else documents that agree are the same.
-/

namespace Reckon.Json

/-! ## Looking up fields -/

theorem lookup_cons_of_ne {β : Type} {name key : String} {item : β} {rest : List (String × β)}
    (h : name ≠ key) : ((key, item) :: rest).lookup name = rest.lookup name := by
  have hne : (name == key) = false := beq_false_of_ne h
  rw [List.lookup_cons, hne]

theorem mem_of_lookup {β : Type} {name : String} {item : β} {fields : List (String × β)}
    (h : fields.lookup name = some item) : (name, item) ∈ fields := by
  obtain ⟨before, after, rfl, -⟩ := List.lookup_eq_some_iff.mp h
  exact List.mem_append_right before List.mem_cons_self

theorem lookup_of_mem {β : Type} {name : String} {item : β} {fields : List (String × β)}
    (distinct : (fields.map (·.1)).Nodup) (h : (name, item) ∈ fields) :
    fields.lookup name = some item := by
  induction fields with
  | nil => cases h
  | cons field rest ih =>
    obtain ⟨key, item'⟩ := field
    obtain ⟨hfresh, hrest⟩ := List.nodup_cons.mp distinct
    rcases List.mem_cons.mp h with heq | hmem
    · cases heq
      exact List.lookup_cons_self
    · have hne : name ≠ key := by
        rintro rfl
        exact hfresh (List.mem_map.mpr ⟨_, hmem, rfl⟩)
      rw [lookup_cons_of_ne hne]
      exact ih hrest hmem

theorem lookup_map {β γ : Type} (f : β → γ) (name : String) (fields : List (String × β)) :
    (fields.map fun (name, item) => (name, f item)).lookup name = (fields.lookup name).map f := by
  induction fields with
  | nil => rfl
  | cons field rest ih =>
    obtain ⟨key, item⟩ := field
    by_cases h : name = key
    · subst h
      rw [List.map_cons, List.lookup_cons_self, List.lookup_cons_self]
      rfl
    · rw [List.map_cons, lookup_cons_of_ne h, lookup_cons_of_ne h, ih]

theorem field?_map_val (name : String) (fields : List (String × Json)) :
    (field? name fields).map (·.val) = fields.lookup name := by
  induction fields with
  | nil => rfl
  | cons field rest ih =>
    obtain ⟨key, item⟩ := field
    unfold field?
    by_cases h : name = key
    · subst h
      rw [if_pos BEq.rfl, List.lookup_cons_self]
      rfl
    · have hne : ¬ (key == name) = true := fun heq => h (beq_iff_eq.mp heq).symm
      rw [if_neg hne, lookup_cons_of_ne h, ← ih, Option.map_map]
      rfl

theorem sizeOf_lookup {name : String} {fields : List (String × Json)} {item : Json}
    (h : fields.lookup name = some item) : sizeOf item < sizeOf fields := by
  rw [← field?_map_val] at h
  obtain ⟨found, -, rfl⟩ := Option.map_eq_some_iff.mp h
  exact found.property

/-! ## Agreement -/

/-- The documents are the same, the order of fields aside. -/
inductive Agree : Json → Json → Prop where
  | same (d : Json) : Agree d d
  | cons {d d' : Json} {rest rest' : List Json} (first : Agree d d')
      (others : Agree (.list rest) (.list rest')) : Agree (.list (d :: rest)) (.list (d' :: rest'))
  | object {fields fields' : List (String × Json)}
      (names : ∀ name, (fields.lookup name).isSome = (fields'.lookup name).isSome)
      (each : ∀ name d d', fields.lookup name = some d → fields'.lookup name = some d' →
        Agree d d') :
      Agree (.object fields) (.object fields')

namespace Agree

theorem symm {d d' : Json} (h : Agree d d') : Agree d' d := by
  induction h with
  | same d => exact .same d
  | cons _ _ first others => exact .cons first others
  | object names _ ih =>
    exact .object (fun name => (names name).symm) fun name d d' hd hd' => ih name d' d hd' hd

/-- What one object has under a name the other has too. -/
theorem exists_lookup {fields fields' : List (String × Json)}
    (h : Agree (.object fields) (.object fields')) {name : String} {d : Json}
    (hd : fields.lookup name = some d) : ∃ d', fields'.lookup name = some d' ∧ Agree d d' := by
  cases h with
  | same => exact ⟨d, hd, .same d⟩
  | object names each =>
    obtain ⟨d', hd'⟩ : ∃ d', fields'.lookup name = some d' := by
      rw [← Option.isSome_iff_exists, ← names name, hd]
      rfl
    exact ⟨d', hd', each name d d' hd hd'⟩

theorem trans {d d' d'' : Json} (h : Agree d d') (h' : Agree d' d'') : Agree d d'' := by
  induction h generalizing d'' with
  | same d => exact h'
  | cons first others ihFirst ihOthers =>
    cases h' with
    | same => exact .cons first others
    | cons first' others' => exact .cons (ihFirst first') (ihOthers others')
  | @object fields fields' names each ih =>
    cases h' with
    | same => exact .object names each
    | object names' each' =>
      refine .object (fun name => (names name).trans (names' name)) ?_
      intro name a c ha hc
      obtain ⟨b, hb, -⟩ := (Agree.object names each).exists_lookup ha
      exact ih name a b ha hb (each' name b c hb hc)

theorem string_inj {s s' : String} (h : Agree (.string s) (.string s')) : s = s' := by
  cases h
  rfl

/-- Objects agree if both look up nothing, or documents that agree, under each name. -/
theorem object_of_lookup {fields fields' : List (String × Json)}
    (h : ∀ name, (fields.lookup name = none ∧ fields'.lookup name = none) ∨
      ∃ d d', fields.lookup name = some d ∧ fields'.lookup name = some d' ∧ Agree d d') :
    Agree (.object fields) (.object fields') := by
  refine .object ?_ ?_
  · intro name
    rcases h name with ⟨h, h'⟩ | ⟨d, d', h, h', -⟩
    · rw [h, h']
    · rw [h, h']
      rfl
  · intro name d d' hd hd'
    rcases h name with ⟨h, -⟩ | ⟨a, a', h, h', hagree⟩
    · cases h.symm.trans hd
    · cases h.symm.trans hd
      cases h'.symm.trans hd'
      exact hagree

/-- Fields with distinct names may stand in any order. -/
theorem of_perm {fields fields' : List (String × Json)} (h : fields.Perm fields')
    (distinct : (fields.map (·.1)).Nodup) : Agree (.object fields) (.object fields') := by
  have distinct' : (fields'.map (·.1)).Nodup := (h.map _).nodup_iff.mp distinct
  apply object_of_lookup
  intro name
  cases hd : fields.lookup name with
  | some d =>
    have hmem : (name, d) ∈ fields' := h.mem_iff.mp (mem_of_lookup hd)
    exact .inr ⟨d, d, rfl, lookup_of_mem distinct' hmem, .same d⟩
  | none =>
    cases hd' : fields'.lookup name with
    | none => exact .inl ⟨rfl, rfl⟩
    | some d =>
      have hmem : (name, d) ∈ fields := h.mem_iff.mpr (mem_of_lookup hd')
      rw [lookup_of_mem distinct hmem] at hd
      cases hd

theorem of_list_cons {d d' : Json} {rest rest' : List Json}
    (h : Agree (.list (d :: rest)) (.list (d' :: rest'))) :
    Agree d d' ∧ Agree (.list rest) (.list rest') := by
  cases h with
  | same => exact ⟨.same d, .same _⟩
  | cons first others => exact ⟨first, others⟩

theorem of_singleton {name name' : String} {d d' : Json}
    (h : Agree (.object [(name, d)]) (.object [(name', d')])) : name = name' ∧ Agree d d' := by
  obtain ⟨found, hfound, hagree⟩ := h.exists_lookup List.lookup_cons_self
  by_cases hname : name = name'
  · subst hname
    rw [List.lookup_cons_self] at hfound
    cases hfound
    exact ⟨rfl, hagree⟩
  · rw [lookup_cons_of_ne hname] at hfound
    cases hfound

end Agree

end Reckon.Json
