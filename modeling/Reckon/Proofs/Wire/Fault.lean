import Reckon.Proofs.Wire.Node

/-!
# `Proofs.Wire.Fault` — the first fault of a document

Reading stops at the first fault. What is read of a node are its parts, one after the other in the order
of `roles` (`Expr.map_parts`), so a node is refused for the first of its fields that is missing or does
not hold its part; items are refused for the first of them that is refused.

`Fault` says what is wrong with a document itself, `Comes` that reading comes to such a document. The main
statement is that every error is the fault of a document that reading comes to (`comes_of_readPart`).
-/

namespace Reckon

namespace Wire

/-- A part read from the document in its field. What stands under `operator` is an operator's symbol. -/
def readPart (name : String) : Role → Json → Except WireError Part
  | .text, d =>
    if name = "operator" then (Expr.operatorOf? d).map fun op => .text op.symbol
    else (Expr.stringOf? d).map .text
  | .value, d => (Value.ofJson? d).map .value
  | .node, d => (Expr.ofJson? d).map .node
  | .nodes, d => (Expr.listOf? d).bind fun items => (Expr.allOfJson? items.val).map .nodes

/-- The parts of a node read one after the other. -/
def readParts (type : String) (fields : List (String × Json)) :
    List (String × Role) → Except WireError (List (String × Part))
  | [] => .ok []
  | (name, role) :: rest =>
    match fields.lookup name with
    | none => .error (.missingField name type)
    | some d =>
      (readPart name role d).bind fun part =>
        (readParts type fields rest).map fun parts => (name, part) :: parts

/-- The field is there and holds its part. -/
def Holds (fields : List (String × Json)) (field : String × Role) : Prop :=
  ∃ d part, fields.lookup field.1 = some d ∧ readPart field.1 field.2 d = .ok part

/-- The field is missing or does not hold its part. -/
def Lacks (type : String) (fields : List (String × Json)) (field : String × Role) (e : WireError) :
    Prop :=
  (fields.lookup field.1 = none ∧ e = .missingField field.1 type) ∨
    ∃ d, fields.lookup field.1 = some d ∧ readPart field.1 field.2 d = .error e

section Parts

variable {type : String} {fields : List (String × Json)} {e : WireError}

theorem readParts_of_holds {field : String × Role} {rest : List (String × Role)}
    (h : Holds fields field) :
    readParts type fields (field :: rest) = .error e ↔ readParts type fields rest = .error e := by
  obtain ⟨d, part, hd, hpart⟩ := h
  rw [readParts, hd]
  dsimp only
  rw [hpart]
  show (readParts type fields rest).map _ = .error e ↔ _
  cases readParts type fields rest with
  | ok parts => exact ⟨nofun, nofun⟩
  | error e' => exact Iff.rfl

theorem readParts_of_lacks {field : String × Role} {rest : List (String × Role)}
    (h : Lacks type fields field e) : readParts type fields (field :: rest) = .error e := by
  rw [readParts]
  rcases h with ⟨hd, rfl⟩ | ⟨d, hd, hpart⟩
  · rw [hd]
  · rw [hd]
    dsimp only
    rw [hpart]
    rfl

theorem holds_or_lacks (type : String) (fields : List (String × Json)) (field : String × Role) :
    Holds fields field ∨ ∃ e, Lacks type fields field e := by
  cases hd : fields.lookup field.1 with
  | none => exact .inr ⟨_, .inl ⟨hd, rfl⟩⟩
  | some d =>
    cases hpart : readPart field.1 field.2 d with
    | ok part => exact .inl ⟨d, part, hd, hpart⟩
    | error e => exact .inr ⟨e, .inr ⟨d, hd, hpart⟩⟩

theorem readParts_error_iff {known : List (String × Role)} :
    readParts type fields known = .error e ↔
      ∃ before field after, known = before ++ field :: after ∧
        (∀ earlier ∈ before, Holds fields earlier) ∧ Lacks type fields field e := by
  constructor
  · intro h
    induction known with
    | nil => cases h
    | cons field rest ih =>
      rcases holds_or_lacks type fields field with hholds | ⟨e', hlacks⟩
      · obtain ⟨before, other, after, rfl, hbefore, hlacks⟩ := ih ((readParts_of_holds hholds).mp h)
        exact ⟨field :: before, other, after, rfl, List.forall_mem_cons.mpr ⟨hholds, hbefore⟩, hlacks⟩
      · cases (readParts_of_lacks hlacks).symm.trans h
        exact ⟨[], field, rest, rfl, nofun, hlacks⟩
  · rintro ⟨before, field, after, rfl, hbefore, hlacks⟩
    induction before with
    | nil => exact readParts_of_lacks hlacks
    | cons earlier before ih =>
      obtain ⟨hholds, hothers⟩ := List.forall_mem_cons.mp hbefore
      exact (readParts_of_holds hholds).mpr (ih hothers)

end Parts

end Wire

open Wire

namespace Expr

/-! ## Nodes -/

section Node

variable {α : Type} {node name : String} {role : Role} {fields : List (String × Json)}
  {rest : List (String × Role)} {prepend : List (String × Part) → List (String × Part)}

/-- A field is there, and found under its name, or it is not. -/
theorem require_cases (node name : String) (fields : List (String × Json)) :
    (fields.lookup name = none ∧ require node name fields = .error (.missingField name node)) ∨
      ∃ found, fields.lookup name = some found.val ∧ require node name fields = .ok found := by
  rw [← Json.field?_map_val]
  unfold require
  cases Json.field? name fields with
  | none => exact .inl ⟨rfl, rfl⟩
  | some found => exact .inr ⟨found, rfl, rfl⟩

/-- Reading a field, and then the others, reads its part, and then theirs. -/
theorem map_parts_field {reader : Json → Except WireError α} {part : α → Part}
    {next : α → Except WireError Expr} (hpart : ∀ d, readPart name role d = (reader d).map part)
    (hnext : ∀ a, (next a).map parts =
      (readParts node fields rest).map fun others => prepend ((name, part a) :: others)) :
    ((require node name fields).bind fun d => (reader d.val).bind next).map parts =
      (readParts node fields ((name, role) :: rest)).map prepend := by
  rw [readParts]
  rcases require_cases node name fields with ⟨hlookup, hfound⟩ | ⟨found, hlookup, hfound⟩
  · rw [hlookup, hfound]
    rfl
  · rw [hlookup, hfound]
    dsimp only
    rw [hpart]
    show ((reader found.val).bind next).map parts = _
    cases reader found.val with
    | error e => rfl
    | ok a =>
      refine (hnext a).trans ?_
      show _ = Except.map prepend ((readParts node fields rest).map _)
      cases readParts node fields rest <;> rfl

theorem map_parts_nodes {next : List Expr → Except WireError Expr}
    (hnext : ∀ es, (next es).map parts =
      (readParts node fields rest).map fun others => prepend ((name, .nodes es) :: others)) :
    ((require node name fields).bind fun d =>
        (listOf? d.val).bind fun items => (allOfJson? items.val).bind next).map parts =
      (readParts node fields ((name, .nodes) :: rest)).map prepend := by
  have hjoined : (fun d : { item : Json // sizeOf item < sizeOf fields } =>
      (listOf? d.val).bind fun items => (allOfJson? items.val).bind next) =
      fun d => ((listOf? d.val).bind fun items => allOfJson? items.val).bind next := by
    funext d
    cases listOf? d.val <;> rfl
  have hpart : ∀ d, readPart name .nodes d =
      ((listOf? d).bind fun items => allOfJson? items.val).map .nodes := by
    intro d
    rw [readPart]
    cases listOf? d <;> rfl
  rw [hjoined]
  exact map_parts_field hpart hnext

theorem map_parts {type : String} (htype : fields.lookup "type" = some (.string type))
    (known : roles type ≠ []) :
    (ofJson? (.object fields)).map parts = readParts type fields (roles type) := by
  have hfirst : ∀ rest, readParts type fields (("type", .text) :: rest) =
      (readParts type fields rest).map fun others => ("type", .text type) :: others := by
    intro rest
    rw [readParts, htype]
    rfl
  rw [ofJson?.eq_def]
  dsimp only
  split
  · next h => cases h.symm.trans htype
  · next h =>
    cases h.symm.trans htype
    exact (map_parts_field (fun _ => rfl) fun _ => rfl).trans (hfirst _).symm
  · next h =>
    cases h.symm.trans htype
    exact (map_parts_field (fun _ => rfl) fun _ => rfl).trans (hfirst _).symm
  · next h =>
    cases h.symm.trans htype
    exact (map_parts_field (fun _ => rfl) fun _ => map_parts_nodes fun _ => rfl).trans (hfirst _).symm
  · next h =>
    cases h.symm.trans htype
    refine Eq.trans ?_ (hfirst _).symm
    refine map_parts_field (fun _ => rfl) fun _ => ?_
    exact map_parts_field (fun _ => rfl) fun _ => rfl
  · next h =>
    cases h.symm.trans htype
    refine Eq.trans ?_ (hfirst _).symm
    refine map_parts_field (fun _ => rfl) fun _ => ?_
    refine map_parts_field (fun _ => rfl) fun _ => ?_
    exact map_parts_field (fun _ => rfl) fun _ => rfl
  · next h =>
    cases h.symm.trans htype
    exact (map_parts_nodes fun _ => rfl).trans (hfirst _).symm
  · next h =>
    cases h.symm.trans htype
    refine Eq.trans ?_ (hfirst _).symm
    refine map_parts_field (fun _ => rfl) fun _ => ?_
    refine map_parts_field (fun _ => rfl) fun _ => ?_
    refine map_parts_field (fun _ => rfl) fun _ => ?_
    exact map_parts_field (fun _ => rfl) fun _ => rfl
  · next hliteral hvariable hcall hunary hbinary harray hternary h =>
    cases h.symm.trans htype
    refine absurd ?_ known
    unfold roles
    split <;> simp_all

end Node

theorem allOfJson?_eq_mapM (items : List Json) : allOfJson? items = items.mapM ofJson? := by
  induction items with
  | nil => exact allOfJson?_nil
  | cons item rest ih => rw [allOfJson?, List.mapM_cons, ih]

theorem ofJson?_of_unknown {fields : List (String × Json)} {found : Json}
    (hfound : fields.lookup "type" = some found)
    (unknown : ∀ type, found = .string type → roles type = []) :
    ofJson? (.object fields) = .error (.unknownType found) := by
  rw [ofJson?.eq_def]
  dsimp only
  split
  · next h => cases h.symm.trans hfound
  case h_9 h =>
    cases h.symm.trans hfound
    rfl
  all_goals
    next h =>
      cases h.symm.trans hfound
      exact absurd (unknown _ rfl) (by simp [roles])

theorem readPart_nodes (name : String) (items : List Json) :
    readPart name .nodes (.list items) = (items.mapM ofJson?).map .nodes := by
  rw [readPart, ← allOfJson?_eq_mapM]
  rfl

/-- An object is refused for what stands under its type, or for the first of its fields that is. -/
theorem ofJson?_error_cases {d : Json} {e : WireError} (h : ofJson? d = .error e) :
    e = .notAnObject d ∨ e = .unknownType .null ∨ ∃ fields, d = .object fields ∧
      ∃ found, fields.lookup "type" = some found ∧
        (e = .unknownType found ∨ ∃ type, found = .string type ∧ roles type ≠ [] ∧
          readParts type fields (roles type) = .error e) := by
  cases d with
  | object fields =>
    refine .inr ?_
    cases hfound : fields.lookup "type" with
    | none =>
      rw [ofJson?, hfound] at h
      cases h
      exact .inl rfl
    | some found =>
      refine .inr ⟨fields, rfl, found, hfound, ?_⟩
      by_cases hknown : ∃ type, found = .string type ∧ roles type ≠ []
      · obtain ⟨type, rfl, known⟩ := hknown
        have hparts := map_parts hfound known
        rw [h] at hparts
        exact .inr ⟨type, rfl, known, hparts.symm⟩
      · have hunknown : ∀ type, found = .string type → roles type = [] := by
          intro type htype
          by_cases hnil : roles type = []
          · exact hnil
          · exact absurd ⟨type, htype, hnil⟩ hknown
        rw [ofJson?_of_unknown hfound hunknown] at h
        cases h
        exact .inl rfl
  | _ =>
    rw [ofJson?.eq_def] at h
    cases h
    exact .inl rfl

theorem ofJson?_of_readParts_error {fields : List (String × Json)} {type : String} {e : WireError}
    (htype : fields.lookup "type" = some (.string type)) (known : roles type ≠ [])
    (h : readParts type fields (roles type) = .error e) : ofJson? (.object fields) = .error e := by
  rw [← map_parts htype known] at h
  exact Except.error_of_map h

end Expr

/-! ## Values -/

namespace Value

theorem itemsOfJson?_eq_mapM (items : List Json) : itemsOfJson? items = items.mapM ofJson? := by
  induction items with
  | nil => rfl
  | cons item rest ih =>
    rw [itemsOfJson?, List.mapM_cons, ih]
    show _ = (ofJson? item).bind _
    cases ofJson? item with
    | error e => rfl
    | ok value => cases rest.mapM ofJson? <;> rfl

theorem ofJson?_array (items : List Json) :
    ofJson? (.object [("array", .list items)]) = (items.mapM ofJson?).map array := by
  rw [ofJson?, ← itemsOfJson?_eq_mapM]
  cases itemsOfJson? items <;> rfl

/-- A document is refused as a whole, or as a whole number that is too large, or for one of its items. -/
theorem ofJson?_error_cases {d : Json} {e : WireError} (h : ofJson? d = .error e) :
    e = .notOneField d ∨ e = .invalidValue d ∨
      (∃ n, d = .object [("number", .integer n)] ∧ Number.ofInt? n = none ∧ e = .integerTooLarge) ∨
      ∃ items, d = .object [("array", .list items)] ∧ items.mapM ofJson? = .error e := by
  rw [ofJson?.eq_def] at h
  split at h
  · split at h
    · cases h
    · split at h
      · cases h
      · next hn =>
        cases h
        exact .inr (.inr (.inl ⟨_, rfl, hn, rfl⟩))
    · cases h
    · cases h
    · next items =>
      rw [itemsOfJson?_eq_mapM] at h
      split at h
      · cases h
      · next hitems =>
        cases h
        exact .inr (.inr (.inr ⟨items, rfl, hitems⟩))
    · cases h
      exact .inr (.inl rfl)
  · cases h
    exact .inl rfl

end Value

/-! ## The first fault -/

namespace Wire

theorem readPart_text_error {name : String} {d : Json} {e : WireError}
    (h : readPart name .text d = .error e) : e = .unknownOperator d ∨ e = .notAString d := by
  rw [readPart] at h
  split at h
  · have hread := Except.error_of_map h
    unfold Expr.operatorOf? at hread
    split at hread
    · split at hread <;> cases hread
      exact .inl rfl
    · cases hread
      exact .inl rfl
  · have hread := Except.error_of_map h
    unfold Expr.stringOf? at hread
    split at hread <;> cases hread
    exact .inr rfl

/-- What is wrong with a document itself, which is to hold a part. -/
inductive Fault : WireError → Role → Json → Prop where
  | integerTooLarge {n : Int} (far : Number.ofInt? n = none) :
      Fault .integerTooLarge .value (.object [("number", .integer n)])
  | text {d : Json} {e : WireError} (h : e = .unknownOperator d ∨ e = .notAString d) :
      Fault e .text d
  | value {d : Json} {e : WireError} (h : e = .notOneField d ∨ e = .invalidValue d) :
      Fault e .value d
  | notAnObject (d : Json) : Fault (.notAnObject d) .node d
  | untyped (d : Json) : Fault (.unknownType .null) .node d
  | unknownType {fields : List (String × Json)} {found : Json}
      (h : fields.lookup "type" = some found) : Fault (.unknownType found) .node (.object fields)
  | missingField {fields : List (String × Json)} {name type : String}
      (h : fields.lookup name = none) : Fault (.missingField name type) .node (.object fields)
  | notAList (d : Json) : Fault (.notAList d) .nodes d

/-- Reading comes to a document with the fault; all that is read earlier is as it should be. -/
inductive Comes (e : WireError) : Role → Json → Prop where
  | here {role : Role} {d : Json} (fault : Fault e role d) : Comes e role d
  | item {before after : List Json} {item : Json}
      (earlier : ∀ d ∈ before, ∃ v, Value.ofJson? d = .ok v) (later : Comes e .value item) :
      Comes e .value (.object [("array", .list (before ++ item :: after))])
  | field {fields : List (String × Json)} {type name : String} {role : Role}
      {before after : List (String × Role)} {d : Json}
      (named : fields.lookup "type" = some (.string type))
      (split : roles type = before ++ (name, role) :: after)
      (earlier : ∀ field ∈ before, Holds fields field) (there : fields.lookup name = some d)
      (later : Comes e role d) : Comes e .node (.object fields)
  | node {before after : List Json} {item : Json}
      (earlier : ∀ d ∈ before, ∃ e, Expr.ofJson? d = .ok e) (later : Comes e .node item) :
      Comes e .nodes (.list (before ++ item :: after))

theorem sizeOf_item {item : Json} {items : List Json} (h : item ∈ items) :
    sizeOf item < sizeOf (Json.list items) := by
  have := List.sizeOf_lt_of_mem h
  simp only [Json.list.sizeOf_spec]
  omega

theorem comes_of_readPart {e : WireError} (name : String) (role : Role) (d : Json)
    (h : readPart name role d = .error e) : Comes e role d := by
  cases role with
  | text => exact .here (.text (readPart_text_error h))
  | value =>
    rcases Value.ofJson?_error_cases (Except.error_of_map h) with
      h | h | ⟨n, rfl, hn, rfl⟩ | ⟨items, hd, hitems⟩
    · exact .here (.value (.inl h))
    · exact .here (.value (.inr h))
    · exact .here (.integerTooLarge hn)
    · obtain ⟨before, item, after, hsplit, hbefore, hitem⟩ := Except.mapM_error_iff.mp hitems
      have hsize : sizeOf item < sizeOf d := by
        have := sizeOf_item (hsplit ▸ List.mem_append_right before List.mem_cons_self)
        rw [hd]
        simp only [Json.object.sizeOf_spec, List.cons.sizeOf_spec, Prod.mk.sizeOf_spec]
        omega
      have hread : readPart name .value item = .error e := by
        rw [readPart, hitem]
        rfl
      rw [hd, hsplit]
      exact .item hbefore (comes_of_readPart name .value item hread)
  | node =>
    rcases Expr.ofJson?_error_cases (Except.error_of_map h) with
      rfl | rfl | ⟨fields, hd, found, hfound, rfl | ⟨type, rfl, -, hparts⟩⟩
    · exact .here (.notAnObject d)
    · exact .here (.untyped d)
    · exact hd ▸ .here (.unknownType hfound)
    · obtain ⟨before, ⟨inner, role⟩, after, hsplit, hbefore, hlacks⟩ :=
        readParts_error_iff.mp hparts
      rcases hlacks with ⟨hmissing, rfl⟩ | ⟨item, hitem, hread⟩
      · exact hd ▸ .here (.missingField hmissing)
      · have hsize : sizeOf item < sizeOf d := by
          have := Json.sizeOf_lookup hitem
          rw [hd, Json.object.sizeOf_spec]
          omega
        rw [hd]
        exact .field hfound hsplit hbefore hitem (comes_of_readPart inner role item hread)
  | nodes =>
    cases d with
    | list items =>
      rw [Expr.readPart_nodes] at h
      obtain ⟨before, item, after, hsplit, hbefore, hitem⟩ :=
        Except.mapM_error_iff.mp (Except.error_of_map h)
      have hsize := sizeOf_item (hsplit ▸ List.mem_append_right before List.mem_cons_self)
      have hread : readPart name .node item = .error e := by
        rw [readPart, hitem]
        rfl
      rw [hsplit]
      exact .node hbefore (comes_of_readPart name .node item hread)
    | _ =>
      cases h
      exact .here (.notAList _)
termination_by sizeOf d

/-- A whole number that is too large is reported by no other error, if reading comes to it. -/
theorem readPart_of_comes {role : Role} {d : Json} (h : Comes .integerTooLarge role d)
    (name : String) : readPart name role d = .error .integerTooLarge := by
  induction h generalizing name with
  | here fault =>
    cases fault with
    | integerTooLarge far =>
      rw [readPart, Value.ofJson?, far]
      rfl
    | text h => rcases h with h | h <;> cases h
    | value h => rcases h with h | h <;> cases h
  | item earlier later ih =>
    have hitem : Value.ofJson? _ = .error .integerTooLarge := Except.error_of_map (ih name)
    rw [readPart, Value.ofJson?_array,
      Except.mapM_error_iff.mpr ⟨_, _, _, rfl, earlier, hitem⟩]
    rfl
  | @field fields type name' role before after d named split earlier there later ih =>
    have hlacks : Lacks type fields (name', role) .integerTooLarge := .inr ⟨d, there, ih name'⟩
    have hparts : readParts type fields (roles type) = .error .integerTooLarge :=
      readParts_error_iff.mpr ⟨before, (name', role), after, split, earlier, hlacks⟩
    rw [readPart, Expr.ofJson?_of_readParts_error named (by simp [split]) hparts]
    rfl
  | node earlier later ih =>
    have hitem : Expr.ofJson? _ = .error .integerTooLarge := Except.error_of_map (ih name)
    rw [Expr.readPart_nodes, Except.mapM_error_iff.mpr ⟨_, _, _, rfl, earlier, hitem⟩]
    rfl

end Wire

end Reckon
