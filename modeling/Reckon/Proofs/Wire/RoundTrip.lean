import Reckon.Proofs.Wire.Node

/-!
# `Proofs.Wire.RoundTrip` — the wire form keeps expressions whole

Reading undoes writing. Writing undoes reading up to what reading does not look at: fields that a node
does not have, the order of fields, and whether a number was written as a whole number (`tidy`, `Agree`).
A value's document has one field only, so there nothing but whole numbers changes.
-/

namespace Reckon

open Wire

/-! ## Values -/

namespace Value

mutual

theorem ofJson?_toJson : ∀ v : Value, ofJson? v.toJson = .ok v
  | boolean _ | number _ | string _ => by rfl
  | array items => by
    rw [toJson, ofJson?, itemsOfJson?_itemsToJson items]

theorem itemsOfJson?_itemsToJson : ∀ vs : List Value, itemsOfJson? (itemsToJson vs) = .ok vs
  | [] => by rfl
  | v :: rest => by
    rw [itemsToJson, itemsOfJson?, ofJson?_toJson v]
    dsimp only
    rw [itemsOfJson?_itemsToJson rest]

end

mutual

/-- Writing a value that was read gives its document tidied. -/
theorem toJson_of_ofJson? {d : Json} {v : Value} (h : ofJson? d = .ok v) :
    v.toJson = tidyValue d := by
  rw [ofJson?.eq_def] at h
  split at h
  · split at h
    · cases h
      rfl
    · split at h
      · next hn =>
        cases h
        rw [tidyValue, hn, toJson]
      · cases h
    · cases h
      rfl
    · cases h
      rfl
    · next items =>
      split at h
      · next values hvalues =>
        cases h
        rw [toJson, tidyValue, itemsToJson_of_itemsOfJson? hvalues]
      · cases h
    · cases h
  · cases h
termination_by sizeOf d

theorem itemsToJson_of_itemsOfJson? {ds : List Json} {vs : List Value}
    (h : itemsOfJson? ds = .ok vs) : itemsToJson vs = tidyValues ds := by
  rw [itemsOfJson?.eq_def] at h
  split at h
  · cases h
    rfl
  · split at h
    · cases h
    · next hvalue =>
      split at h
      · cases h
      · next hvalues =>
        cases h
        rw [itemsToJson, tidyValues, toJson_of_ofJson? hvalue, itemsToJson_of_itemsOfJson? hvalues]
termination_by sizeOf ds

end

mutual

/-- Values whose documents agree are the same. -/
theorem eq_of_toJson_agree : ∀ {v v' : Value}, v.toJson.Agree v'.toJson → v = v'
  | boolean b, v', h => by
    cases v' with
    | boolean b' =>
      cases (Json.Agree.of_singleton h).2
      rfl
    | _ => exact absurd (Json.Agree.of_singleton h).1 (by decide)
  | number x, v', h => by
    cases v' with
    | number x' =>
      cases (Json.Agree.of_singleton h).2
      rfl
    | _ => exact absurd (Json.Agree.of_singleton h).1 (by decide)
  | string s, v', h => by
    cases v' with
    | string s' =>
      cases (Json.Agree.of_singleton h).2
      rfl
    | _ => exact absurd (Json.Agree.of_singleton h).1 (by decide)
  | array items, v', h => by
    cases v' with
    | array items' => rw [eq_of_itemsToJson_agree (Json.Agree.of_singleton h).2]
    | _ => exact absurd (Json.Agree.of_singleton h).1 (by decide)

theorem eq_of_itemsToJson_agree : ∀ {vs vs' : List Value},
    (Json.list (itemsToJson vs)).Agree (.list (itemsToJson vs')) → vs = vs'
  | [], [], _ => rfl
  | [], _ :: _, h => by cases h
  | _ :: _, [], h => by cases h
  | v :: rest, v' :: rest', h => by
    obtain ⟨hfirst, hothers⟩ := Json.Agree.of_list_cons h
    rw [eq_of_toJson_agree hfirst, eq_of_itemsToJson_agree hothers]

end

end Value

/-! ## Expressions -/

namespace Expr

mutual

theorem ofJson?_toJson (e : Expr) : ofJson? e.toJson = .ok e := by
  rw [toJson_eq]
  apply ofJson?_of_held
  intro name part hpart
  refine ⟨part.toJson, ?_, ?_⟩
  · rw [Json.lookup_map, hpart]
    rfl
  · cases part with
    | text s => exact rfl
    | value v => exact Value.ofJson?_toJson v
    | node e' =>
      have := sizeOf_node hpart
      exact ofJson?_toJson e'
    | nodes es =>
      have := sizeOf_nodes hpart
      exact ⟨_, rfl, allOfJson?_allToJson es⟩
termination_by sizeOf e

theorem allOfJson?_allToJson (es : List Expr) : allOfJson? (allToJson es) = .ok es := by
  cases es with
  | nil => exact allOfJson?_nil
  | cons e rest =>
    exact allOfJson?_cons_iff.mpr ⟨e, rest, rfl, ofJson?_toJson e, allOfJson?_allToJson rest⟩
termination_by sizeOf es

end

/-- One step: a node agrees with its document tidied if its parts do. -/
theorem object_agree {fields : List (String × Json)} {e : Expr} (h : Held fields e.parts)
    (hparts : ∀ name part d, e.parts.lookup name = some part → fields.lookup name = some d →
      part.ReadFrom d → part.toJson.Agree (tidyAs part.role d)) :
    e.toJson.Agree (tidy (.object fields)) := by
  obtain ⟨type, htype, hread⟩ := h "type" (.text e.nodeType) List.lookup_cons_self
  have htypeOf : typeOf fields = e.nodeType := by
    unfold typeOf
    rw [htype, hread]
  rw [toJson_eq, tidy, htypeOf, roles_nodeType]
  apply Json.Agree.object_of_lookup
  intro name
  rw [Json.lookup_map, lookup_tidyFields, Json.lookup_map]
  cases hpart : e.parts.lookup name with
  | none => exact .inl ⟨rfl, rfl⟩
  | some part =>
    obtain ⟨d, hd, hread⟩ := h name part hpart
    rw [hd]
    exact .inr ⟨part.toJson, tidyAs part.role d, rfl, rfl, hparts name part d hpart hd hread⟩

mutual

/-- Writing an expression that was read gives its document tidied, the order of fields aside. -/
theorem toJson_agree_tidy : ∀ {d : Json} {e : Expr}, ofJson? d = .ok e → e.toJson.Agree (tidy d)
  | .object fields, e, h => by
    apply object_agree (held_of_ofJson? h)
    intro name part d hpart hd hread
    have hsize := Json.sizeOf_lookup hd
    cases part with
    | text s =>
      cases hread
      exact .same _
    | value v =>
      rw [Part.toJson, Value.toJson_of_ofJson? hread]
      exact .same _
    | node e' => exact toJson_agree_tidy hread
    | nodes es =>
      obtain ⟨items, rfl, hes⟩ := hread
      exact allToJson_agree_tidyAll hes
  | .null, e, h | .boolean _, e, h | .integer _, e, h | .real _, e, h | .string _, e, h
  | .list _, e, h => by
    rw [ofJson?.eq_def] at h
    cases h
termination_by d => sizeOf d
decreasing_by all_goals simp at *; omega

theorem allToJson_agree_tidyAll : ∀ {ds : List Json} {es : List Expr}, allOfJson? ds = .ok es →
    (Json.list (allToJson es)).Agree (.list (tidyAll ds))
  | [], es, h => by
    rw [allOfJson?_nil] at h
    cases h
    exact .same _
  | d :: rest, es, h => by
    obtain ⟨e, others, rfl, he, hothers⟩ := allOfJson?_cons_iff.mp h
    exact .cons (toJson_agree_tidy he) (allToJson_agree_tidyAll hothers)
termination_by ds => sizeOf ds
decreasing_by all_goals simp <;> omega

end

theorem readFrom_toJson (part : Part) : part.ReadFrom part.toJson := by
  cases part with
  | text s => exact rfl
  | value v => exact Value.ofJson?_toJson v
  | node e => exact ofJson?_toJson e
  | nodes es => exact ⟨_, rfl, allOfJson?_allToJson es⟩

/-- A node is known by its parts. -/
theorem eq_of_lookup_parts {e e' : Expr}
    (h : ∀ name part, e.parts.lookup name = some part → e'.parts.lookup name = some part) :
    e = e' := by
  have hread : ofJson? e'.toJson = .ok e := by
    rw [toJson_eq]
    apply ofJson?_of_held
    intro name part hpart
    refine ⟨part.toJson, ?_, readFrom_toJson part⟩
    rw [Json.lookup_map, h name part hpart]
    rfl
  rw [ofJson?_toJson] at hread
  exact (Except.ok.inj hread).symm

/-- One step: nodes whose documents agree are the same if their parts are. -/
theorem eq_of_parts_agree {e e' : Expr} (h : e.toJson.Agree e'.toJson)
    (hparts : ∀ name part part', e.parts.lookup name = some part →
      part.role = part'.role → part.toJson.Agree part'.toJson → part = part') :
    e = e' := by
  rw [toJson_eq, toJson_eq] at h
  have hpair : ∀ name part, e.parts.lookup name = some part →
      ∃ part', e'.parts.lookup name = some part' ∧ part.toJson.Agree part'.toJson := by
    intro name part hpart
    have hd := (Json.lookup_map Part.toJson name e.parts).trans (congrArg _ hpart)
    obtain ⟨d', hd', hagree⟩ := h.exists_lookup hd
    rw [Json.lookup_map] at hd'
    obtain ⟨part', hpart', rfl⟩ := Option.map_eq_some_iff.mp hd'
    exact ⟨part', hpart', hagree⟩
  have htype : e.nodeType = e'.nodeType := by
    obtain ⟨part', hpart', hagree⟩ := hpair "type" (.text e.nodeType) List.lookup_cons_self
    cases hpart'
    exact hagree.string_inj
  apply eq_of_lookup_parts
  intro name part hpart
  obtain ⟨part', hpart', hagree⟩ := hpair name part hpart
  -- nodes of one type have parts of one role under each name
  have hrole : (roles e.nodeType).lookup name = (roles e'.nodeType).lookup name := by rw [htype]
  rw [roles_nodeType, roles_nodeType, Json.lookup_map, Json.lookup_map, hpart, hpart'] at hrole
  rw [hparts name part part' hpart (Option.some.inj hrole) hagree, hpart']

mutual

/-- Expressions whose documents agree are the same. -/
theorem eq_of_toJson_agree (e : Expr) {e' : Expr} (h : e.toJson.Agree e'.toJson) : e = e' := by
  apply eq_of_parts_agree h
  intro name part part' hpart hrole hagree
  cases part with
  | text s =>
    cases part' with
    | text s' => rw [hagree.string_inj]
    | _ => cases hrole
  | value v =>
    cases part' with
    | value v' => rw [Value.eq_of_toJson_agree hagree]
    | _ => cases hrole
  | node x =>
    have hsize := sizeOf_node hpart
    cases part' with
    | node x' => rw [eq_of_toJson_agree x hagree]
    | _ => cases hrole
  | nodes xs =>
    have hsize := sizeOf_nodes hpart
    cases part' with
    | nodes xs' => rw [eq_of_allToJson_agree xs hagree]
    | _ => cases hrole
termination_by sizeOf e

theorem eq_of_allToJson_agree (es : List Expr) {es' : List Expr}
    (h : (Json.list (allToJson es)).Agree (.list (allToJson es'))) : es = es' := by
  cases es with
  | nil =>
    cases es' with
    | nil => rfl
    | cons e' rest' => cases h
  | cons e rest =>
    cases es' with
    | nil => cases h
    | cons e' rest' =>
      obtain ⟨hfirst, hothers⟩ := h.of_list_cons
      rw [eq_of_toJson_agree e hfirst, eq_of_allToJson_agree rest hothers]
termination_by sizeOf es

end

/-- **Main theorem.** Reading what was written gives the expression back. A document that is read and
written again is the document tidied, the order of fields aside; so two documents are read as the same
expression exactly if they agree once they are tidied. -/
theorem wire_roundTrip :
    (∀ e : Expr, ofJson? e.toJson = .ok e) ∧
      (∀ d e, ofJson? d = .ok e → e.toJson.Agree (tidy d)) ∧
      ∀ d d' e e', ofJson? d = .ok e → ofJson? d' = .ok e' →
        (e = e' ↔ (tidy d).Agree (tidy d')) := by
  refine ⟨ofJson?_toJson, fun d e h => toJson_agree_tidy h, ?_⟩
  intro d d' e e' h h'
  have hd := toJson_agree_tidy h
  have hd' := toJson_agree_tidy h'
  constructor
  · rintro rfl
    exact hd.symm.trans hd'
  · intro hagree
    exact eq_of_toJson_agree e (hd.trans (hagree.trans hd'.symm))

/-- A document whose fields are out of order, with one that no node has. -/
def shuffled : Json :=
  .object [("comment", .string "draft"),
    ("operand", .object [("name", .string "x"), ("type", .string "variable")]),
    ("operator", .string "not"), ("type", .string "unary")]

/-- It is read, and tidied it agrees with the document that is written for its expression. -/
theorem wire_roundTrip_shuffled :
    ofJson? shuffled = .ok (.unary .not (.variable "x")) ∧
      (tidy shuffled).Agree (tidy (toJson (.unary .not (.variable "x")))) := by
  have hoperand : ofJson? (.object [("name", .string "x"), ("type", .string "variable")]) =
      .ok (.variable "x") :=
    ofJson?_of_held (.cons rfl rfl (.cons rfl rfl (.nil _)))
  have hread : ofJson? shuffled = .ok (.unary .not (.variable "x")) :=
    ofJson?_of_held (.cons rfl rfl (.cons rfl rfl (.cons rfl hoperand (.nil _))))
  obtain ⟨hwritten, -, hsame⟩ := wire_roundTrip
  exact ⟨hread, (hsame shuffled _ _ _ hread (hwritten _)).mp rfl⟩

end Expr

end Reckon
