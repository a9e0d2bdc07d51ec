import Reckon.Proofs.Except
import Reckon.Proofs.Wire.Tidy
import Reckon.Wire.Basic

/-!
# `Proofs.Wire.Node` — what reading an object as a node does

The seven kinds of nodes differ in the names of their fields and in what stands in them, and in nothing
else. `Expr.parts` says for a node which part stands under which name. Writing a node writes its parts
(`Expr.toJson_eq`), and reading an object gives a node exactly if the object holds the parts of that
node (`Expr.held_of_ofJson?`, `Expr.ofJson?_of_held`). What else is proved about the wire form is proved
from the parts, for all kinds of nodes at once.
-/

namespace Reckon

open Wire

/-! ## The parts of a node -/

namespace Wire

/-- What a field of a node holds. -/
inductive Part where
  | text (s : String)
  | value (v : Value)
  | node (e : Expr)
  | nodes (es : List Expr)

namespace Part

def role : Part → Role
  | text _ => .text
  | value _ => .value
  | node _ => .node
  | nodes _ => .nodes

def toJson : Part → Json
  | text s => .string s
  | value v => v.toJson
  | node e => e.toJson
  | nodes es => .list (Expr.allToJson es)

/-- Reading the document gives the part. -/
def ReadFrom (d : Json) : Part → Prop
  | text s => d = .string s
  | value v => Value.ofJson? d = .ok v
  | node e => Expr.ofJson? d = .ok e
  | nodes es => ∃ items, d = .list items ∧ Expr.allOfJson? items = .ok es

end Part

/-- Under the name of each part stands a document that gives it. -/
def Held (fields : List (String × Json)) (parts : List (String × Part)) : Prop :=
  ∀ name part, parts.lookup name = some part →
    ∃ d, fields.lookup name = some d ∧ part.ReadFrom d

namespace Held

theorem nil (fields : List (String × Json)) : Held fields [] :=
  fun _ _ h => by cases h

theorem cons {fields : List (String × Json)} {name : String} {part : Part} {d : Json}
    {rest : List (String × Part)} (found : fields.lookup name = some d) (read : part.ReadFrom d)
    (others : Held fields rest) : Held fields ((name, part) :: rest) := by
  intro name' part' h
  by_cases hname : name' = name
  · subst hname
    rw [List.lookup_cons_self] at h
    cases h
    exact ⟨d, found, read⟩
  · rw [Json.lookup_cons_of_ne hname] at h
    exact others name' part' h

end Held

end Wire

namespace Expr

/-- The type of a node. -/
def nodeType : Expr → String
  | literal _ => "literal"
  | .variable _ => "variable"
  | call _ _ => "call"
  | unary _ _ => "unary"
  | binary _ _ _ => "binary"
  | array _ => "array"
  | ternary _ _ _ _ => "ternary"

/-- The parts of a node under the names of their fields, the type first. -/
def parts (e : Expr) : List (String × Part) :=
  ("type", .text e.nodeType) :: match e with
  | literal value => [("value", .value value)]
  | .variable name => [("name", .text name)]
  | call name params => [("name", .text name), ("params", .nodes params)]
  | unary op operand => [("operator", .text op.symbol), ("operand", .node operand)]
  | binary op left right =>
    [("operator", .text op.symbol), ("left", .node left), ("right", .node right)]
  | array elements => [("elements", .nodes elements)]
  | ternary op condition thenBranch elseBranch =>
    [("operator", .text op.symbol), ("condition", .node condition), ("then", .node thenBranch),
      ("else", .node elseBranch)]

theorem toJson_eq (e : Expr) :
    e.toJson = .object (e.parts.map fun (name, part) => (name, part.toJson)) := by
  cases e <;> rfl

theorem roles_nodeType (e : Expr) :
    roles e.nodeType = e.parts.map fun (name, part) => (name, part.role) := by
  cases e <;> rfl

/-! ## Reading a node -/

theorem operatorOf?_iff {d : Json} {op : Operator} :
    operatorOf? d = .ok op ↔ d = .string op.symbol := by
  constructor
  · intro h
    unfold operatorOf? at h
    split at h
    · next s =>
      split at h
      · next op' hop =>
        cases h
        have hsymbol := List.find?_some hop
        rw [beq_iff_eq.mp hsymbol]
      · cases h
    · cases h
  · rintro rfl
    cases op <;> rfl

theorem stringOf?_iff {d : Json} {s : String} : stringOf? d = .ok s ↔ d = .string s := by
  constructor
  · intro h
    cases d with
    | string s' =>
      cases h
      rfl
    | _ => cases h
  · rintro rfl
    rfl

section Require

variable {α β : Type} {node name : String} {fields : List (String × Json)}

variable (node) in
theorem require_of_lookup {d : Json} (h : fields.lookup name = some d) :
    ∃ hd, require node name fields = .ok ⟨d, hd⟩ := by
  rw [← Json.field?_map_val] at h
  obtain ⟨found, hfound, rfl⟩ := Option.map_eq_some_iff.mp h
  unfold require
  rw [hfound]
  exact ⟨found.property, rfl⟩

theorem lookup_of_require {found : { item : Json // sizeOf item < sizeOf fields }}
    (h : require node name fields = .ok found) : fields.lookup name = some found.val := by
  unfold require at h
  split at h
  · next hfield =>
    cases h
    rw [← Json.field?_map_val, hfield]
    rfl
  · cases h

/-- A field that is there is read; one that is not there is an error. -/
theorem require_bind_iff {reader : Json → Except WireError α} {next : α → Except WireError β}
    {b : β} :
    (do let d ← require node name fields; let a ← reader d.val; next a) = .ok b ↔
      ∃ d a, fields.lookup name = some d ∧ reader d = .ok a ∧ next a = .ok b := by
  constructor
  · intro h
    obtain ⟨d, hd, h⟩ := Except.exists_of_bind_ok h
    obtain ⟨a, ha, h⟩ := Except.exists_of_bind_ok h
    exact ⟨d.val, a, lookup_of_require hd, ha, h⟩
  · rintro ⟨d, a, hd, ha, h⟩
    obtain ⟨hsize, hd⟩ := require_of_lookup node hd
    rw [hd]
    show (reader d).bind next = _
    rw [ha]
    exact h

theorem require_list_iff {next : List Expr → Except WireError β} {b : β} :
    (do let d ← require node name fields; let items ← listOf? d.val
        let es ← allOfJson? items.val; next es) = .ok b ↔
      ∃ items es, fields.lookup name = some (.list items) ∧ allOfJson? items = .ok es ∧
        next es = .ok b := by
  constructor
  · intro h
    obtain ⟨⟨d, hsize⟩, hd, h⟩ := Except.exists_of_bind_ok h
    obtain ⟨items, hitems, h⟩ := Except.exists_of_bind_ok h
    obtain ⟨es, hes, hnext⟩ := Except.exists_of_bind_ok h
    cases d with
    | list items' =>
      cases hitems
      exact ⟨items', es, lookup_of_require hd, hes, hnext⟩
    | _ => cases hitems
  · rintro ⟨items, es, hd, hes, h⟩
    obtain ⟨hsize, hd⟩ := require_of_lookup node hd
    rw [hd]
    show (allOfJson? items).bind next = _
    rw [hes]
    exact h

end Require

theorem held_of_ofJson? {fields : List (String × Json)} {e : Expr}
    (h : ofJson? (.object fields) = .ok e) : Held fields e.parts := by
  rw [ofJson?.eq_def] at h
  dsimp only at h
  -- one case for each type: the steps of reading, and then the parts they found
  split at h
  · cases h
  · next htype =>
    obtain ⟨d, v, hd, hv, h⟩ := require_bind_iff.mp h
    cases h
    exact .cons htype rfl (.cons hd hv (.nil fields))
  · next htype =>
    obtain ⟨d, name, hd, hname, h⟩ := require_bind_iff.mp h
    cases h
    exact .cons htype rfl (.cons hd (stringOf?_iff.mp hname) (.nil fields))
  · next htype =>
    obtain ⟨d, name, hd, hname, h⟩ := require_bind_iff.mp h
    obtain ⟨items, params, hitems, hparams, h⟩ := require_list_iff.mp h
    cases h
    exact .cons htype rfl (.cons hd (stringOf?_iff.mp hname)
      (.cons hitems ⟨items, rfl, hparams⟩ (.nil fields)))
  · next htype =>
    obtain ⟨d, op, hd, hop, h⟩ := require_bind_iff.mp h
    obtain ⟨d', operand, hd', hoperand, h⟩ := require_bind_iff.mp h
    cases h
    exact .cons htype rfl (.cons hd (operatorOf?_iff.mp hop)
      (.cons hd' hoperand (.nil fields)))
  · next htype =>
    obtain ⟨d, op, hd, hop, h⟩ := require_bind_iff.mp h
    obtain ⟨dl, left, hdl, hleft, h⟩ := require_bind_iff.mp h
    obtain ⟨dr, right, hdr, hright, h⟩ := require_bind_iff.mp h
    cases h
    exact .cons htype rfl (.cons hd (operatorOf?_iff.mp hop)
      (.cons hdl hleft (.cons hdr hright (.nil fields))))
  · next htype =>
    obtain ⟨items, elements, hitems, helements, h⟩ := require_list_iff.mp h
    cases h
    exact .cons htype rfl (.cons hitems ⟨items, rfl, helements⟩ (.nil fields))
  · next htype =>
    obtain ⟨d, op, hd, hop, h⟩ := require_bind_iff.mp h
    obtain ⟨dc, condition, hdc, hcondition, h⟩ := require_bind_iff.mp h
    obtain ⟨dt, thenBranch, hdt, hthen, h⟩ := require_bind_iff.mp h
    obtain ⟨de, elseBranch, hde, helse, h⟩ := require_bind_iff.mp h
    cases h
    exact .cons htype rfl (.cons hd (operatorOf?_iff.mp hop)
      (.cons hdc hcondition (.cons hdt hthen (.cons hde helse (.nil fields)))))
  · cases h

theorem nodeType_of_held {fields : List (String × Json)} {e : Expr} {type : Json}
    (h : Held fields e.parts) (htype : fields.lookup "type" = some type) :
    type = .string e.nodeType := by
  obtain ⟨d, hd, hread⟩ := h "type" (.text e.nodeType) List.lookup_cons_self
  rw [htype] at hd
  cases hd
  exact hread

theorem ofJson?_of_held {fields : List (String × Json)} {e : Expr} (h : Held fields e.parts) :
    ofJson? (.object fields) = .ok e := by
  rw [ofJson?.eq_def]
  dsimp only
  -- in each case the type leaves one kind of node, and its parts are there for every step
  split
  · next htype =>
    obtain ⟨d, hd, -⟩ := h "type" (.text e.nodeType) List.lookup_cons_self
    cases htype.symm.trans hd
  · next htype =>
    have hnode := nodeType_of_held h htype
    cases e with
    | literal v =>
      obtain ⟨d, hd, hv⟩ := h "value" _ rfl
      exact require_bind_iff.mpr ⟨d, v, hd, hv, rfl⟩
    | _ => simp [nodeType] at hnode
  · next htype =>
    have hnode := nodeType_of_held h htype
    cases e with
    | «variable» name =>
      obtain ⟨d, hd, hname⟩ := h "name" _ rfl
      exact require_bind_iff.mpr ⟨d, name, hd, stringOf?_iff.mpr hname, rfl⟩
    | _ => simp [nodeType] at hnode
  · next htype =>
    have hnode := nodeType_of_held h htype
    cases e with
    | call name params =>
      obtain ⟨d, hd, hname⟩ := h "name" _ rfl
      obtain ⟨_, hitems, items, rfl, hparams⟩ := h "params" _ rfl
      exact require_bind_iff.mpr ⟨d, name, hd, stringOf?_iff.mpr hname,
        require_list_iff.mpr ⟨items, params, hitems, hparams, rfl⟩⟩
    | _ => simp [nodeType] at hnode
  · next htype =>
    have hnode := nodeType_of_held h htype
    cases e with
    | unary op operand =>
      obtain ⟨d, hd, hop⟩ := h "operator" _ rfl
      obtain ⟨d', hd', hoperand⟩ := h "operand" _ rfl
      exact require_bind_iff.mpr ⟨d, op, hd, operatorOf?_iff.mpr hop,
        require_bind_iff.mpr ⟨d', operand, hd', hoperand, rfl⟩⟩
    | _ => simp [nodeType] at hnode
  · next htype =>
    have hnode := nodeType_of_held h htype
    cases e with
    | binary op left right =>
      obtain ⟨d, hd, hop⟩ := h "operator" _ rfl
      obtain ⟨dl, hdl, hleft⟩ := h "left" _ rfl
      obtain ⟨dr, hdr, hright⟩ := h "right" _ rfl
      exact require_bind_iff.mpr ⟨d, op, hd, operatorOf?_iff.mpr hop,
        require_bind_iff.mpr ⟨dl, left, hdl, hleft,
          require_bind_iff.mpr ⟨dr, right, hdr, hright, rfl⟩⟩⟩
    | _ => simp [nodeType] at hnode
  · next htype =>
    have hnode := nodeType_of_held h htype
    cases e with
    | array elements =>
      obtain ⟨_, hitems, items, rfl, helements⟩ := h "elements" _ rfl
      exact require_list_iff.mpr ⟨items, elements, hitems, helements, rfl⟩
    | _ => simp [nodeType] at hnode
  · next htype =>
    have hnode := nodeType_of_held h htype
    cases e with
    | ternary op condition thenBranch elseBranch =>
      obtain ⟨d, hd, hop⟩ := h "operator" _ rfl
      obtain ⟨dc, hdc, hcondition⟩ := h "condition" _ rfl
      obtain ⟨dt, hdt, hthen⟩ := h "then" _ rfl
      obtain ⟨de, hde, helse⟩ := h "else" _ rfl
      exact require_bind_iff.mpr ⟨d, op, hd, operatorOf?_iff.mpr hop,
        require_bind_iff.mpr ⟨dc, condition, hdc, hcondition,
          require_bind_iff.mpr ⟨dt, thenBranch, hdt, hthen,
            require_bind_iff.mpr ⟨de, elseBranch, hde, helse, rfl⟩⟩⟩⟩
    | _ => simp [nodeType] at hnode
  · next hliteral hvariable hcall hunary hbinary harray hternary htype =>
    have hnode := nodeType_of_held h htype
    cases e with
    | literal => exact absurd hnode hliteral
    | «variable» => exact absurd hnode hvariable
    | call => exact absurd hnode hcall
    | unary => exact absurd hnode hunary
    | binary => exact absurd hnode hbinary
    | array => exact absurd hnode harray
    | ternary => exact absurd hnode hternary

theorem allOfJson?_nil : allOfJson? [] = .ok [] := by
  rw [allOfJson?]

theorem allOfJson?_cons_iff {item : Json} {rest : List Json} {es : List Expr} :
    allOfJson? (item :: rest) = .ok es ↔
      ∃ e others, es = e :: others ∧ ofJson? item = .ok e ∧ allOfJson? rest = .ok others := by
  rw [allOfJson?]
  constructor
  · intro h
    obtain ⟨e, he, h⟩ := Except.exists_of_bind_ok h
    obtain ⟨others, hothers, h⟩ := Except.exists_of_bind_ok h
    cases h
    exact ⟨e, others, rfl, he, hothers⟩
  · rintro ⟨e, others, rfl, he, hothers⟩
    rw [he, hothers]
    rfl

theorem sizeOf_node {e e' : Expr} {name : String} (h : e.parts.lookup name = some (.node e')) :
    sizeOf e' < sizeOf e := by
  have hmem := Json.mem_of_lookup h
  cases e with
  | literal | «variable» | call | array => simp [parts] at hmem
  | unary =>
    simp [parts] at hmem ⊢
    obtain ⟨-, rfl⟩ := hmem
    omega
  | binary =>
    simp [parts] at hmem ⊢
    rcases hmem with ⟨-, rfl⟩ | ⟨-, rfl⟩ <;> omega
  | ternary =>
    simp [parts] at hmem ⊢
    rcases hmem with ⟨-, rfl⟩ | ⟨-, rfl⟩ | ⟨-, rfl⟩ <;> omega

theorem sizeOf_nodes {e : Expr} {es : List Expr} {name : String}
    (h : e.parts.lookup name = some (.nodes es)) : sizeOf es < sizeOf e := by
  have hmem := Json.mem_of_lookup h
  cases e with
  | literal | «variable» | unary | binary | ternary => simp [parts] at hmem
  | call | array =>
    simp [parts] at hmem ⊢
    obtain ⟨-, rfl⟩ := hmem
    omega

end Expr

end Reckon
