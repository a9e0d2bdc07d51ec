import Reckon.Json.Reader
import Reckon.Proofs.Except

/-!
# `Proofs.Json.Reading` — the reader, one step at a time

The functions of the reader hand out what is left of the text together with the proof that it is less.
`plain` is their outcome without that proof. For each function there is one equation that says what it
does in terms of the plain outcomes of the others; everything else about reading is proved from these.
-/

namespace Reckon.Json

/-- The outcome without the proof that something was consumed. -/
def plain {α : Type} {s : List Char} (r : Except Stop (α × Fewer s)) : Except Stop (α × List Char) :=
  r.map fun p => (p.1, p.2.val)

/-- What is left is less. -/
theorem length_of_plain {α : Type} {s : List Char} {r : Except Stop (α × Fewer s)} {a : α}
    {rest : List Char} (h : plain r = .ok (a, rest)) : rest.length < s.length := by
  obtain ⟨⟨_, fewer⟩, -, h⟩ := Except.exists_of_map_ok h
  cases h
  exact fewer.property

theorem consRead_eq (c : Char) (r : Except Stop (List Char × List Char)) :
    consRead c r = r.map fun p => (c :: p.1, p.2) := by
  cases r <;> rfl

/-- The words with documents of their own. -/
def words : List (String × Json) :=
  [("null", .null), ("true", .boolean true), ("false", .boolean false), ("NaN", .real (0.0 / 0.0)),
    ("Infinity", .real (1.0 / 0.0)), ("-Infinity", .real (-1.0 / 0.0))]

/-- The document of the word in front of a text, and the rest. -/
def leadingWord? (s : List Char) : Option (Json × List Char) :=
  words.findSome? fun (word, d) =>
    if word.toList.isPrefixOf s then some (d, s.drop word.toList.length) else none

theorem readWord?_map (s : List Char) :
    (readWord? s).map (fun p => (p.1, p.2.val)) = leadingWord? s := by
  unfold readWord?
  extract_lets accept?
  have haccept : ∀ word d, word.toList ≠ [] → (accept? word d).map (fun p => (p.1, p.2.val)) =
      if word.toList.isPrefixOf s then some (d, s.drop word.toList.length) else none := by
    intro word d hword
    dsimp only [accept?]
    split
    · next h =>
      have hless : (s.drop word.toList.length).length < s.length := by
        obtain ⟨rest, rfl⟩ := List.isPrefixOf_iff_prefix.mp h
        have := List.length_pos_iff.mpr hword
        rw [List.drop_left, List.length_append]
        omega
      rw [dif_pos hless]
      rfl
    · rfl
  have hfirst : ∀ (f : String × Json → Option (Json × List Char)) word more,
      (word :: more).findSome? f = (f word).or (more.findSome? f) := by
    intro f word more
    rw [List.findSome?_cons]
    cases f word <;> rfl
  simp only [Option.map_or, leadingWord?, words, hfirst, List.findSome?_nil, Option.or_none]
  rw [haccept _ _ (by decide), haccept _ _ (by decide), haccept _ _ (by decide),
    haccept _ _ (by decide), haccept _ _ (by decide), haccept _ _ (by decide)]

variable (allowance : Allowance) (rest : List Char)

theorem readValue_nil : plain (readValue allowance []) = .error (.defect .expectedValue 0) := by
  rw [readValue]
  rfl

theorem readValue_quote :
    plain (readValue allowance ('"' :: rest)) =
      (readString (rest.length + 1) rest).map fun p => (.string (String.ofList p.1), p.2) := by
  rw [readValue]
  split
  · next h =>
    conv => rhs; rw [h]
    rfl
  · next h =>
    conv => rhs; rw [h]
    rfl

theorem readValue_brace :
    plain (readValue allowance ('\x7b' :: rest)) =
      match allowance.descend with
      | none => .error .nestedTooDeeply
      | some inner =>
        match skipSpace rest with
        | '\x7d' :: after => .ok (.object [], after)
        | body => (plain (readFields inner [] body)).map fun p => (.object p.1, p.2) := by
  rw [readValue]
  cases allowance.descend with
  | none => rfl
  | some inner =>
    dsimp only
    split
    · next h =>
      conv => rhs; rw [h]
      rfl
    · next hne =>
      cases hread : readFields inner [] (skipSpace rest) <;> dsimp only <;> split
      · next h => exact absurd h (hne _)
      · rw [hread]
        rfl
      · next h => exact absurd h (hne _)
      · rw [hread]
        rfl

theorem readValue_bracket :
    plain (readValue allowance ('[' :: rest)) =
      match allowance.descend with
      | none => .error .nestedTooDeeply
      | some inner =>
        match skipSpace rest with
        | ']' :: after => .ok (.list [], after)
        | body => (plain (readItems inner body)).map fun p => (.list p.1, p.2) := by
  rw [readValue]
  cases allowance.descend with
  | none => rfl
  | some inner =>
    dsimp only
    split
    · next h =>
      conv => rhs; rw [h]
      rfl
    · next hne =>
      cases hread : readItems inner (skipSpace rest) <;> dsimp only <;> split
      · next h => exact absurd h (hne _)
      · rw [hread]
        rfl
      · next h => exact absurd h (hne _)
      · rw [hread]
        rfl

variable {c : Char}

theorem readValue_other (hquote : c ≠ '"') (hbrace : c ≠ '\x7b') (hbracket : c ≠ '[') :
    plain (readValue allowance (c :: rest)) =
      match leadingWord? (c :: rest) with
      | some found => .ok found
      | none =>
        match readNumber? (c :: rest) with
        | none => .error (.defect .expectedValue (rest.length + 1))
        | some (number, after) => number.document.map fun d => (d, after) := by
  rw [readValue, ← readWord?_map]
  · cases readWord? (c :: rest) with
    | some found => rfl
    | none =>
      dsimp only [Option.map]
      split
      · next h =>
        conv => rhs; rw [h]
        rfl
      · next number after h =>
        conv => rhs; rw [h]
        dsimp only
        cases number.document <;> rfl
  · simp
  · exact fun _ h => hquote (List.cons.inj h).1
  · exact fun _ h => hbrace (List.cons.inj h).1
  · exact fun _ h => hbracket (List.cons.inj h).1

theorem readItems_eq (s : List Char) :
    plain (readItems allowance s) =
      (plain (readValue allowance s)).bind fun p =>
        match skipSpace p.2 with
        | ']' :: after => .ok ([p.1], after)
        | ',' :: more =>
          (plain (readItems allowance (skipSpace more))).map fun q => (p.1 :: q.1, q.2)
        | other => .error (.defect .expectedComma other.length) := by
  rw [readItems]
  cases readValue allowance s with
  | error stop => rfl
  | ok p =>
    obtain ⟨item, fewer⟩ := p
    show _ = (match skipSpace fewer.val with
      | ']' :: after => _
      | ',' :: more => _
      | other => _)
    dsimp only
    split
    · next h =>
      conv => rhs; rw [h]
      rfl
    · next more h =>
      conv => rhs; rw [h]
      show _ = (plain (readItems allowance (skipSpace more))).map _
      cases readItems allowance (skipSpace more) <;> rfl
    · next hclosed hmore =>
      split
      · next h => exact absurd h (hclosed _)
      · next h => exact absurd h (hmore _)
      · rfl

theorem readFields_quote (before : List (String × Json)) :
    plain (readFields allowance before ('"' :: rest)) =
      (readString (rest.length + 1) rest).bind fun name =>
        match skipSpace name.2 with
        | ':' :: value =>
          (plain (readValue allowance (skipSpace value))).bind fun p =>
            match skipSpace p.2 with
            | '\x7d' :: after => .ok (setField before (String.ofList name.1) p.1, after)
            | ',' :: more =>
              plain (readFields allowance (setField before (String.ofList name.1) p.1)
                (skipSpace more))
            | other => .error (.defect .expectedComma other.length)
        | other => .error (.defect .expectedColon other.length) := by
  rw [readFields]
  split
  · next h =>
    conv => rhs; rw [h]
    rfl
  · next name afterName h =>
    conv => rhs; rw [h]
    show _ = (match skipSpace afterName with
      | ':' :: value => _
      | other => _)
    split
    · next value h =>
      conv => rhs; rw [h]
      show _ = (plain (readValue allowance (skipSpace value))).bind _
      cases readValue allowance (skipSpace value) with
      | error stop => rfl
      | ok p =>
        obtain ⟨item, tail⟩ := p
        dsimp only
        show _ = (match skipSpace tail.val with
          | '\x7d' :: after => _
          | ',' :: more => _
          | other => _)
        split
        · next h =>
          conv => rhs; rw [h]
          rfl
        · next more h =>
          conv => rhs; rw [h]
          show _ = plain (readFields allowance _ (skipSpace more))
          cases readFields allowance (setField before (String.ofList name) item) (skipSpace more) <;> rfl
        · next hclosed hmore =>
          split
          · next h => exact absurd h (hclosed _)
          · next h => exact absurd h (hmore _)
          · rfl
    · next hne =>
      split
      · next h => exact absurd h (hne _)
      · rfl

theorem readFields_other {before : List (String × Json)} {s : List Char}
    (h : ∀ rest, s ≠ '"' :: rest) :
    plain (readFields allowance before s) = .error (.defect .expectedName s.length) := by
  rw [readFields]
  · rfl
  · exact h

theorem readDocument_eq {s : List Char} (h : ∀ rest, s ≠ '\uFEFF' :: rest) :
    readDocument allowance s =
      (plain (readValue allowance (skipSpace s))).bind fun p =>
        match skipSpace p.2 with
        | [] => .ok p.1
        | extra => .error (.defect .extraData extra.length) := by
  unfold readDocument
  split
  · exact absurd rfl (h _)
  · cases readValue allowance (skipSpace s) <;> rfl

end Reckon.Json
