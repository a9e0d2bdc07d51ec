import Reckon.Proofs.Json.Limits
import Reckon.Proofs.Wire.Fault
import Reckon.Wire.Text

/-!
# `Proofs.Wire.Refusal` — what comes of documents and texts that hold no expression

It is reported what is wrong with a document that holds no value or expression, or with a text that spells
none. There are three exceptions, all of them about whole numbers: reading comes to one that no number is
near to, a report would have to show one of too many digits, or the text has one of too many digits. The
main statement says exactly when they arise, and that documents without such numbers are all reported.
-/

namespace Reckon

open Wire

/-- There is a result, or it is reported why there is none. -/
def Orderly {α : Type} (r : Except Refusal α) : Prop :=
  (∃ a, r = .ok a) ∨ ∃ message, r = .error (.reported message)

/-- The report of an error can be written. -/
def WireError.Showable (e : WireError) : Prop :=
  ∀ d, e.shown? = some d → d.Writable

/-- A number is near to the whole number. -/
def Number.IsNear (n : Int) : Bool :=
  (Number.ofInt? n).isSome

/-! ## Errors and refusals -/

section Refusal

variable {α : Type} {e : WireError}

theorem refusal_of_ne (h : e ≠ .integerTooLarge) :
    e.refusal = if e.shown?.all (Json.allIntegers Number.isWritable) then .reported e.message
      else .notWritable := by
  rw [WireError.refusal]
  exact h

theorem refusal_reported_iff :
    (∃ message, e.refusal = .reported message) ↔ e ≠ .integerTooLarge ∧ e.Showable := by
  by_cases he : e = .integerTooLarge
  · subst he
    exact ⟨fun ⟨_, h⟩ => (nomatch h), fun h => absurd rfl h.1⟩
  · rw [refusal_of_ne he, WireError.Showable, ← Option.all_eq_true]
    split
    · next hshown => exact ⟨fun _ => ⟨he, hshown⟩, fun _ => ⟨_, rfl⟩⟩
    · next hshown => exact ⟨fun ⟨_, h⟩ => (nomatch h), fun h => absurd h.2 hshown⟩

theorem orderly_mapError_iff (r : Except WireError α) :
    Orderly (r.mapError WireError.refusal) ↔
      r ≠ .error .integerTooLarge ∧ ∀ e, r = .error e → e.Showable := by
  cases r with
  | ok a => exact ⟨fun _ => ⟨nofun, nofun⟩, fun _ => .inl ⟨a, rfl⟩⟩
  | error e =>
    have hreported : Orderly (Except.error (α := α) e.refusal) ↔
        ∃ message, e.refusal = .reported message := by
      constructor
      · rintro (⟨a, h⟩ | ⟨message, h⟩)
        · cases h
        · exact ⟨message, Except.error.inj h⟩
      · rintro ⟨message, h⟩
        exact .inr ⟨message, congrArg _ h⟩
    show Orderly (Except.error e.refusal) ↔ _
    rw [hreported, refusal_reported_iff]
    constructor
    · rintro ⟨hne, hshowable⟩
      refine ⟨fun h => hne (Except.error.inj h), ?_⟩
      rintro e' h
      exact Except.error.inj h ▸ hshowable
    · rintro ⟨hne, hshowable⟩
      exact ⟨fun h => hne (congrArg _ h), hshowable e rfl⟩

end Refusal

/-! ## Whole numbers in documents -/

section Integers

variable {p : Int → Bool} {e : WireError} {role : Role} {d : Json}

theorem allIntegersIn_iff {items : List Json} :
    Json.allIntegersIn p items = true ↔ ∀ item ∈ items, item.allIntegers p = true := by
  induction items with
  | nil => exact ⟨fun _ => nofun, fun _ => rfl⟩
  | cons item rest ih =>
    rw [Json.allIntegersIn, Bool.and_eq_true, ih, List.forall_mem_cons]

theorem allIntegers_of_lookup {fields : List (String × Json)} {name : String}
    (hfields : Json.allIntegersOf p fields = true) (hd : fields.lookup name = some d) :
    d.allIntegers p = true := by
  induction fields with
  | nil => cases hd
  | cons field rest ih =>
    obtain ⟨key, item⟩ := field
    rw [Json.allIntegersOf, Bool.and_eq_true] at hfields
    by_cases hname : name = key
    · subst hname
      rw [List.lookup_cons_self] at hd
      cases hd
      exact hfields.1
    · rw [Json.lookup_cons_of_ne hname] at hd
      exact ih hfields.2 hd

/-- What is wrong is wrong with a document within the document. -/
theorem Wire.Comes.exists_fault (h : Comes e role d) (hd : d.allIntegers p = true) :
    ∃ role' d', Fault e role' d' ∧ d'.allIntegers p = true := by
  induction h with
  | here fault => exact ⟨_, _, fault, hd⟩
  | @item before after item earlier later ih =>
    have hitems : Json.allIntegersIn p (before ++ item :: after) = true := by
      rw [Json.allIntegers, Json.allIntegersOf, Bool.and_eq_true] at hd
      exact hd.1
    exact ih (allIntegersIn_iff.mp hitems item (List.mem_append_right _ List.mem_cons_self))
  | field named split earlier there later ih =>
    rw [Json.allIntegers] at hd
    exact ih (allIntegers_of_lookup hd there)
  | node earlier later ih =>
    rw [Json.allIntegers] at hd
    exact ih (allIntegersIn_iff.mp hd _ (List.mem_append_right _ List.mem_cons_self))

/-- The document that a report shows is one that has the fault. -/
theorem allIntegers_of_fault (h : Fault e role d) (hd : d.allIntegers p = true) {found : Json}
    (hfound : e.shown? = some found) : found.allIntegers p = true := by
  cases h with
  | integerTooLarge => cases hfound
  | text h => rcases h with rfl | rfl <;> cases hfound <;> exact hd
  | value h => rcases h with rfl | rfl <;> cases hfound <;> exact hd
  | notAnObject => cases hfound
  | untyped =>
    cases hfound
    rfl
  | unknownType h =>
    cases hfound
    rw [Json.allIntegers] at hd
    exact allIntegers_of_lookup hd h
  | missingField => cases hfound
  | notAList =>
    cases hfound
    exact hd

theorem showable_of_comes (h : Comes e role d) (hd : d.Writable) : e.Showable := by
  intro found hfound
  obtain ⟨role', d', hfault, hd'⟩ := h.exists_fault hd
  exact allIntegers_of_fault hfault hd' hfound

theorem not_comes_of_near (hd : d.allIntegers Number.IsNear = true) :
    ¬Comes .integerTooLarge role d := by
  intro h
  obtain ⟨role', d', hfault, hd'⟩ := h.exists_fault hd
  cases hfault with
  | integerTooLarge far =>
    rw [Json.allIntegers, Json.allIntegersOf, Json.allIntegers, Number.IsNear, far] at hd'
    cases hd'
  | text h => rcases h with h | h <;> cases h
  | value h => rcases h with h | h <;> cases h

theorem nearestDecimal_far {n : Nat} (h : 400 < n.repr.length) :
    Number.nearestDecimal n 0 = 1.0 / 0.0 := by
  have hzero : n ≠ 0 := by
    rintro rfl
    exact absurd h (by decide)
  unfold Number.nearestDecimal
  dsimp only
  rw [if_neg (by simp [hzero]), if_pos (by omega)]

theorem ofInt?_far {n : Int} (h : 400 < n.natAbs.repr.length) : Number.ofInt? n = none := by
  have hinfinite : (1.0 / 0.0 : Float).isInf = true := by decide +kernel
  rw [Number.ofInt?, nearestDecimal_far h]
  exact if_pos hinfinite

theorem lt_length_repr_pow {m k : Nat} (hm : 0 < m) (h : m ≤ k) : m < (Nat.repr (10 ^ k)).length := by
  apply Nat.lt_of_not_le
  rw [Nat.length_repr_le_iff hm, Nat.not_lt]
  exact Nat.pow_le_pow_right (by decide) h

theorem ofInt?_power {k : Nat} (h : 400 ≤ k) : Number.ofInt? (10 ^ k) = none := by
  apply ofInt?_far
  rw [Int.natAbs_pow]
  exact lt_length_repr_pow (by decide) h

theorem isWritable_of_isNear {n : Int} (h : Number.IsNear n = true) :
    Number.isWritable n = true := by
  rw [Number.isWritable, decide_eq_true_iff]
  refine Nat.le_of_not_lt fun hmany => ?_
  have hfar : 400 < n.natAbs.repr.length := Nat.lt_trans (by decide) hmany
  rw [Number.IsNear, ofInt?_far hfar] at h
  cases h

mutual

theorem writable_of_near : ∀ {d : Json}, d.allIntegers Number.IsNear = true → d.Writable
  | .null, _ | .boolean _, _ | .real _, _ | .string _, _ => rfl
  | .integer _, h => isWritable_of_isNear h
  | .list _, h => writableItems_of_near h
  | .object _, h => writableFields_of_near h

theorem writableItems_of_near : ∀ {items : List Json},
    Json.allIntegersIn Number.IsNear items = true → Json.WritableItems items
  | [], _ => rfl
  | _ :: _, h => by
    rw [Json.allIntegersIn, Bool.and_eq_true] at h
    exact Json.writableItems_cons (writable_of_near h.1) (writableItems_of_near h.2)

theorem writableFields_of_near : ∀ {fields : List (String × Json)},
    Json.allIntegersOf Number.IsNear fields = true → Json.WritableFields fields
  | [], _ => rfl
  | (_, _) :: _, h => by
    rw [Json.allIntegersOf, Bool.and_eq_true] at h
    show (_ && _) = true
    rw [writable_of_near h.1, writableFields_of_near h.2]
    rfl

end

end Integers

/-! ## Values, expressions and texts -/

theorem orderly_value_iff (d : Json) :
    Orderly (Value.ofDocument d) ↔
      ¬Comes .integerTooLarge .value d ∧ ∀ e, Value.ofJson? d = .error e → e.Showable := by
  have hcomes : Value.ofJson? d = .error .integerTooLarge ↔ Comes .integerTooLarge .value d := by
    constructor
    · intro h
      exact comes_of_readPart "value" .value d (by rw [readPart, h]; rfl)
    · intro h
      exact Except.error_of_map (readPart_of_comes h "value")
  rw [Value.ofDocument, orderly_mapError_iff, Ne, hcomes]

theorem orderly_expr_iff (d : Json) :
    Orderly (Expr.ofDocument d) ↔
      ¬Comes .integerTooLarge .node d ∧ ∀ e, Expr.ofJson? d = .error e → e.Showable := by
  have hcomes : Expr.ofJson? d = .error .integerTooLarge ↔ Comes .integerTooLarge .node d := by
    constructor
    · intro h
      exact comes_of_readPart "operand" .node d (by rw [readPart, h]; rfl)
    · intro h
      exact Except.error_of_map (readPart_of_comes h "operand")
  rw [Expr.ofDocument, orderly_mapError_iff, Ne, hcomes]

theorem orderly_expr_of_writable {d : Json} (hd : d.Writable) :
    Orderly (Expr.ofDocument d) ↔ ¬Comes .integerTooLarge .node d := by
  rw [orderly_expr_iff]
  refine ⟨fun h => h.1, fun h => ⟨h, fun e he => ?_⟩⟩
  exact showable_of_comes (comes_of_readPart "operand" .node d (by rw [readPart, he]; rfl)) hd

theorem orderly_of_near {d : Json} (hd : d.allIntegers Number.IsNear = true) :
    Orderly (Value.ofDocument d) ∧ Orderly (Expr.ofDocument d) := by
  have hwritable := writable_of_near hd
  refine ⟨(orderly_value_iff d).mpr ⟨not_comes_of_near hd, fun e he => ?_⟩,
    (orderly_expr_of_writable hwritable).mpr (not_comes_of_near hd)⟩
  exact showable_of_comes (comes_of_readPart "value" .value d (by rw [readPart, he]; rfl)) hwritable

theorem orderly_load_iff (text : String) :
    Orderly (Expr.load none text) ↔
      (∀ count, Json.read none text ≠ .error (.tooManyDigits count)) ∧
        ∀ d, Json.read none text = .ok d → ¬Comes .integerTooLarge .node d := by
  unfold Expr.load
  cases hread : Json.read none text with
  | ok d =>
    rw [orderly_expr_of_writable (Json.writable_of_read hread)]
    constructor
    · intro h
      refine ⟨nofun, ?_⟩
      rintro _ ⟨⟩
      exact h
    · intro h
      exact h.2 d rfl
  | error e =>
    cases e with
    | malformed fault => exact ⟨fun _ => ⟨nofun, nofun⟩, fun _ => .inr ⟨_, rfl⟩⟩
    | tooManyDigits count =>
      constructor
      · rintro (⟨_, h⟩ | ⟨_, h⟩) <;> cases h
      · intro h
        exact absurd rfl (h.1 count)
    | nestedTooDeeply => exact absurd hread (Json.read_unbounded text)

/-- **Main theorem.** A document gives a value or an expression, or it is reported why not, unless reading
comes to a whole number that no number is near to, or the report would show one of too many digits. Neither
happens if there is a number near to each whole number of the document. A text gives an expression, or it
is reported why not, unless a whole number has too many digits, which then stand in the text, or its
document is of the first kind. -/
theorem refusals_reported (d : Json) (text : String) :
    (Orderly (Value.ofDocument d) ↔
      ¬Comes .integerTooLarge .value d ∧ ∀ e, Value.ofJson? d = .error e → e.Showable) ∧
    (Orderly (Expr.ofDocument d) ↔
      ¬Comes .integerTooLarge .node d ∧ ∀ e, Expr.ofJson? d = .error e → e.Showable) ∧
    (d.allIntegers Number.IsNear = true →
      Orderly (Value.ofDocument d) ∧ Orderly (Expr.ofDocument d)) ∧
    (Orderly (Expr.load none text) ↔
      (∀ count, Json.read none text ≠ .error (.tooManyDigits count)) ∧
        ∀ d, Json.read none text = .ok d → ¬Comes .integerTooLarge .node d) ∧
    ∀ count, Json.read none text = .error (.tooManyDigits count) →
      ∃ digits, digits <:+: text.toList ∧ (∀ c ∈ digits, c.isDigit = true) ∧
        digits.length = count ∧ Number.mostDigits < count :=
  ⟨orderly_value_iff d, orderly_expr_iff d, orderly_of_near, orderly_load_iff text,
    fun _ => Json.digits_of_read⟩

/-- A malformed document and a malformed text are reported. -/
theorem refusals_reported_malformed :
    Orderly (Expr.ofDocument (.object [("type", .string "unary"), ("operator", .integer 7)])) ∧
      Orderly (Expr.load none "[") := by
  obtain ⟨-, -, hnear, htext, -⟩ := refusals_reported
    (.object [("type", .string "unary"), ("operator", .integer 7)]) "["
  refine ⟨(hnear (by decide +kernel)).2, htext.mpr ?_⟩
  have hdocument : Json.readDocument none ['['] = .error (.defect .expectedValue 0) := by
    rw [Json.readDocument_eq none (by simp)]
    show (Json.plain (Json.readValue none ['['])).bind _ = _
    rw [Json.readValue_bracket]
    show ((Json.plain (Json.readItems none [])).map _).bind _ = _
    rw [Json.readItems_eq, Json.readValue_nil]
    rfl
  have hread : Json.read none "[" = .error (.malformed ⟨.expectedValue, 1, 2, 1⟩) := by
    rw [Json.read, show "[".toList = ['['] from rfl, hdocument]
    rfl
  rw [hread]
  exact ⟨by simp, by simp⟩

/-- A literal whose whole number has four hundred and one digits. -/
def hugeLiteral : Json :=
  .object [("type", .string "literal"), ("value", .object [("number", .integer (10 ^ 400))])]

/-- It is not reported that it holds no expression. -/
theorem hugeLiteral_unreported : ¬Orderly (Expr.ofDocument hugeLiteral) := by
  have hnumber : Comes .integerTooLarge .value (.object [("number", .integer (10 ^ 400))]) :=
    .here (.integerTooLarge (ofInt?_power (Nat.le_refl 400)))
  have htype : ∀ rest, Holds (("type", .string "literal") :: rest) ("type", .text) :=
    fun _ => ⟨_, .text "literal", rfl, rfl⟩
  have hcomes : Comes .integerTooLarge .node hugeLiteral :=
    .field rfl rfl (List.forall_mem_singleton.mpr (htype _)) rfl hnumber
  exact fun horderly => ((orderly_expr_iff _).mp horderly).1 hcomes

end Reckon
