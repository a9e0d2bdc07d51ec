import Reckon.Library.Standard
import Reckon.Proofs.Number.Special

/-!
# `Proofs.Library.Breakdown` — which calls of the library break down

A call that does not succeed reports what is wrong with its parameters, and every report has a kind. Whatever
else ends a call is a breakdown, which has none: a computation inside the function met something that nobody
asked about before.

Of the functions on values, numbers and texts one can break down. `copy` takes the whole part of its count, and
a count that is not a number, or infinite, has no whole part. Everywhere else the question comes first: positions
are asked for it (`indexOf`), the functions that need a whole number are (`wholeMagnitude`, `toHex`), and codes
of characters are in a range by then (`characterOf`).

A function need not answer for more parameters than its arity accepts; `Answers` puts the two together.

That lists may stand in lists without end is left aside here. Comparing and showing go down into a value as far
as its lists go, and where a stack bounds that, the answers are those for values within the bound (compare
`Nesting.display`).

Main statement: `answered_iff_counted`.
-/

namespace Reckon.Library

open Reckon.Number

variable {α β : Type}

/-! ## Results and reports -/

/-- The computation comes to a result, or reports what is wrong; it does not break down. -/
def Answered (r : Except Failure α) : Prop :=
  (∃ a, r = .ok a) ∨ ∃ failure kind, r = .error failure ∧ failure.kind? = some kind

namespace Answered

theorem ok (a : α) : Answered (.ok a) :=
  .inl ⟨a, rfl⟩

theorem report {failure : Failure} {kind : FailureKind} (h : failure.kind? = some kind) :
    Answered (.error failure : Except Failure α) :=
  .inr ⟨failure, kind, rfl, h⟩

theorem not_broken (cause : Breakdown) : ¬ Answered (.error (.broken cause) : Except Failure α) := by
  rintro (⟨a, h⟩ | ⟨failure, kind, h, hkind⟩)
  · cases h
  · cases h
    cases hkind

theorem bind {r : Except Failure α} {f : α → Except Failure β} (hr : Answered r)
    (hf : ∀ a, Answered (f a)) : Answered (r >>= f) := by
  obtain ⟨a, rfl⟩ | ⟨failure, kind, rfl, hkind⟩ := hr
  · exact hf a
  · exact report hkind

end Answered

/-! ## Parameters -/

theorem answered_numberOf (v : Value) : Answered (numberOf v) := by
  cases v with
  | number x => exact .ok x
  | boolean _ | string _ | array _ => exact .report rfl

theorem answered_stringOf (v : Value) : Answered (stringOf v) := by
  cases v with
  | string s => exact .ok s
  | boolean _ | number _ | array _ => exact .report rfl

theorem answered_numberOr (otherwise : Float) (v : Option Value) : Answered (numberOr otherwise v) := by
  cases v with
  | none => exact .ok otherwise
  | some v => exact answered_numberOf v

theorem answered_stringOr (otherwise : String) (v : Option Value) : Answered (stringOr otherwise v) := by
  cases v with
  | none => exact .ok otherwise
  | some v => exact answered_stringOf v

theorem answered_indexOf (x : Float) : Answered (indexOf x) := by
  unfold indexOf
  split
  · exact .report rfl
  · -- the position is no negative one by now, and an infinite one is out of bounds
    split
    · exact .ok _
    · exact .report rfl

theorem answered_textIndexOf (first : Nat) (x : Float) : Answered (textIndexOf first x) := by
  refine (answered_indexOf x).bind fun index => ?_
  split
  · exact .report rfl
  · exact .ok _

/-! ### Whole parts -/

theorem wholeOf_of_isNaN {x : Float} (h : x.isNaN = true) :
    wholeOf x = .error (.broken .wholePartOfNaN) := by
  rw [eq_nan h]
  rfl

theorem wholeOf_of_isInf {x : Float} (h : x.isInf = true) :
    wholeOf x = .error (.broken .wholePartOfInfinity) := by
  rcases eq_infinity h with rfl | rfl
  · rfl
  · rfl

theorem exists_wholeOf {x : Float} (hnan : x.isNaN = false) (hinf : x.isInf = false) :
    ∃ n, wholeOf x = .ok n := by
  obtain ⟨n, hn⟩ := exists_wholePart hnan hinf
  unfold wholeOf
  rw [hn]
  exact ⟨n, rfl⟩

theorem answered_wholeOf {x : Float} (hnan : x.isNaN = false) (hinf : x.isInf = false) :
    Answered (wholeOf x) :=
  .inl (exists_wholeOf hnan hinf)

/-! ## Functions and their arities -/

/-- Called with as many parameters as the arity accepts, the function does not break down. -/
def Answers (arity : Arity) (body : List Value → Except Failure Value) : Prop :=
  ∀ params : List Value, arity.accepts params.length = true → Answered (body params)

theorem bounds_of_accepts {arity : Arity} {count : Nat} (hfixed : arity.variadic = false)
    (h : arity.accepts count = true) : arity.required ≤ count ∧ count ≤ arity.required + arity.optional := by
  simpa [Arity.accepts, hfixed] using h

theorem length_of_exact {count : Nat} {params : List Value}
    (h : (Arity.exact count).accepts params.length = true) : params.length = count := by
  have hbounds : count ≤ params.length ∧ params.length ≤ count + 0 := bounds_of_accepts rfl h
  omega

theorem eq_of_exact_three {params : List Value} (h : (Arity.exact 3).accepts params.length = true) :
    ∃ a b c, params = [a, b, c] :=
  List.length_eq_three.mp (length_of_exact h)

namespace Answers

theorem of_answered {arity : Arity} {body : List Value → Except Failure Value}
    (h : ∀ params, Answered (body params)) : Answers arity body :=
  fun params _ => h params

theorem unary {f : Value → Except Failure Value} (hf : ∀ a, Answered (f a)) :
    Answers (.exact 1) (unary f) := by
  intro params hcount
  obtain ⟨a, rfl⟩ := List.length_eq_one_iff.mp (length_of_exact hcount)
  exact hf a

theorem binary {f : Value → Value → Except Failure Value} (hf : ∀ a b, Answered (f a b)) :
    Answers (.exact 2) (binary f) := by
  intro params hcount
  obtain ⟨a, b, rfl⟩ := List.length_eq_two.mp (length_of_exact hcount)
  exact hf a b

theorem ternary {f : Value → Value → Value → Except Failure Value} (hf : ∀ a b c, Answered (f a b c)) :
    Answers (.exact 3) (ternary f) := by
  intro params hcount
  obtain ⟨a, b, c, rfl⟩ := eq_of_exact_three hcount
  exact hf a b c

theorem unaryOptional {f : Value → Option Value → Except Failure Value}
    (hf : ∀ a b, Answered (f a b)) : Answers (.withOptional 1 1) (unaryOptional f) := by
  intro params hcount
  have hlength : 1 ≤ params.length ∧ params.length ≤ 1 + 1 := bounds_of_accepts rfl hcount
  match params with
  | [a] => exact hf a none
  | [a, b] => exact hf a (some b)
  | [] | _ :: _ :: _ :: _ =>
    simp only [List.length_nil, List.length_cons] at hlength
    omega

theorem binaryOptional {f : Value → Value → Option Value → Except Failure Value}
    (hf : ∀ a b c, Answered (f a b c)) : Answers (.withOptional 2 1) (binaryOptional f) := by
  intro params hcount
  have hlength : 2 ≤ params.length ∧ params.length ≤ 2 + 1 := bounds_of_accepts rfl hcount
  match params with
  | [a, b] => exact hf a b none
  | [a, b, c] => exact hf a b (some c)
  | [] | [_] | _ :: _ :: _ :: _ :: _ =>
    simp only [List.length_nil, List.length_cons] at hlength
    omega

end Answers

/-! ## Functions on values -/

section General

variable (first : Nat)

theorem answered_itemAt (source position : Value) : Answered (itemAt first source position) := by
  cases source with
  | string s =>
    refine (answered_numberOf position).bind fun x => (answered_textIndexOf first x).bind fun index => ?_
    split
    · exact .ok _
    · exact .report rfl
  | array items =>
    refine (answered_numberOf position).bind fun x => (answered_indexOf x).bind fun index => ?_
    split
    · exact .ok _
    · exact .report rfl
  | boolean _ | number _ => exact .report rfl

theorem answered_toBoolean (value : Value) : Answered (toBoolean value) := by
  cases value with
  | string _ | number _ | array _ | boolean _ => exact .ok _

theorem answered_contains (haystack needle : Value) : Answered (contains haystack needle) := by
  unfold contains
  split
  · exact .ok _
  · exact .ok _
  · exact .report rfl

theorem answered_compareValues (a b : Value) : Answered (compareValues a b) := by
  unfold compareValues
  split
  · exact .ok _
  · exact .ok _
  · exact .ok _
  · exact .report rfl

theorem answered_find (haystack needle : Value) : Answered (find first haystack needle) := by
  unfold find
  split
  · split
    · exact .ok _
    · exact .ok _
  · split
    · exact .ok _
    · exact .ok _
  · exact .report rfl

theorem answered_floatOf (value : Value) : Answered (floatOf value) := by
  cases value with
  | string s =>
    unfold floatOf
    dsimp only
    split
    · exact .ok _
    · exact .report rfl
  | boolean _ | number _ => exact .ok _
  | array _ => exact .report rfl

theorem answered_toNumber (value : Value) : Answered (toNumber value) :=
  (answered_floatOf value).bind fun _ => .ok _

theorem answered_toWhole (value : Value) : Answered (toWhole value) :=
  (answered_floatOf value).bind fun _ => .ok _

theorem answered_ifThen (condition consequence : Value) (alternative : Option Value) :
    Answered (ifThen condition consequence alternative) := by
  unfold ifThen
  split
  · exact .ok _
  · exact .ok _
  · exact .report rfl

theorem answered_insert (target source position : Value) :
    Answered (insert first target source position) := by
  unfold insert
  split
  · refine (answered_numberOf position).bind fun x => (answered_textIndexOf first x).bind fun index => ?_
    split
    · exact .report rfl
    · exact .ok _
  · refine (answered_numberOf position).bind fun x => (answered_indexOf x).bind fun index => ?_
    split
    · exact .report rfl
    · exact .ok _
  · exact .report rfl

theorem answered_extreme (surpasses : Value → Value → Bool) (params : List Value) :
    Answered (extreme surpasses params) := by
  unfold extreme
  split
  · exact .report rfl
  · exact .ok _

theorem answered_replace (source old : Value) (new : Option Value) : Answered (replace source old new) := by
  unfold replace
  split
  · exact (answered_stringOr "" new).bind fun _ => .ok _
  · exact .ok _
  · exact .report rfl

theorem answered_reverse (value : Value) : Answered (reverse value) := by
  cases value with
  | array _ | string _ => exact .ok _
  | boolean _ | number _ => exact .report rfl

/-! ### Copying -/

/-- The count is read first, and everything after it is asked about before. -/
theorem answered_copy {count : Value}
    (hcount : ∀ x, count = .number x → x.isNaN = false ∧ x.isInf = false) (source start : Value) :
    Answered (copy first source start count) := by
  cases count with
  | number x =>
    obtain ⟨hnan, hinf⟩ := hcount x rfl
    refine (answered_wholeOf hnan hinf).bind fun length => ?_
    cases source with
    | string s =>
      exact (answered_numberOf start).bind fun y => (answered_textIndexOf first y).bind fun _ => .ok _
    | array items =>
      exact (answered_numberOf start).bind fun y => (answered_indexOf y).bind fun _ => .ok _
    | boolean _ | number _ => exact .report rfl
  | boolean _ | string _ | array _ => exact .report rfl

theorem copy_of_wholeOf {x : Float} {cause : Breakdown} (h : wholeOf x = .error (.broken cause))
    (source start : Value) : copy first source start (.number x) = .error (.broken cause) := by
  show (wholeOf x >>= fun length => _) = _
  rw [h]
  rfl

end General

/-! ## Functions on numbers -/

theorem answered_numeric (f : Float → Float) : Answers (.exact 1) (numeric f) :=
  .unary fun v => (answered_numberOf v).bind fun _ => .ok _

theorem answered_toHex (v : Value) : Answered (toHex v) := by
  refine (answered_numberOf v).bind fun x => ?_
  split
  · exact .ok _
  · exact .report rfl

theorem answered_wholeMagnitude (v : Value) : Answered (wholeMagnitude v) := by
  refine (answered_numberOf v).bind fun x => ?_
  split
  · exact .ok _
  · exact .report rfl

theorem answered_toPower (base : Value) (exponent : Option Value) : Answered (toPower base exponent) :=
  (answered_numberOf base).bind fun _ => (answered_numberOr 2.0 exponent).bind fun _ => .ok _

theorem answered_random (draw : Draw) (params : List Value) : Answered (random draw params) :=
  (answered_numberOr 1.0 params.head?).bind fun _ => .ok _

theorem answered_choice (draw : Draw) (params : List Value) : Answered (choice draw params) := by
  unfold choice
  dsimp only
  split
  · exact .ok _
  · exact .report rfl

/-! ## Functions on texts -/

theorem answered_textual (f : String → String) : Answers (.exact 1) (textual f) :=
  .unary fun v => (answered_stringOf v).bind fun _ => .ok _

theorem answered_characterOf (code : Value) : Answered (characterOf code) := by
  refine (answered_numberOf code).bind fun x => ?_
  split
  · exact .ok _
  · exact .report rfl

theorem answered_codeOf (char : Value) : Answered (codeOf char) := by
  refine (answered_stringOf char).bind fun s => ?_
  split
  · split
    · exact .ok _
    · exact .report rfl
  · exact .report rfl

theorem answered_sameText (left right : Value) : Answered (sameText left right) :=
  (answered_stringOf left).bind fun _ => (answered_stringOf right).bind fun _ => .ok _

theorem answered_split (line separator : Value) : Answered (split line separator) := by
  refine (answered_stringOf separator).bind fun separator => ?_
  split
  · exact .report rfl
  · exact (answered_stringOf line).bind fun _ => .ok _

theorem answered_splitFields (line : Value) (separator : Option Value) :
    Answered (splitFields line separator) :=
  (answered_stringOf line).bind fun _ => .ok _

/-! ## The functions of the library -/

/-- The function is `copy`, or it does not break down. -/
def Guarded (first : Nat) (f : Callable) : Prop :=
  f.name = "copy" ∧ f.arity = .exact 3 ∧ f.body = ternary (copy first) ∨
    f.name ≠ "copy" ∧ Answers f.arity f.body

theorem Guarded.of_answers {first : Nat} {declaration description : String} {arity : Arity}
    {category : Category} {pure : Bool} {body : List Value → Except Failure Value}
    (h : Answers arity body) (hname : (Callable.splitDeclaration declaration).1 ≠ "copy") :
    Guarded first (Callable.declare declaration arity category description pure body) :=
  .inr ⟨hname, h⟩

theorem copy_name : (Callable.splitDeclaration
    "copy(source: [String|Array], start: Number, count: Number): [String|Array]").1 = "copy" := by
  decide +kernel

section Guarded

variable (first : Nat)

theorem general_guarded : ∀ f ∈ general first, Guarded first f := by
  refine List.forall_iff_forall_mem.mp ⟨
    .of_answers (.of_answered fun _ => .ok _) ?_,
    .of_answers (.of_answered fun _ => .ok _) ?_,
    .of_answers (.binary (answered_itemAt first)) ?_,
    .of_answers (.ternary fun _ _ _ => .ok _) ?_,
    .of_answers (.unary answered_toBoolean) ?_,
    .of_answers (.binary answered_contains) ?_,
    .of_answers (.binary answered_compareValues) ?_,
    .inl ⟨copy_name, rfl, rfl⟩,
    .of_answers (.unary fun _ => .ok _) ?_,
    .of_answers (.binary (answered_find first)) ?_,
    .of_answers (.unary answered_toNumber) ?_,
    .of_answers (.binaryOptional answered_ifThen) ?_,
    .of_answers (.ternary (answered_insert first)) ?_,
    .of_answers (.unary answered_toWhole) ?_,
    .of_answers (.unary fun _ => .ok _) ?_,
    .of_answers (.of_answered (answered_extreme Value.greater)) ?_,
    .of_answers (.of_answered (answered_extreme Value.less)) ?_,
    .of_answers (.binaryOptional answered_replace) ?_,
    .of_answers (.binary fun value old => answered_replace value old none) ?_,
    .of_answers (.unary answered_reverse) ?_,
    .of_answers (.unary fun _ => .ok _) ?_⟩
  all_goals decide +kernel

theorem numerics_guarded (draw : Draw) : ∀ f ∈ numerics draw, Guarded first f := by
  refine List.forall_iff_forall_mem.mp ⟨
    .of_answers (answered_numeric Float.abs) ?_,
    .of_answers (answered_numeric Float.atan) ?_,
    .of_answers (answered_numeric Float.cos) ?_,
    .of_answers (answered_numeric Float.exp) ?_,
    .of_answers (answered_numeric fractionPart) ?_,
    .of_answers (answered_numeric Float.log) ?_,
    .of_answers (answered_numeric roundHalfAway) ?_,
    .of_answers (answered_numeric Float.sin) ?_,
    .of_answers (answered_numeric Float.sqrt) ?_,
    .of_answers (answered_numeric truncate) ?_,
    .of_answers (.unary answered_toHex) ?_,
    .of_answers (.unary fun v => (answered_wholeMagnitude v).bind fun _ => .ok _) ?_,
    .of_answers (.unary fun v => (answered_wholeMagnitude v).bind fun _ => .ok _) ?_,
    .of_answers (.unaryOptional answered_toPower) ?_,
    .of_answers (.of_answered fun _ => .ok _) ?_,
    .of_answers (.of_answered (answered_random draw)) ?_,
    .of_answers (.of_answered (answered_choice draw)) ?_⟩
  all_goals decide +kernel

theorem strings_guarded : ∀ f ∈ strings, Guarded first f := by
  refine List.forall_iff_forall_mem.mp ⟨
    .of_answers (.unary answered_characterOf) ?_,
    .of_answers (.unary answered_codeOf) ?_,
    .of_answers (answered_textual Text.lower) ?_,
    .of_answers (answered_textual Text.upper) ?_,
    .of_answers (.binary answered_sameText) ?_,
    .of_answers (.binary answered_split) ?_,
    .of_answers (.unaryOptional answered_splitFields) ?_,
    .of_answers (answered_textual _) ?_,
    .of_answers (answered_textual _) ?_,
    .of_answers (answered_textual _) ?_⟩
  all_goals decide +kernel

theorem guarded_of_mem {draw : Draw} {f : Callable}
    (hf : f ∈ general first ++ numerics draw ++ strings) : Guarded first f := by
  rw [List.mem_append, List.mem_append] at hf
  rcases hf with (hf | hf) | hf
  · exact general_guarded first f hf
  · exact numerics_guarded first draw f hf
  · exact strings_guarded first f hf

/-- `copy` is one of the functions. -/
theorem exists_copy (draw : Draw) : ∃ f ∈ general first ++ numerics draw ++ strings,
    f.name = "copy" ∧ f.arity = .exact 3 ∧ f.body = ternary (copy first) := by
  have hmem : (general first)[7]? = some _ := rfl
  exact ⟨_, List.mem_append_left _ (List.mem_append_left _ (List.mem_of_getElem? hmem)), copy_name, rfl, rfl⟩

end Guarded

/-- A call of `copy` with a count that has no whole part, and what comes of it. -/
def Uncounted (f : Callable) (params : List Value) (cause : Breakdown) : Prop :=
  f.name = "copy" ∧ ∃ source start x, params = [source, start, .number x] ∧
    (x.isNaN = true ∧ cause = .wholePartOfNaN ∨ x.isInf = true ∧ cause = .wholePartOfInfinity)

/-- **Main theorem.** Wherever positions in texts start: of the functions on values, numbers and texts, called
with as many parameters as their arity accepts, every one comes to a value or to a report that has a kind,
except `copy` with a count that is not a number or infinite. That breaks down. Nesting counts as no issue: no
bound is set on how deep a function goes into a list. -/
theorem answered_iff_counted (first : Nat) (draw : Draw) (f : Callable)
    (hf : f ∈ general first ++ numerics draw ++ strings) (params : List Value)
    (hcount : f.arity.accepts params.length = true) :
    (Answered (f.body params) ↔ ∀ cause, ¬ Uncounted f params cause) ∧
      ∀ cause, Uncounted f params cause → f.body params = .error (.broken cause) := by
  rcases guarded_of_mem first hf with ⟨hname, harity, hbody⟩ | ⟨hname, hanswers⟩
  · rw [harity] at hcount
    obtain ⟨source, start, count, rfl⟩ := eq_of_exact_three hcount
    have hbroken : ∀ cause, Uncounted f [source, start, count] cause →
        f.body [source, start, count] = .error (.broken cause) := by
      rintro cause ⟨-, source, start, x, heq, ⟨hnan, rfl⟩ | ⟨hinf, rfl⟩⟩
      · rw [hbody, heq]
        exact copy_of_wholeOf first (wholeOf_of_isNaN hnan) source start
      · rw [hbody, heq]
        exact copy_of_wholeOf first (wholeOf_of_isInf hinf) source start
    refine ⟨⟨?_, ?_⟩, hbroken⟩
    · intro hanswered cause huncounted
      rw [hbroken cause huncounted] at hanswered
      exact Answered.not_broken cause hanswered
    · intro hcounted
      rw [hbody]
      refine answered_copy first ?_ source start
      rintro x rfl
      constructor
      · by_contra hnan
        exact hcounted _ ⟨hname, source, start, x, rfl, .inl ⟨by simpa using hnan, rfl⟩⟩
      · by_contra hinf
        exact hcounted _ ⟨hname, source, start, x, rfl, .inr ⟨by simpa using hinf, rfl⟩⟩
  · have hnone : ∀ cause, ¬ Uncounted f params cause := fun cause h => hname h.1
    exact ⟨⟨fun _ => hnone, fun _ => hanswers params hcount⟩, fun cause h => absurd h (hnone cause)⟩

theorem answered_iff_counted_two : ∃ f ∈ general 1 ++ numerics ⟨0.0⟩ ++ strings,
    f.name = "copy" ∧ f.arity.accepts 3 = true ∧
      Answered (f.body [.string "abc", .number 1.0, .number 2.0]) := by
  obtain ⟨f, hf, hname, harity, -⟩ := exists_copy 1 ⟨0.0⟩
  have hcount : f.arity.accepts 3 = true := by
    rw [harity]
    rfl
  have hanswered := (answered_iff_counted 1 ⟨0.0⟩ f hf [.string "abc", .number 1.0, .number 2.0] hcount).1
  refine ⟨f, hf, hname, hcount, hanswered.mpr ?_⟩
  rintro cause ⟨-, source, start, x, heq, hx⟩
  cases heq
  rcases hx with ⟨hnan, -⟩ | ⟨hinf, -⟩
  · exact absurd hnan (by decide +kernel)
  · exact absurd hinf (by decide +kernel)

/-- A count that is not a number ends the call without a report. -/
theorem copy_breaks_down : ∃ f ∈ general 1 ++ numerics ⟨0.0⟩ ++ strings,
    f.name = "copy" ∧ f.arity.accepts 3 = true ∧
      f.body [.string "abc", .number 1.0, .number (0.0 / 0.0)] = .error (.broken .wholePartOfNaN) ∧
      ¬ Answered (f.body [.string "abc", .number 1.0, .number (0.0 / 0.0)]) := by
  obtain ⟨f, hf, hname, harity, hbody⟩ := exists_copy 1 ⟨0.0⟩
  have hnan : wholeOf (0.0 / 0.0) = .error (.broken .wholePartOfNaN) := rfl
  have hbroken : f.body [.string "abc", .number 1.0, .number (0.0 / 0.0)] =
      .error (.broken .wholePartOfNaN) := by
    rw [hbody]
    exact copy_of_wholeOf 1 hnan (.string "abc") (.number 1.0)
  refine ⟨f, hf, hname, ?_, hbroken, ?_⟩
  · rw [harity]
    rfl
  · rw [hbroken]
    exact Answered.not_broken _

end Reckon.Library
