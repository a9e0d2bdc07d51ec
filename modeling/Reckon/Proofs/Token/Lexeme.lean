import Reckon.Token.Lexer

/-!
# `Proofs.Token.Lexeme` — the lexemes, and where they end

The lexer looks one character past a lexeme at most: a lexeme ends where no character follows that would
join on to it. `Lexeme` says so, with the characters that would join on; a gap never does. There is a
lemma for each sort of lexeme (`lexeme_mark`, `lexeme_digits`, `lexeme_word` and so on), and whatever `next`
takes from a text is one of them.

Main statements: `exists_lexeme` for what is taken, `exists_fault` for what is not.
-/

namespace Reckon

namespace Lexer

open Text

/-- Only characters that separate tokens. -/
def Gap (s : List Char) : Prop :=
  ∀ c ∈ s, isGap c = true

instance (s : List Char) : Decidable (Gap s) :=
  decidable_of_iff (s.all isGap = true) List.all_eq_true

/-- The text does not go on with a character that joins. -/
def Ends (joins : Char → Bool) (rest : List Char) : Prop :=
  ∀ d ∈ rest.head?, joins d = false

section Ends

variable {joins : Char → Bool} {used rest : List Char}

theorem ends_nil : Ends joins [] := nofun

theorem ends_cons {d : Char} : Ends joins (d :: rest) ↔ joins d = false := by
  simp [Ends]

theorem ends_iff : Ends joins rest ↔ ∀ d more, rest = d :: more → joins d = false := by
  cases rest with
  | nil => exact ⟨fun _ => nofun, fun _ => ends_nil⟩
  | cons d rest =>
    rw [ends_cons]
    refine ⟨?_, fun h => h d rest rfl⟩
    rintro h d' more ⟨⟩
    exact h

theorem ends_dropWhile (s : List Char) : Ends joins (s.dropWhile joins) := by
  have h := List.head?_dropWhile_not joins s
  intro d hd
  rw [Option.mem_def.mp hd] at h
  exact h

theorem takeWhile_of_ends (h : Ends joins rest) : rest.takeWhile joins = [] := by
  cases rest with
  | nil => rfl
  | cons d rest => rw [List.takeWhile_cons, if_neg (by simp [ends_cons.mp h])]

theorem dropWhile_of_ends (h : Ends joins rest) : rest.dropWhile joins = rest := by
  cases rest with
  | nil => rfl
  | cons d rest => rw [List.dropWhile_cons, if_neg (by simp [ends_cons.mp h])]

theorem takeWhile_append_of_ends (hused : ∀ c ∈ used, joins c = true) (h : Ends joins rest) :
    (used ++ rest).takeWhile joins = used := by
  rw [List.takeWhile_append_of_pos hused, takeWhile_of_ends h, List.append_nil]

theorem dropWhile_append_of_ends (hused : ∀ c ∈ used, joins c = true) (h : Ends joins rest) :
    (used ++ rest).dropWhile joins = rest := by
  rw [List.dropWhile_append_of_pos hused, dropWhile_of_ends h]

end Ends

/-! ## One step of the lexer -/

section Next

variable {s gap : List Char}

theorem next_gap (h : Gap gap) (s : List Char) : next (gap ++ s) = next s := by
  unfold next
  rw [List.dropWhile_append_of_pos h]

/-- The step of a text that does not start with a gap. -/
theorem next_cons {c : Char} (h : isGap c = false) (s : List Char) :
    next (c :: s) =
      match front c s with
      | .token t after => .token t after
      | .brokenNumber text after => .fault (.invalidNumber (String.ofList text)) (c :: s) after
      | .openString => .fault .unterminatedString (c :: s) (c :: s)
      | .stray c => .fault (.invalidCharacter c) (c :: s) (c :: s) := by
  have hdrop : (c :: s).dropWhile isGap = c :: s := by
    rw [List.dropWhile_cons, if_neg (by simp [h])]
  unfold next
  generalize (c :: s).dropWhile isGap = rest at hdrop ⊢
  subst hdrop
  rfl

/-- A text is a gap, or a gap and something that does not start with one. -/
theorem gap_or_exists_solid (s : List Char) :
    Gap s ∨ ∃ gap c more, s = gap ++ c :: more ∧ Gap gap ∧ isGap c = false := by
  have hgap : Gap (s.takeWhile isGap) := List.all_eq_true.mp List.all_takeWhile
  have hs : s.takeWhile isGap ++ s.dropWhile isGap = s := List.takeWhile_append_dropWhile
  cases hrest : s.dropWhile isGap with
  | nil =>
    rw [hrest, List.append_nil] at hs
    exact Or.inl (hs ▸ hgap)
  | cons c more =>
    have hc : Ends isGap (c :: more) := hrest ▸ ends_dropWhile s
    exact Or.inr ⟨_, c, more, hrest ▸ hs.symm, hgap, ends_cons.mp hc⟩

theorem next_finished_iff : next s = .finished ↔ Gap s := by
  constructor
  · intro h
    rcases gap_or_exists_solid s with hgap | ⟨gap, c, more, rfl, hgap, hc⟩
    · exact hgap
    · rw [next_gap hgap, next_cons hc] at h
      split at h <;> cases h
  · intro h
    have hnil : next [] = .finished := rfl
    rw [← List.append_nil s, next_gap h, hnil]

end Next

/-! ## Lexemes -/

/-- A lexeme that is read as a token, up to where no character follows that joins on to it. -/
structure Lexeme (lexeme : List Char) (t : Token) (joins : Char → Bool) : Prop where
  solid : ∃ c more, lexeme = c :: more ∧ isGap c = false
  separate : ∀ d, isGap d = true → joins d = false
  taken : ∀ rest, Ends joins rest → next (lexeme ++ rest) = .token t rest

/-- One step takes a lexeme that stands alone. -/
theorem Lexeme.whole {lexeme : List Char} {t : Token} {joins : Char → Bool}
    (h : Lexeme lexeme t joins) : next lexeme = .token t [] := by
  have htaken := h.taken [] ends_nil
  rwa [List.append_nil] at htaken

/-- A gap ends every lexeme. -/
theorem Lexeme.ends_of_gap {lexeme : List Char} {t : Token} {joins : Char → Bool}
    (h : Lexeme lexeme t joins) {rest : List Char} (hrest : ∀ d ∈ rest.head?, isGap d = true) :
    Ends joins rest :=
  fun d hd => h.separate d (hrest d hd)

theorem lexeme_of_front {c : Char} {more : List Char} {t : Token} {joins : Char → Bool}
    (solid : isGap c = false) (separate : ∀ d, isGap d = true → joins d = false)
    (h : ∀ rest, Ends joins rest → front c (more ++ rest) = .token t rest) :
    Lexeme (c :: more) t joins where
  solid := ⟨c, more, rfl, solid⟩
  separate := separate
  taken rest hrest := by
    rw [List.cons_append, next_cons solid, h rest hrest]

/-- What holds of the four characters of a gap. -/
theorem forall_isGap {p : Char → Prop} (space : p ' ') (tab : p '\t') (carriage : p '\r')
    (line : p '\n') (d : Char) (h : isGap d = true) : p d := by
  unfold isGap at h
  simp only [Bool.or_eq_true, beq_iff_eq] at h
  rcases h with ((rfl | rfl) | rfl) | rfl
  · exact space
  · exact tab
  · exact carriage
  · exact line

theorem not_isGap {p : Char → Bool} (h : ∀ d, isGap d = true → p d = false) {c : Char}
    (hc : p c = true) : isGap c = false := by
  cases hgap : isGap c with
  | false => rfl
  | true =>
    rw [h c hgap] at hc
    cases hc

/-- Nothing joins on to a mark. -/
theorem lexeme_mark {c : Char} {t : Token} (solid : isGap c = false)
    (h : ∀ rest, front c rest = .token t rest) : Lexeme [c] t (fun _ => false) :=
  lexeme_of_front solid (fun _ _ => rfl) fun rest _ => h rest

section Comparisons

theorem front_greater (rest : List Char) :
    front '>' rest =
      match rest with
      | '=' :: rest => .token (.operator .greaterEqual) rest
      | _ => .token (.operator .greater) rest :=
  rfl

theorem front_less (rest : List Char) :
    front '<' rest =
      match rest with
      | '=' :: rest => .token (.operator .lessEqual) rest
      | '>' :: rest => .token (.operator .notEqual) rest
      | _ => .token (.operator .less) rest :=
  rfl

theorem lexeme_greater : Lexeme ['>'] (.operator .greater) (· == '=') := by
  refine lexeme_of_front (by decide) (forall_isGap rfl rfl rfl rfl) ?_
  intro rest hrest
  show front '>' rest = _
  rw [front_greater]
  split
  · exact absurd (ends_cons.mp hrest) (by decide)
  · rfl

theorem lexeme_less : Lexeme ['<'] (.operator .less) (fun d => d == '=' || d == '>') := by
  refine lexeme_of_front (by decide) (forall_isGap rfl rfl rfl rfl) ?_
  intro rest hrest
  show front '<' rest = _
  rw [front_less]
  split
  · exact absurd (ends_cons.mp hrest) (by decide)
  · exact absurd (ends_cons.mp hrest) (by decide)
  · rfl

theorem lexeme_greaterEqual : Lexeme ['>', '='] (.operator .greaterEqual) (fun _ => false) :=
  lexeme_of_front (by decide) (fun _ _ => rfl) fun _ _ => rfl

theorem lexeme_lessEqual : Lexeme ['<', '='] (.operator .lessEqual) (fun _ => false) :=
  lexeme_of_front (by decide) (fun _ _ => rfl) fun _ _ => rfl

theorem lexeme_notEqual : Lexeme ['<', '>'] (.operator .notEqual) (fun _ => false) :=
  lexeme_of_front (by decide) (fun _ _ => rfl) fun _ _ => rfl

end Comparisons

/-! ### Strings -/

theorem front_quote (rest : List Char) :
    front '\'' rest =
      match scanString? rest with
      | some (text, rest) => .token (.literal (.string (String.ofList text))) rest
      | none => .openString :=
  rfl

theorem scanString?_append {text : List Char} (h : ∀ c ∈ text, (c != '\'') = true)
    (rest : List Char) : scanString? (text ++ '\'' :: rest) = some (text, rest) := by
  have hends : Ends (· != '\'') ('\'' :: rest) := ends_cons.mpr rfl
  unfold scanString?
  rw [dropWhile_append_of_ends h hends, takeWhile_append_of_ends h hends]

theorem of_scanString?_some {s text rest : List Char} (h : scanString? s = some (text, rest)) :
    s = text ++ '\'' :: rest ∧ ∀ c ∈ text, (c != '\'') = true := by
  have hs : s.takeWhile (· != '\'') ++ s.dropWhile (· != '\'') = s := List.takeWhile_append_dropWhile
  have hends : Ends (· != '\'') (s.dropWhile (· != '\'')) := ends_dropWhile s
  unfold scanString? at h
  split at h
  · cases h
  · next quote rest' hdrop =>
    cases h
    rw [hdrop] at hs hends
    have hquote : quote = '\'' := by simpa using ends_cons.mp hends
    rw [hquote] at hs
    exact ⟨hs.symm, List.all_eq_true.mp List.all_takeWhile⟩

theorem lexeme_string {text : List Char} (h : ∀ c ∈ text, (c != '\'') = true) :
    Lexeme ('\'' :: (text ++ ['\''])) (.literal (.string (String.ofList text))) (fun _ => false) := by
  refine lexeme_of_front (by decide) (fun _ _ => rfl) ?_
  intro rest _
  rw [List.append_assoc, List.singleton_append]
  rw [front_quote, scanString?_append h]

/-! ### Numbers -/

/-- What a number may start with. -/
def startsNumber (c : Char) : Bool :=
  isDecimalDigit c || c == '.'

theorem isDecimalDigit_point : isDecimalDigit '.' = false := by decide

theorem front_number {c : Char} (h : startsNumber c = true) (rest : List Char) :
    front c rest = scanNumber (c :: rest) := by
  unfold startsNumber at h
  unfold front
  split
  case h_14 => rw [if_pos h]
  all_goals exact absurd h (by decide)

theorem startsNumber_of_isGap : ∀ d, isGap d = true → startsNumber d = false :=
  forall_isGap (by decide) (by decide) (by decide) (by decide)

theorem isDecimalDigit_of_isGap : ∀ d, isGap d = true → isDecimalDigit d = false :=
  forall_isGap (by decide) (by decide) (by decide) (by decide)

theorem lexeme_of_scanNumber {lexeme : List Char} {t : Token} {joins : Char → Bool}
    (opens : ∃ c more, lexeme = c :: more ∧ startsNumber c = true)
    (separate : ∀ d, isGap d = true → joins d = false)
    (h : ∀ rest, Ends joins rest → scanNumber (lexeme ++ rest) = .token t rest) :
    Lexeme lexeme t joins := by
  obtain ⟨c, more, rfl, hc⟩ := opens
  refine lexeme_of_front (not_isGap startsNumber_of_isGap hc) separate fun rest hrest => ?_
  rw [front_number hc]
  exact h rest hrest

section Number

variable {whole fraction : List Char}

/-- Digits go on with digits, and with a point. -/
theorem lexeme_digits (hwhole : ∀ c ∈ whole, isDecimalDigit c = true) (hne : whole ≠ []) :
    Lexeme whole (numberToken whole []) startsNumber := by
  refine lexeme_of_scanNumber ?_ startsNumber_of_isGap ?_
  · obtain ⟨c, more, rfl⟩ := List.exists_cons_of_ne_nil hne
    exact ⟨c, more, rfl, Bool.or_eq_true_iff.mpr (Or.inl (hwhole c List.mem_cons_self))⟩
  · intro rest hrest
    have hends : Ends isDecimalDigit rest := fun d hd =>
      (Bool.or_eq_false_iff.mp (hrest d hd)).1
    unfold scanNumber
    dsimp only
    rw [takeWhile_append_of_ends hwhole hends, dropWhile_append_of_ends hwhole hends]
    split
    · exact absurd (ends_cons.mp hrest) (by decide)
    · rfl

theorem lexeme_pointed (hwhole : ∀ c ∈ whole, isDecimalDigit c = true)
    (hfraction : ∀ c ∈ fraction, isDecimalDigit c = true) (hne : fraction ≠ []) :
    Lexeme (whole ++ '.' :: fraction) (numberToken whole fraction) isDecimalDigit := by
  refine lexeme_of_scanNumber ?_ isDecimalDigit_of_isGap ?_
  · cases whole with
    | nil => exact ⟨'.', fraction, rfl, rfl⟩
    | cons c more =>
      exact ⟨c, _, rfl, Bool.or_eq_true_iff.mpr (Or.inl (hwhole c List.mem_cons_self))⟩
  · intro rest hrest
    have hpoint : Ends isDecimalDigit ('.' :: (fraction ++ rest)) := ends_cons.mpr isDecimalDigit_point
    rw [List.append_assoc, List.cons_append]
    unfold scanNumber
    dsimp only
    rw [takeWhile_append_of_ends hwhole hpoint, dropWhile_append_of_ends hwhole hpoint]
    show (if ((fraction ++ rest).takeWhile isDecimalDigit).isEmpty then _ else _) = _
    rw [takeWhile_append_of_ends hfraction hrest, dropWhile_append_of_ends hfraction hrest,
      if_neg (by simpa using hne)]

end Number

/-- A number is digits up to where no number goes on, or has a point and a fraction. -/
theorem of_scanNumber_token {s rest : List Char} {t : Token} (h : scanNumber s = .token t rest) :
    (∃ whole, s = whole ++ rest ∧ t = numberToken whole [] ∧
        (∀ c ∈ whole, isDecimalDigit c = true) ∧ Ends startsNumber rest) ∨
      ∃ whole fraction, s = whole ++ '.' :: fraction ++ rest ∧ t = numberToken whole fraction ∧
        (∀ c ∈ whole, isDecimalDigit c = true) ∧ (∀ c ∈ fraction, isDecimalDigit c = true) ∧
        fraction ≠ [] ∧ Ends isDecimalDigit rest := by
  have hwhole : ∀ c ∈ s.takeWhile isDecimalDigit, isDecimalDigit c = true :=
    List.all_eq_true.mp List.all_takeWhile
  have hs : s.takeWhile isDecimalDigit ++ s.dropWhile isDecimalDigit = s :=
    List.takeWhile_append_dropWhile
  have hends : Ends isDecimalDigit (s.dropWhile isDecimalDigit) := ends_dropWhile s
  unfold scanNumber at h
  dsimp only at h
  split at h
  · next more hmore =>
    rw [hmore] at hs
    split at h
    · cases h
    · next hne =>
      cases h
      refine Or.inr ⟨_, _, ?_, rfl, hwhole, List.all_eq_true.mp List.all_takeWhile, ?_,
        ends_dropWhile more⟩
      · rw [List.append_assoc, List.cons_append, List.takeWhile_append_dropWhile, hs]
      · simpa using hne
  · next hpoint =>
    cases h
    refine Or.inl ⟨_, hs.symm, rfl, hwhole, ends_iff.mpr ?_⟩
    intro d more hrest
    refine Bool.or_eq_false_iff.mpr ⟨ends_iff.mp hends d more hrest, beq_eq_false_iff_ne.mpr ?_⟩
    -- a point would have started a fraction
    rintro rfl
    exact hpoint more hrest

/-! ### Words -/

theorem continuesWord_of_isGap : ∀ d, isGap d = true → continuesWord d = false :=
  forall_isGap (by decide) (by decide) (by decide) (by decide)

theorem continuesWord_of_startsWord {c : Char} (h : startsWord c = true) : continuesWord c = true :=
  Bool.or_eq_true_iff.mpr (Or.inl (Bool.and_eq_true_iff.mp h).1)

theorem front_word {c : Char} (h : startsWord c = true) (rest : List Char) :
    front c rest = .token (wordToken (String.ofList (c :: rest.takeWhile continuesWord)))
      (rest.dropWhile continuesWord) := by
  have hnumber : ¬ (isDecimalDigit c || c == '.') = true := by
    intro hnumber
    rcases Bool.or_eq_true_iff.mp hnumber with hd | hdot
    · simp [startsWord, hd] at h
    · rw [beq_iff_eq.mp hdot] at h
      exact absurd h (by decide)
  unfold front
  split
  case h_14 => rw [if_neg hnumber, if_pos h]
  all_goals exact absurd h (by decide)

theorem lexeme_word {c : Char} {more : List Char} (hc : startsWord c = true)
    (hmore : ∀ d ∈ more, continuesWord d = true) :
    Lexeme (c :: more) (wordToken (String.ofList (c :: more))) continuesWord := by
  refine lexeme_of_front (not_isGap continuesWord_of_isGap (continuesWord_of_startsWord hc))
    continuesWord_of_isGap ?_
  intro rest hrest
  rw [front_word hc, takeWhile_append_of_ends hmore hrest, dropWhile_append_of_ends hmore hrest]

/-! ## What the lexer takes is a lexeme -/

theorem exists_lexeme_of_front {c : Char} {s rest : List Char} {t : Token}
    (h : front c s = .token t rest) :
    ∃ more joins, s = more ++ rest ∧ Lexeme (c :: more) t joins ∧ Ends joins rest := by
  have hmark : ∀ {c t}, isGap c = false → (∀ rest, front c rest = .token t rest) →
      ∃ more joins, rest = more ++ rest ∧ Lexeme (c :: more) t joins ∧ Ends joins rest :=
    fun solid h => ⟨[], _, rfl, lexeme_mark solid h, fun _ _ => rfl⟩
  unfold front at h
  split at h
  -- `>` and `<`, a quote, and the default with numbers and words; the cases before them are marks
  case h_11 =>
    split at h
    · cases h
      exact ⟨['='], _, rfl, lexeme_greaterEqual, fun _ _ => rfl⟩
    · next hother =>
      cases h
      refine ⟨[], _, rfl, lexeme_greater, ends_iff.mpr fun d more hrest => ?_⟩
      exact beq_eq_false_iff_ne.mpr (by rintro rfl; exact hother more hrest)
  case h_12 =>
    split at h
    · cases h
      exact ⟨['='], _, rfl, lexeme_lessEqual, fun _ _ => rfl⟩
    · cases h
      exact ⟨['>'], _, rfl, lexeme_notEqual, fun _ _ => rfl⟩
    · next hequal hgreater =>
      cases h
      refine ⟨[], _, rfl, lexeme_less, ends_iff.mpr fun d more hrest => ?_⟩
      refine Bool.or_eq_false_iff.mpr ⟨?_, ?_⟩
      · exact beq_eq_false_iff_ne.mpr (by rintro rfl; exact hequal more hrest)
      · exact beq_eq_false_iff_ne.mpr (by rintro rfl; exact hgreater more hrest)
  case h_13 =>
    split at h
    · next hscan =>
      cases h
      obtain ⟨rfl, htext⟩ := of_scanString?_some hscan
      exact ⟨_, _, by simp, lexeme_string htext, fun _ _ => rfl⟩
    · cases h
  case h_14 =>
    split at h
    · next hnumber =>
      rcases of_scanNumber_token h with
        ⟨whole, hs, rfl, hwhole, hends⟩ | ⟨whole, fraction, hs, rfl, hwhole, hfraction, hne, hends⟩
      · cases whole with
        | nil =>
          -- the first character is a number already
          rw [List.nil_append] at hs
          rw [← hs, ends_cons] at hends
          exact absurd (hnumber.symm.trans hends) (by decide)
        | cons d more =>
          obtain ⟨rfl, rfl⟩ := List.cons.inj hs
          exact ⟨more, _, rfl, lexeme_digits hwhole (List.cons_ne_nil _ _), hends⟩
      · have hlexeme := lexeme_pointed hwhole hfraction hne
        obtain ⟨d, more, hopens, -⟩ := hlexeme.solid
        rw [hopens] at hs hlexeme
        obtain ⟨rfl, rfl⟩ := List.cons.inj hs
        exact ⟨more, _, rfl, hlexeme, hends⟩
    · split at h
      · next hword =>
        cases h
        exact ⟨_, _, List.takeWhile_append_dropWhile.symm,
          lexeme_word hword (List.all_eq_true.mp List.all_takeWhile), ends_dropWhile s⟩
      · cases h
  all_goals
    cases h
    exact hmark rfl fun _ => rfl

/-- What `next` takes from a text is a lexeme behind a gap, and the rest does not join on to it. -/
theorem exists_lexeme {s rest : List Char} {t : Token} (h : next s = .token t rest) :
    ∃ gap lexeme joins, s = gap ++ (lexeme ++ rest) ∧ Gap gap ∧ Lexeme lexeme t joins ∧
      Ends joins rest := by
  rcases gap_or_exists_solid s with hgap | ⟨gap, c, more, rfl, hgap, hc⟩
  · rw [next_finished_iff.mpr hgap] at h
    cases h
  · rw [next_gap hgap, next_cons hc] at h
    split at h
    · next hfront =>
      cases h
      obtain ⟨used, joins, rfl, hlexeme, hends⟩ := exists_lexeme_of_front hfront
      exact ⟨gap, c :: used, joins, rfl, hgap, hlexeme, hends⟩
    all_goals cases h

/-- What a stray character in front is. -/
theorem of_front_stray {c c' : Char} {s : List Char} (h : front c s = .stray c') : c' = c := by
  unfold front at h
  split at h
  case h_11 | h_12 | h_13 => split at h <;> cases h
  case h_14 =>
    split at h
    · unfold scanNumber at h
      dsimp only at h
      split at h
      · split at h <;> cases h
      · cases h
    · split at h <;> cases h
      rfl
  all_goals cases h

theorem of_front_broken {c : Char} {s text after : List Char}
    (h : front c s = .brokenNumber text after) : c :: s = text ++ after := by
  unfold front at h
  split at h
  case h_11 | h_12 | h_13 => split at h <;> cases h
  case h_14 =>
    split at h
    · unfold scanNumber at h
      dsimp only at h
      split at h
      · next more hmore =>
        split at h
        · cases h
          rw [List.append_assoc, List.singleton_append, ← hmore, List.takeWhile_append_dropWhile]
        · cases h
      · cases h
    · split at h <;> cases h
  all_goals cases h

end Lexer

/-- What has been consumed of a text from a fault on. -/
def LexCause.consumed : LexCause → List Char
  | .invalidNumber text => text.toList
  | _ => []

namespace Lexer

/-- A fault is met behind a gap, in front of something, and depends on nothing before it. -/
theorem exists_fault {s before after : List Char} {cause : LexCause}
    (h : next s = .fault cause before after) :
    ∃ gap, s = gap ++ before ∧ Gap gap ∧ before ≠ [] ∧ cause ≠ .noTokens ∧
      before = cause.consumed ++ after := by
  rcases gap_or_exists_solid s with hgap | ⟨gap, c, more, rfl, hgap, hc⟩
  · rw [next_finished_iff.mpr hgap] at h
    cases h
  · rw [next_gap hgap, next_cons hc] at h
    split at h
    case h_1 => cases h
    case h_2 hfront =>
      cases h
      refine ⟨gap, rfl, hgap, List.cons_ne_nil _ _, nofun, ?_⟩
      rw [of_front_broken hfront]
      exact congrArg (· ++ _) String.toList_ofList.symm
    case h_3 =>
      cases h
      exact ⟨gap, rfl, hgap, List.cons_ne_nil _ _, nofun, rfl⟩
    case h_4 hfront =>
      rw [of_front_stray hfront] at h
      cases h
      exact ⟨gap, rfl, hgap, List.cons_ne_nil _ _, nofun, rfl⟩

end Lexer

end Reckon
