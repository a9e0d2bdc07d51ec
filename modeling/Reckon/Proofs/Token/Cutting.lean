import Reckon.Proofs.Token.Lexeme

/-!
# `Proofs.Token.Cutting` — how a text is cut into tokens

The steps of the lexer cut a text into gaps and lexemes (`Reads.exists_pieces`). As a lexeme depends on
one character behind it at most, a text is cut in the same way whatever comes after it, as long as that
starts with the same character or with a gap. So texts with a gap between them are cut one by one, and a
fault is the same fault behind any text that has none.

Main statement: `text_cut_into_lexemes`.
-/

namespace Reckon

namespace Lexer

/-- Steps of the lexer in a row: the tokens that they take from a text, and what they leave of it. -/
inductive Reads : List Char → List Token → List Char → Prop where
  | stay (s : List Char) : Reads s [] s
  | step {s mid rest : List Char} {t : Token} {ts : List Token} (first : next s = .token t mid)
      (more : Reads mid ts rest) : Reads s (t :: ts) rest

/-- A gap, a lexeme behind it that one step of the lexer takes as a whole, and its token. -/
structure Piece where
  gap : List Char
  lexeme : List Char
  token : Token
  blank : Gap gap
  solid : ∃ c more, lexeme = c :: more ∧ isGap c = false
  whole : next lexeme = .token token []

/-- The characters of a piece. -/
def Piece.text (piece : Piece) : List Char :=
  piece.gap ++ piece.lexeme

/-! ## The steps of the lexer, piece by piece -/

/-- One text can stand for another behind a lexeme. -/
def Replaces (rest' rest : List Char) : Prop :=
  rest'.head? = rest.head? ∨ ∀ d ∈ rest'.head?, isGap d = true

theorem replaces_of_gap {gap : List Char} (h : Gap gap) (rest : List Char) : Replaces gap rest :=
  Or.inr fun d hd => h d (List.mem_of_mem_head? hd)

theorem replaces_append (rest : List Char) {gap : List Char} (h : Gap gap) (hne : gap ≠ [])
    (more : List Char) : Replaces (rest ++ (gap ++ more)) rest := by
  cases rest with
  | cons c rest => exact Or.inl rfl
  | nil =>
    refine Or.inr fun d hd => h d ?_
    obtain ⟨c, gap, rfl⟩ := List.exists_cons_of_ne_nil hne
    cases hd
    exact List.mem_cons_self

theorem Lexeme.ends_replace {lexeme : List Char} {t : Token} {joins : Char → Bool}
    (h : Lexeme lexeme t joins) {used rest rest' : List Char} (hends : Ends joins (used ++ rest))
    (hrest : Replaces rest' rest) : Ends joins (used ++ rest') := by
  cases used with
  | cons c used => exact hends
  | nil =>
    rcases hrest with hsame | hgap
    · intro d hd
      rw [List.nil_append, hsame] at hd
      exact hends d hd
    · exact h.ends_of_gap hgap

/-- What the steps of the lexer took is made of pieces, and in front of another rest they take the same. -/
theorem Reads.exists_pieces {s rest : List Char} {ts : List Token} (h : Reads s ts rest) :
    ∃ pieces : List Piece, pieces.map Piece.token = ts ∧ s = pieces.flatMap Piece.text ++ rest ∧
      ∀ rest', Replaces rest' rest → Reads (pieces.flatMap Piece.text ++ rest') ts rest' := by
  induction h with
  | stay s => exact ⟨[], rfl, rfl, fun rest' _ => .stay rest'⟩
  | @step s mid rest t ts first more ih =>
    obtain ⟨gap, lexeme, joins, rfl, hgap, hlexeme, hends⟩ := exists_lexeme first
    obtain ⟨pieces, rfl, rfl, hreads⟩ := ih
    refine ⟨⟨gap, lexeme, t, hgap, hlexeme.solid, hlexeme.whole⟩ :: pieces, rfl, ?_, ?_⟩
    · simp [Piece.text]
    · intro rest' hrest'
      have htaken := hlexeme.taken _ (hlexeme.ends_replace hends hrest')
      rw [← next_gap hgap] at htaken
      refine .step ?_ (hreads rest' hrest')
      simpa [Piece.text] using htaken

/-! ## The tokens of a text -/

theorem tokensFrom_eq (total : Nat) (s : List Char) :
    tokensFrom total s =
      match next s with
      | .finished => .ok []
      | .fault cause before _ => .error ⟨cause, total - before.length⟩
      | .token t rest => (tokensFrom total rest).map (t :: ·) := by
  rw [tokensFrom]
  split <;> rename_i hnext <;> simp only [hnext]
  split <;> rename_i hrest <;> rw [hrest] <;> rfl

theorem tokensFrom_gap {gap : List Char} (h : Gap gap) (total : Nat) (s : List Char) :
    tokensFrom total (gap ++ s) = tokensFrom total s := by
  rw [tokensFrom_eq, next_gap h, ← tokensFrom_eq]

theorem tokensFrom_finished {s : List Char} (h : Gap s) (total : Nat) : tokensFrom total s = .ok [] := by
  rw [tokensFrom_eq, next_finished_iff.mpr h]

theorem Reads.tokensFrom_eq {s rest : List Char} {ts : List Token} (h : Reads s ts rest) (total : Nat) :
    tokensFrom total s = (tokensFrom total rest).map (ts ++ ·) := by
  induction h with
  | stay s => cases tokensFrom total s <;> rfl
  | step first more ih =>
    rw [Lexer.tokensFrom_eq, first]
    dsimp only
    rw [ih]
    cases tokensFrom total _ <;> rfl

theorem Reads.tokensFrom_ok {s rest : List Char} {ts : List Token} (h : Reads s ts rest)
    (hrest : Gap rest) (total : Nat) : tokensFrom total s = .ok ts := by
  rw [h.tokensFrom_eq, tokensFrom_finished hrest]
  exact congrArg Except.ok (List.append_nil ts)

theorem Reads.tokensFrom_error {s rest before after : List Char} {ts : List Token} {cause : LexCause}
    (h : Reads s ts rest) (hfault : next rest = .fault cause before after) (total : Nat) :
    tokensFrom total s = .error ⟨cause, total - before.length⟩ := by
  rw [h.tokensFrom_eq, Lexer.tokensFrom_eq, hfault]
  rfl

/-- The steps go on up to the end of a text or to a fault. -/
theorem exists_reads (s : List Char) :
    ∃ ts rest, Reads s ts rest ∧
      (Gap rest ∨ ∃ cause before after, next rest = .fault cause before after) := by
  cases hnext : next s with
  | finished => exact ⟨[], s, .stay s, Or.inl (next_finished_iff.mp hnext)⟩
  | fault cause before after => exact ⟨[], s, .stay s, Or.inr ⟨cause, before, after, hnext⟩⟩
  | token t mid =>
    have shorter : mid.length < s.length := next_length hnext
    obtain ⟨ts, rest, hreads, hend⟩ := exists_reads mid
    exact ⟨t :: ts, rest, .step hnext hreads, hend⟩
termination_by s.length

end Lexer

open Lexer

section Tokenize

variable {text other : String} {ts us : List Token}

theorem tokenize_of_tokensFrom (hne : ts ≠ []) (h : tokensFrom text.length text.toList = .ok ts) :
    tokenize text = .ok ts := by
  unfold tokenize
  rw [h]
  split
  · next heq => exact absurd (Except.ok.inj heq) hne
  · rfl

theorem tokenize_of_tokensFrom_error {err : LexError}
    (h : tokensFrom text.length text.toList = .error err) : tokenize text = .error err := by
  unfold tokenize
  rw [h]

/-- A text without tokens is a gap. -/
theorem tokenize_of_gap (h : Gap text.toList) : tokenize text = .error ⟨.noTokens, text.length⟩ := by
  unfold tokenize
  rw [tokensFrom_finished h]

/-- The tokens of a text come from steps up to its end, and there is one at least. -/
theorem tokenize_ok_iff :
    tokenize text = .ok ts ↔ ts ≠ [] ∧ ∃ rest, Reads text.toList ts rest ∧ Gap rest := by
  constructor
  · intro h
    obtain ⟨us, rest, hreads, hgap | ⟨cause, before, after, hfault⟩⟩ := exists_reads text.toList
    · have htokens := hreads.tokensFrom_ok hgap text.length
      by_cases hus : us = []
      · subst hus
        unfold tokenize at h
        rw [htokens] at h
        cases h
      · rw [tokenize_of_tokensFrom hus htokens] at h
        cases h
        exact ⟨hus, rest, hreads, hgap⟩
    · rw [tokenize_of_tokensFrom_error (hreads.tokensFrom_error hfault _)] at h
      cases h
  · rintro ⟨hne, rest, hreads, hgap⟩
    exact tokenize_of_tokensFrom hne (hreads.tokensFrom_ok hgap _)

/-- A text has no tokens because it is a gap, or because the steps end in a fault. -/
theorem of_tokenize_error {err : LexError} (h : tokenize text = .error err) :
    (Gap text.toList ∧ err = ⟨.noTokens, text.length⟩) ∨
      ∃ ts rest before after, Reads text.toList ts rest ∧ next rest = .fault err.cause before after ∧
        err.position = text.length - before.length := by
  obtain ⟨us, rest, hreads, hgap | ⟨cause, before, after, hfault⟩⟩ := exists_reads text.toList
  · by_cases hus : us = []
    · subst hus
      cases hreads
      rw [tokenize_of_gap hgap] at h
      cases h
      exact Or.inl ⟨hgap, rfl⟩
    · rw [tokenize_of_tokensFrom hus (hreads.tokensFrom_ok hgap _)] at h
      cases h
  · rw [tokenize_of_tokensFrom_error (hreads.tokensFrom_error hfault _)] at h
    cases h
    exact Or.inr ⟨us, rest, before, after, hreads, hfault, rfl⟩

/-- Behind a text that has tokens, and a gap, a text is cut as it is cut alone. -/
theorem tokensFrom_append (h : tokenize text = .ok ts) {gap : List Char} (hgap : Gap gap)
    (hne : gap ≠ []) (total : Nat) (s : List Char) :
    tokensFrom total (text.toList ++ (gap ++ s)) = (tokensFrom total s).map (ts ++ ·) := by
  obtain ⟨-, rest, hreads, hrest⟩ := tokenize_ok_iff.mp h
  obtain ⟨pieces, -, htext, hpieces⟩ := hreads.exists_pieces
  -- the gap behind the text keeps what follows from joining on to its last lexeme
  have hmore := hpieces _ (replaces_append rest hgap hne s)
  rw [← List.append_assoc, ← htext] at hmore
  rw [hmore.tokensFrom_eq, tokensFrom_gap hrest, tokensFrom_gap hgap]

theorem tokenize_of_next {lexeme : List Char} {t : Token} (h : next lexeme = .token t []) :
    tokenize (String.ofList lexeme) = .ok [t] := by
  refine tokenize_ok_iff.mpr ⟨List.cons_ne_nil _ _, [], ?_, nofun⟩
  rw [String.toList_ofList]
  exact .step h (.stay [])

/-- A lexeme that stands alone has its one token. -/
theorem Lexer.Lexeme.tokenize_eq {lexeme : List Char} {t : Token} {joins : Char → Bool}
    (h : Lexeme lexeme t joins) : tokenize (String.ofList lexeme) = .ok [t] :=
  tokenize_of_next h.whole

theorem tokenize_append {gap : String} (hgap : Gap gap.toList) (hne : gap ≠ "")
    (h : tokenize text = .ok ts) (h' : tokenize other = .ok us) :
    tokenize (text ++ gap ++ other) = .ok (ts ++ us) := by
  obtain ⟨hts, -⟩ := tokenize_ok_iff.mp h
  obtain ⟨-, rest, hreads, hrest⟩ := tokenize_ok_iff.mp h'
  refine tokenize_of_tokensFrom (by simp [hts]) ?_
  rw [String.toList_append, String.toList_append, List.append_assoc,
    tokensFrom_append h hgap (by simpa using hne), hreads.tokensFrom_ok hrest]
  rfl

/-- A fault stands in the text, behind the tokens taken so far. -/
theorem tokenize_fault {err : LexError} (h : tokenize text = .error err)
    (hcause : err.cause ≠ .noTokens) :
    err.position < text.length ∧ ∃ ts rest after, Reads text.toList ts rest ∧
      next rest = .fault err.cause (text.toList.drop err.position) after ∧
      text.toList.drop err.position = err.cause.consumed ++ after ∧
      (ts ≠ [] → tokenize (String.ofList (text.toList.take err.position)) = .ok ts) ∧
      (ts = [] → Gap (text.toList.take err.position)) := by
  rcases of_tokenize_error h with ⟨-, rfl⟩ | ⟨ts, rest, before, after, hreads, hfault, hposition⟩
  · exact absurd rfl hcause
  obtain ⟨gap, rfl, hgap, hne, -, hconsumed⟩ := exists_fault hfault
  obtain ⟨pieces, rfl, htext, hpieces⟩ := hreads.exists_pieces
  -- the pieces before the fault are read alike with only the gap left behind them
  have hreads' := hpieces gap (replaces_of_gap hgap _)
  rw [← List.append_assoc] at htext
  have hlength : 0 < before.length := List.length_pos_iff.mpr hne
  have htotal : text.length = (pieces.flatMap Piece.text ++ gap).length + before.length := by
    rw [← String.length_toList, htext, List.length_append]
  have hplace : err.position = (pieces.flatMap Piece.text ++ gap).length := by
    rw [hposition, htotal, Nat.add_sub_cancel]
  have htake : text.toList.take err.position = pieces.flatMap Piece.text ++ gap := by
    rw [htext, hplace, List.take_left]
  have hdrop : text.toList.drop err.position = before := by
    rw [htext, hplace, List.drop_left]
  rw [htake, hdrop]
  refine ⟨?_, _, _, after, hreads, hfault, hconsumed, ?_, ?_⟩
  · rw [hplace, htotal]
    exact Nat.lt_add_of_pos_right hlength
  · intro hts
    refine tokenize_ok_iff.mpr ⟨hts, gap, ?_, hgap⟩
    rw [String.toList_ofList]
    exact hreads'
  · intro hts
    rw [List.map_eq_nil_iff.mp hts]
    exact hgap

/-- Behind a text that has tokens, and a gap, a fault is the same fault. -/
theorem tokenize_append_fault {gap : String} {err : LexError} (hgap : Gap gap.toList) (hne : gap ≠ "")
    (h : tokenize other = .ok us) (h' : tokenize text = .error err) (hcause : err.cause ≠ .noTokens) :
    tokenize (other ++ gap ++ text) =
      .error ⟨err.cause, other.length + gap.length + err.position⟩ := by
  rcases of_tokenize_error h' with ⟨-, rfl⟩ | ⟨ts, rest, before, after, hreads, hfault, hposition⟩
  · exact absurd rfl hcause
  have hlength : before.length ≤ text.length := by
    obtain ⟨front, rfl, -⟩ := exists_fault hfault
    obtain ⟨pieces, -, htext, -⟩ := hreads.exists_pieces
    rw [← String.length_toList, htext, List.length_append, List.length_append]
    omega
  refine tokenize_of_tokensFrom_error ?_
  rw [String.toList_append, String.toList_append, List.append_assoc,
    tokensFrom_append h hgap (by simpa using hne), hreads.tokensFrom_error hfault, String.length_append,
    String.length_append, hposition, Nat.add_sub_assoc hlength]
  rfl

end Tokenize

/-- **Main theorem.** The steps of the lexer cut a text from the left into gaps and lexemes, and a lexeme
has the same one token when it stands alone. With a gap between them, two texts have the tokens of the
one and the other. A fault stands in the text behind the tokens taken so far, and is met in the same place
behind another text that has tokens, and a gap. That there are no tokens is what is wrong with gaps only. -/
theorem text_cut_into_lexemes (text : String) :
    (∀ ts rest, Reads text.toList ts rest → ∃ pieces : List Piece, pieces.map Piece.token = ts ∧
        text.toList = pieces.flatMap Piece.text ++ rest ∧
        ∀ piece ∈ pieces, tokenize (String.ofList piece.lexeme) = .ok [piece.token]) ∧
      (∀ ts, tokenize text = .ok ts ↔ ts ≠ [] ∧ ∃ rest, Reads text.toList ts rest ∧ Gap rest) ∧
      (∀ gap other ts us, Gap gap.toList → gap ≠ "" → tokenize text = .ok ts →
        tokenize other = .ok us → tokenize (text ++ gap ++ other) = .ok (ts ++ us)) ∧
      (∀ err, tokenize text = .error err → err.cause ≠ .noTokens →
        (err.position < text.length ∧ ∃ ts rest after, Reads text.toList ts rest ∧
          next rest = .fault err.cause (text.toList.drop err.position) after ∧
          text.toList.drop err.position = err.cause.consumed ++ after ∧
          (ts ≠ [] → tokenize (String.ofList (text.toList.take err.position)) = .ok ts) ∧
          (ts = [] → Gap (text.toList.take err.position))) ∧
        ∀ gap other us, Gap gap.toList → gap ≠ "" → tokenize other = .ok us →
          tokenize (other ++ gap ++ text) =
            .error ⟨err.cause, other.length + gap.length + err.position⟩) ∧
      ((∃ err, tokenize text = .error err ∧ err.cause = .noTokens) ↔ Gap text.toList) := by
  refine ⟨?_, fun ts => tokenize_ok_iff, ?_, ?_, ?_⟩
  · intro ts rest hreads
    obtain ⟨pieces, hts, htext, -⟩ := hreads.exists_pieces
    exact ⟨pieces, hts, htext, fun piece _ => tokenize_of_next piece.whole⟩
  · exact fun gap other ts us hgap hne => tokenize_append hgap hne
  · intro err h hcause
    exact ⟨tokenize_fault h hcause, fun gap other us hgap hne h' =>
      tokenize_append_fault hgap hne h' h hcause⟩
  · constructor
    · rintro ⟨err, h, hcause⟩
      rcases of_tokenize_error h with ⟨hgap, -⟩ | ⟨ts, rest, before, after, -, hfault, -⟩
      · exact hgap
      · obtain ⟨-, -, -, -, hother, -⟩ := exists_fault hfault
        exact absurd hcause hother
    · exact fun hgap => ⟨_, tokenize_of_gap hgap, rfl⟩

/-- A stray character, behind two names that are compared. -/
theorem stray_behind_comparison :
    tokenize "a<=b #" = .error ⟨.invalidCharacter '#', 5⟩ ∧
      tokenize "a<=b" = .ok [.identifier "a", .operator .lessEqual, .identifier "b"] ∧
      tokenize "'<' a<=b #" = .error ⟨.invalidCharacter '#', 9⟩ := by
  have hcomparison : Reads ['a', '<', '=', 'b']
      [.identifier "a", .operator .lessEqual, .identifier "b"] [] :=
    .step rfl (.step rfl (.step rfl (.stay [])))
  have hreads : Reads ['a', '<', '=', 'b', ' ', '#']
      [.identifier "a", .operator .lessEqual, .identifier "b"] [' ', '#'] :=
    .step rfl (.step rfl (.step rfl (.stay [' ', '#'])))
  have hfault : tokenize "a<=b #" = .error ⟨.invalidCharacter '#', 5⟩ :=
    tokenize_of_tokensFrom_error (hreads.tokensFrom_error rfl 6)
  have hquoted : tokenize "'<'" = .ok [.literal (.string "<")] :=
    tokenize_of_next (show next ['\'', '<', '\''] = .token (.literal (.string "<")) [] from rfl)
  obtain ⟨-, -, -, hlocal, -⟩ := text_cut_into_lexemes "a<=b #"
  obtain ⟨-, hbehind⟩ := hlocal _ hfault nofun
  refine ⟨hfault, tokenize_of_tokensFrom (List.cons_ne_nil _ _) (hcomparison.tokensFrom_ok nofun 4), ?_⟩
  exact hbehind " " "'<'" _ (by decide) (by decide) hquoted

end Reckon
