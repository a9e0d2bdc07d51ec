import Reckon.Proofs.Token.Cutting

/-!
# `Proofs.Token.Spelling` — what spells a token

Marks have one spelling, reserved words one for each choice of letter cases; a number is spelled by its
numerals, a text by itself between quotes, and a name by itself. Every spelling is a lexeme with that
token (`Token.Spelled.exists_lexeme`), so tokens are read back from a text that spells them one by one,
with gaps between them.

Main statement: `tokenize_written`.
-/

namespace Reckon

open Lexer Text

/-- Digits, perhaps with a point and digits behind it. -/
structure Number.Numeral.Plain (n : Number.Numeral) : Prop where
  whole : n.whole.all isDecimalDigit = true
  fraction : n.fraction.all isDecimalDigit = true
  filled : n.whole ≠ []
  exponent : n.exponent = 0

/-- The characters of a plain numeral. -/
def Number.Numeral.text (n : Number.Numeral) : List Char :=
  if n.fraction = [] then n.whole else n.whole ++ '.' :: n.fraction

namespace Token

/-- The tokens with one spelling. -/
def marks : List Token :=
  [parenOpen, parenClose, bracketOpen, bracketClose, comma, operator .plus, operator .minus,
    operator .times, operator .divide, operator .equal, operator .notEqual, operator .greater,
    operator .greaterEqual, operator .less, operator .lessEqual]

/-- The tokens of reserved words. -/
def keywords : List Token :=
  [literal (.boolean true), literal (.boolean false), operator .and, operator .or, operator .xor,
    operator .not, operator .div, operator .mod]

/-- A word that is not reserved. -/
structure IsName (name : String) : Prop where
  word : ∃ c more, name.toList = c :: more ∧ startsWord c = true ∧ more.all continuesWord = true
  free : reserved? (lower name) = none

/-- The characters spell the token. -/
inductive Spelled : Token → List Char → Prop where
  | mark {t : Token} (h : t ∈ marks) : Spelled t t.symbol.toList
  /-- in any letter case -/
  | keyword {t : Token} {word : List Char} (h : t ∈ keywords)
      (hword : word.map Char.toLower = t.symbol.toList) : Spelled t word
  | number {n : Number.Numeral} (h : n.Plain) : Spelled (literal (.number n.value)) n.text
  | string {text : String} (h : ∀ c ∈ text.toList, c ≠ '\'') :
      Spelled (literal (.string text)) ('\'' :: (text.toList ++ ['\'']))
  | name {name : String} (h : IsName name) : Spelled (identifier name) name.toList

theorem exists_spelled_keyword {t : Token} (h : t ∈ keywords) : ∃ lexeme, Spelled t lexeme := by
  have hlower : ∀ t ∈ keywords, t.symbol.toList.map Char.toLower = t.symbol.toList := by
    unfold keywords
    simp only [List.forall_mem_cons]
    exact ⟨rfl, rfl, rfl, rfl, rfl, rfl, rfl, rfl, nofun⟩
  exact ⟨_, .keyword h (hlower t h)⟩

/-- Every operator but the conditional has a spelling. -/
theorem exists_spelled_operator {op : Operator} (h : op ≠ .conditional) :
    ∃ lexeme, Spelled (operator op) lexeme := by
  cases op with
  | conditional => exact absurd rfl h
  | and | or | xor | not | div | mod => exact exists_spelled_keyword (by simp [keywords])
  | _ => exact ⟨_, .mark (by simp [marks])⟩

/-! ## Marks -/

theorem exists_lexeme_of_mark : ∀ t ∈ marks, ∃ joins, Lexeme t.symbol.toList t joins := by
  have hmark : ∀ {c : Char} {t : Token}, isGap c = false → (∀ rest, front c rest = .token t rest) →
      ∃ joins, Lexeme [c] t joins := fun solid h => ⟨_, lexeme_mark solid h⟩
  unfold marks
  simp only [List.forall_mem_cons]
  exact ⟨hmark rfl fun _ => rfl, hmark rfl fun _ => rfl, hmark rfl fun _ => rfl,
    hmark rfl fun _ => rfl, hmark rfl fun _ => rfl, hmark rfl fun _ => rfl, hmark rfl fun _ => rfl,
    hmark rfl fun _ => rfl, hmark rfl fun _ => rfl, hmark rfl fun _ => rfl, ⟨_, lexeme_notEqual⟩,
    ⟨_, lexeme_greater⟩, ⟨_, lexeme_greaterEqual⟩, ⟨_, lexeme_less⟩, ⟨_, lexeme_lessEqual⟩, nofun⟩

/-! ## Reserved words -/

section Letters

variable {c : Char}

theorem isAlpha_of_toLower (h : c.toLower.isLower = true) : c.isAlpha = true := by
  by_cases hupper : c.val ≥ 'A'.val ∧ c.val ≤ 'Z'.val
  · exact Bool.or_eq_true_iff.mpr (Or.inl (decide_eq_true hupper))
  · have hsame : c.toLower = c := dif_neg hupper
    rw [hsame] at h
    exact Bool.or_eq_true_iff.mpr (Or.inr h)

theorem bounds_of_isAlpha (h : c.isAlpha = true) :
    (65 ≤ c.val.toNat ∧ c.val.toNat ≤ 90) ∨ (97 ≤ c.val.toNat ∧ c.val.toNat ≤ 122) := by
  rcases Bool.or_eq_true_iff.mp h with hupper | hlower
  · obtain ⟨hlow, hhigh⟩ := of_decide_eq_true hupper
    exact Or.inl ⟨UInt32.le_iff_toNat_le.mp hlow, UInt32.le_iff_toNat_le.mp hhigh⟩
  · obtain ⟨hlow, hhigh⟩ := Bool.and_eq_true_iff.mp hlower
    exact Or.inr ⟨UInt32.le_iff_toNat_le.mp (of_decide_eq_true hlow),
      UInt32.le_iff_toNat_le.mp (of_decide_eq_true hhigh)⟩

theorem isAscii_of_isAlpha (h : c.isAlpha = true) : c.val < 128 := by
  have hbounds := bounds_of_isAlpha h
  refine UInt32.lt_iff_toNat_lt.mpr ?_
  show c.val.toNat < 128
  omega

theorem not_isDigit_of_isAlpha (h : c.isAlpha = true) : ¬ c.isDigit = true := by
  have hbounds := bounds_of_isAlpha h
  intro hdigit
  obtain ⟨-, hhigh⟩ := Bool.and_eq_true_iff.mp hdigit
  have hhigh : c.val.toNat ≤ 57 := UInt32.le_iff_toNat_le.mp (of_decide_eq_true hhigh)
  omega

theorem startsWord_of_isAlpha (h : c.isAlpha = true) : startsWord c = true := by
  have hascii := isAscii_of_isAlpha h
  have hdecimal : isDecimalDigit c = false := by
    unfold isDecimalDigit digitValue?
    rw [if_pos hascii, if_neg (not_isDigit_of_isAlpha h)]
    rfl
  have hword : isAlphanumeric c = true := by
    unfold isAlphanumeric
    rw [if_pos hascii]
    exact Bool.or_eq_true_iff.mpr (Or.inl h)
  unfold startsWord isWordChar
  rw [hword, hdecimal, Bool.or_true]
  rfl

end Letters

/-- Lower case takes no tables and no context for ASCII. -/
theorem lowerFrom_ascii {before s : List Char} (h : ∀ c ∈ s, c.val < 128) :
    lowerFrom before s = s.map Char.toLower := by
  induction s generalizing before with
  | nil => rfl
  | cons c s ih =>
    have hc : c.val < 128 := h c List.mem_cons_self
    have hsigma : (c == 'Σ') = false := by
      refine beq_eq_false_iff_ne.mpr ?_
      rintro rfl
      exact absurd hc (by decide)
    have hdotted : (c == 'İ') = false := by
      refine beq_eq_false_iff_ne.mpr ?_
      rintro rfl
      exact absurd hc (by decide)
    have hlower : lowerChar c = c.toLower := by
      unfold lowerChar
      rw [if_pos hc]
    unfold lowerFrom
    rw [ih fun d hd => h d (List.mem_cons_of_mem c hd), hsigma, hdotted, hlower]
    rfl

/-- What is a word in lower case is read as that word. -/
theorem exists_lexeme_of_word {word lowered : List Char} {t : Token}
    (hword : word.map Char.toLower = lowered) (hletters : lowered.all Char.isLower = true)
    (hne : lowered ≠ []) (hreserved : reserved? (String.ofList lowered) = some t) :
    ∃ joins, Lexeme word t joins := by
  have halpha : ∀ c ∈ word, c.isAlpha = true := by
    intro c hc
    refine isAlpha_of_toLower (List.all_eq_true.mp hletters _ ?_)
    rw [← hword]
    exact List.mem_map_of_mem hc
  have hlower : lower (String.ofList word) = String.ofList lowered := by
    unfold lower
    rw [String.toList_ofList, lowerFrom_ascii fun c hc => isAscii_of_isAlpha (halpha c hc), hword]
  obtain ⟨c, more, rfl⟩ : ∃ c more, word = c :: more := by
    refine List.exists_cons_of_ne_nil ?_
    rintro rfl
    exact hne hword.symm
  have hlexeme := lexeme_word (startsWord_of_isAlpha (halpha c List.mem_cons_self)) fun d hd =>
    continuesWord_of_startsWord (startsWord_of_isAlpha (halpha d (List.mem_cons_of_mem c hd)))
  unfold wordToken at hlexeme
  rw [hlower, hreserved] at hlexeme
  exact ⟨_, hlexeme⟩

theorem exists_lexeme_of_keyword {word : List Char} :
    ∀ t ∈ keywords, word.map Char.toLower = t.symbol.toList → ∃ joins, Lexeme word t joins := by
  unfold keywords
  simp only [List.forall_mem_cons]
  refine ⟨?_, ?_, ?_, ?_, ?_, ?_, ?_, ?_, nofun⟩
  all_goals exact fun h => exists_lexeme_of_word h (by decide) (by decide) rfl

/-! ## Every spelling is a lexeme -/

theorem Spelled.exists_lexeme {t : Token} {text : List Char} (h : Spelled t text) :
    ∃ joins, Lexeme text t joins := by
  cases h with
  | mark h => exact exists_lexeme_of_mark t h
  | keyword h hword => exact exists_lexeme_of_keyword t h hword
  | @number n h =>
    obtain ⟨whole, fraction, exponent⟩ := n
    obtain rfl : exponent = 0 := h.exponent
    unfold Number.Numeral.text
    dsimp only
    split
    · next hfraction =>
      have hfraction : fraction = [] := hfraction
      subst hfraction
      exact ⟨_, lexeme_digits (List.all_eq_true.mp h.whole) h.filled⟩
    · next hfraction =>
      have hwhole := List.all_eq_true.mp h.whole
      exact ⟨_, lexeme_pointed hwhole (List.all_eq_true.mp h.fraction) hfraction⟩
  | @string text h =>
    have hlexeme := lexeme_string fun c hc => bne_iff_ne.mpr (h c hc)
    rw [String.ofList_toList] at hlexeme
    exact ⟨_, hlexeme⟩
  | @name name h =>
    obtain ⟨c, more, hname, hc, hmore⟩ := h.word
    have hlexeme := lexeme_word hc (List.all_eq_true.mp hmore)
    unfold wordToken at hlexeme
    rw [← hname, String.ofList_toList, h.free] at hlexeme
    rw [hname] at hlexeme ⊢
    exact ⟨_, hlexeme⟩

end Token

/-! ## Texts that spell tokens -/

/-- The text spells the tokens, one after the other, with gaps between them. -/
inductive Written : List Token → String → Prop where
  | single {t : Token} {lexeme : List Char} (h : t.Spelled lexeme) : Written [t] (String.ofList lexeme)
  | cons {t : Token} {lexeme : List Char} {gap text : String} {ts : List Token} (h : t.Spelled lexeme)
      (hgap : Gap gap.toList) (hne : gap ≠ "") (more : Written ts text) :
      Written (t :: ts) (String.ofList lexeme ++ gap ++ text)

/-- **Main theorem.** Tokens are read back from every text that spells them. -/
theorem tokenize_written {ts : List Token} {text : String} (h : Written ts text) :
    tokenize text = .ok ts := by
  induction h with
  | single h =>
    obtain ⟨joins, hlexeme⟩ := h.exists_lexeme
    exact hlexeme.tokenize_eq
  | cons h hgap hne _ ih =>
    obtain ⟨joins, hlexeme⟩ := h.exists_lexeme
    exact tokenize_append hgap hne hlexeme.tokenize_eq ih

/-- Tokens that can be spelled one by one can be spelled in a row. -/
theorem exists_written {ts : List Token} (hne : ts ≠ []) (h : ∀ t ∈ ts, ∃ lexeme, t.Spelled lexeme) :
    ∃ text, Written ts text := by
  induction ts with
  | nil => exact absurd rfl hne
  | cons t ts ih =>
    obtain ⟨lexeme, ht⟩ := h t List.mem_cons_self
    cases ts with
    | nil => exact ⟨_, .single ht⟩
    | cons t' ts =>
      obtain ⟨text, hmore⟩ := ih (List.cons_ne_nil _ _) fun u hu => h u (List.mem_cons_of_mem t hu)
      exact ⟨_, .cons ht (by decide : Gap " ".toList) (by decide) hmore⟩

end Reckon
