import Reckon.Proofs.Expr.Reading

/-!
# `Proofs.Expr.Parsing` — the parser reads exactly the grammar

Soundness goes along the calls of the parser, on the number of tokens that are left; completeness goes
along a derivation. Both have to say where reading stops. A phrase of a level is followed by a token
that binds no tighter than that level (`headLevel`): otherwise the parser would have read on, and that
is why an operand is never cut short.
-/

namespace Reckon

namespace Parser

open Grammar

/-! ## Soundness -/

mutual

theorem readPhrase_sound {allowance : Allowance} {level : Nat} {ts rest : List Token} {e : Expr}
    (low : 1 ≤ level) (high : level ≤ 7) (h : readPhrase allowance level ts = .ok (e, rest)) :
    ∃ used, ts = used ++ rest ∧ Phrase level used e ∧ headLevel rest < level := by
  rw [readPhrase_eq] at h
  cases hd : allowance.descend with
  | none =>
    rw [hd] at h
    cases h
  | some inner =>
    rw [hd] at h
    obtain ⟨⟨left, mid⟩, hleft, hchain⟩ := Except.exists_of_bind_ok h
    have shorter : mid.length < ts.length := bare_property hleft
    obtain ⟨used, tightest, rfl, hm, hm', hphrase, hhead⟩ := readOperand_sound hleft
    obtain ⟨more, rfl, hphrase', hhead'⟩ :=
      readChain_sound low (by omega) hm' hphrase hhead hchain
    exact ⟨used ++ more, by rw [List.append_assoc], hphrase', hhead'⟩
termination_by (ts.length, 2)

/-- An operand is a phrase of one of the two tightest levels. -/
theorem readOperand_sound {allowance : Allowance} {ts rest : List Token} {e : Expr}
    (h : readOperand allowance ts = .ok (e, rest)) :
    ∃ used level, ts = used ++ rest ∧ 7 ≤ level ∧ level ≤ 8 ∧ Phrase level used e ∧
      headLevel rest ≤ level := by
  cases ts with
  | nil =>
    rw [readOperand_nil] at h
    cases h
  | cons t us =>
    cases t with
    | literal value =>
      rw [readOperand_literal] at h
      cases h
      exact ⟨_, 8, rfl, by decide, by decide, .literal value, headLevel_le _⟩
    | identifier name =>
      rw [readOperand_identifier] at h
      cases h
      exact ⟨_, 8, rfl, by decide, by decide, .identifier name, headLevel_le _⟩
    | parenOpen =>
      rw [readOperand_parenOpen] at h
      obtain ⟨⟨x, mid⟩, hx, h⟩ := Except.exists_of_bind_ok h
      obtain ⟨after, hclose, h⟩ := Except.exists_of_map_ok h
      cases h
      obtain ⟨used, rfl, hphrase, -⟩ := readPhrase_sound (by decide) (by decide) hx
      rw [exists_of_readClose_ok hclose]
      exact ⟨_, 8, by simp [Enclosure.mark], by decide, by decide, .group hphrase, headLevel_le _⟩
    | bracketOpen =>
      rw [readOperand_bracketOpen] at h
      obtain ⟨⟨es, after⟩, hes, h⟩ := Except.exists_of_map_ok h
      cases h
      obtain ⟨used, rfl, hitems⟩ := readItems_sound hes
      exact ⟨_, 8, by simp [Enclosure.mark], by decide, by decide, .array hitems, headLevel_le _⟩
    | operator op =>
      cases hop : opens (.operator op) with
      | false =>
        rw [readOperand_noOperand _ hop] at h
        cases h
      | true =>
        have hop : op ∈ leading := of_decide_eq_true hop
        rw [readOperand_leading _ hop] at h
        obtain ⟨⟨x, mid⟩, hx, h⟩ := Except.exists_of_map_ok h
        cases h
        obtain ⟨used, rfl, hphrase, hhead⟩ := readPhrase_sound (by decide) (by decide) hx
        exact ⟨_, 7, rfl, by decide, by decide, .led hop hphrase, Nat.le_of_lt hhead⟩
    | _ =>
      rw [readOperand_noOperand _ rfl] at h
      cases h
termination_by (ts.length, 1)

/-- What was read before is a phrase, and the next token binds no tighter than its level. Reading on
hands this on from one operator to the next. -/
theorem readChain_sound {allowance : Allowance} {level tightest : Nat} {before ts rest : List Token}
    {left e : Expr} (low : 1 ≤ level) (hle : level ≤ tightest) (high : tightest ≤ 8)
    (hleft : Phrase tightest before left) (hhead : headLevel ts ≤ tightest)
    (h : readChain allowance level left ts = .ok (e, rest)) :
    ∃ used, ts = used ++ rest ∧ Phrase level (before ++ used) e ∧ headLevel rest < level := by
  by_cases hstop : headLevel ts < level
  · -- the next token binds too loosely: what was read before is all there is
    rw [readChain_stop _ _ hstop] at h
    cases h
    refine ⟨[], rfl, ?_, hstop⟩
    rw [List.append_nil]
    exact hleft.weaken low hle high
  · have hgo : level ≤ headLevel ts := Nat.le_of_not_lt hstop
    -- a level is at least 1, so the next token is an operator or an opening parenthesis
    cases ts with
    | nil => exact absurd (Nat.le_trans low hgo) (by decide)
    | cons t us =>
      cases t with
      | operator op =>
        -- what was read before is the left operand, a phrase of the operator's level
        have hgo : level ≤ op.precedence.level := hgo
        have hhead : op.precedence.level ≤ tightest := hhead
        have hlevel := op.level_le
        rw [readChain_operator _ _ hgo] at h
        obtain ⟨⟨right, mid⟩, hright, hchain⟩ := Except.exists_of_bind_ok h
        have shorter : mid.length < us.length := bare_property hright
        obtain ⟨used, rfl, hphrase, hhead'⟩ := readPhrase_sound (by omega) (by omega) hright
        have hop : op ∈ joining op.precedence.level := mem_joining.mpr ⟨by omega, rfl⟩
        have hleft := hleft.weaken (Nat.le_trans low hgo) hhead high
        obtain ⟨more, rfl, hphrase', hhead''⟩ := readChain_sound low hgo (by omega)
          (.joined hop hleft hphrase) (Nat.lt_succ_iff.mp hhead') hchain
        exact ⟨.operator op :: used ++ more, by simp, by simpa using hphrase', hhead''⟩
      | parenOpen =>
        -- only what is of the tightest level can have a parenthesis behind it
        have hgo : level ≤ 8 := hgo
        have htight : tightest = 8 := Nat.le_antisymm high hhead
        subst htight
        by_cases hcall : ∃ name, left = .variable name
        · obtain ⟨name, rfl⟩ := hcall
          rw [readChain_call _ hgo] at h
          obtain ⟨⟨params, mid⟩, hparams, hchain⟩ := Except.exists_of_bind_ok h
          have shorter : mid.length < us.length := bare_property hparams
          obtain ⟨used, rfl, hitems⟩ := readItems_sound hparams
          obtain ⟨more, rfl, hphrase', hhead'⟩ := readChain_sound low hgo (Nat.le_refl 8)
            (.call hleft hitems) (headLevel_le _) hchain
          refine ⟨.parenOpen :: used ++ .parenClose :: more, ?_, ?_, hhead'⟩
          · simp [Enclosure.mark]
          · simpa using hphrase'
        · rw [readChain_notCallable _ hgo fun name hname => hcall ⟨name, hname⟩] at h
          cases h
      | _ => exact absurd (Nat.le_trans low hgo) (Nat.not_succ_le_zero 0)
termination_by (ts.length, 1)

theorem readItems_sound {allowance : Allowance} {enclosure : Enclosure} {ts rest : List Token}
    {es : List Expr} (h : readItems allowance enclosure ts = .ok (es, rest)) :
    ∃ used, ts = used ++ enclosure.mark :: rest ∧ Items used es := by
  rw [readItems_eq] at h
  split at h
  · obtain ⟨after, hclose, h⟩ := Except.exists_of_map_ok h
    cases h
    exact ⟨[], exists_of_readClose_ok hclose, .empty⟩
  · obtain ⟨⟨e, mid⟩, he, h⟩ := Except.exists_of_bind_ok h
    obtain ⟨⟨es', after⟩, hes, h⟩ := Except.exists_of_map_ok h
    cases h
    have shorter : mid.length < ts.length := bare_property he
    obtain ⟨used, rfl, hphrase, -⟩ := readPhrase_sound (by decide) (by decide) he
    obtain ⟨more, rfl, hseries⟩ := readMore_sound hphrase hes
    exact ⟨used ++ more, by simp, .series hseries⟩
termination_by (ts.length, 3)

theorem readMore_sound {allowance : Allowance} {enclosure : Enclosure}
    {before ts rest : List Token} {e : Expr} {es : List Expr} (hbefore : Phrase 1 before e)
    (h : readMore allowance enclosure ts = .ok (es, rest)) :
    ∃ used, ts = used ++ enclosure.mark :: rest ∧ Series (before ++ used) (e :: es) := by
  by_cases hcomma : ∃ us, ts = .comma :: us
  · obtain ⟨us, rfl⟩ := hcomma
    rw [readMore_comma] at h
    obtain ⟨⟨x, mid⟩, hx, h⟩ := Except.exists_of_bind_ok h
    obtain ⟨⟨es', after⟩, hes, h⟩ := Except.exists_of_map_ok h
    cases h
    have shorter : mid.length < us.length := bare_property hx
    obtain ⟨used, rfl, hphrase, -⟩ := readPhrase_sound (by decide) (by decide) hx
    obtain ⟨more, rfl, hseries⟩ := readMore_sound hphrase hes
    exact ⟨.comma :: used ++ more, by simp, .cons hbefore hseries⟩
  · rw [readMore_end _ _ fun us hus => hcomma ⟨us, hus⟩] at h
    obtain ⟨after, hclose, h⟩ := Except.exists_of_map_ok h
    cases h
    refine ⟨[], exists_of_readClose_ok hclose, ?_⟩
    rw [List.append_nil]
    exact .single hbefore
termination_by (ts.length, 1)

end

/-! ## Completeness -/

/-- A series is not taken for an empty list. -/
theorem not_closes_of_series (enclosure : Enclosure) {ts : List Token} {es : List Expr}
    (h : Series ts es) (rest : List Token) : ¬ closes enclosure (ts ++ rest) = true := by
  have hopens : ∃ t us, ts = t :: us ∧ opens t = true := by
    cases h with
    | single h => exact exists_opens h
    | cons h _ =>
      obtain ⟨t, us, rfl, ht⟩ := exists_opens h
      exact ⟨t, _, rfl, ht⟩
  obtain ⟨t, us, rfl, ht⟩ := hopens
  intro hcloses
  -- no closing mark can start a phrase
  have hmark : t = enclosure.mark := Enclosure.closedBy_iff.mp hcloses
  rw [hmark] at ht
  cases enclosure <;> cases ht

mutual

/-- A phrase is read to its end, and reading goes on with what follows it. -/
theorem readPhrase_complete {tightest level : Nat} {used rest : List Token} {e : Expr}
    (low : 1 ≤ level) (hle : level ≤ tightest) (high : level ≤ 7)
    (hhead : headLevel rest ≤ tightest) :
    Phrase tightest used e → readPhrase none level (used ++ rest) = readChain none level e rest
  | @Phrase.joined _ op ts us a b hop left right => by
    obtain ⟨-, hlevel⟩ := mem_joining.mp hop
    have htight := op.level_le
    -- the left operand is read up to the operator, which binds tightly enough to go on with
    have hleft : readPhrase none level (ts ++ .operator op :: (us ++ rest)) =
        readChain none level a (.operator op :: (us ++ rest)) :=
      readPhrase_complete low hle high (Nat.le_of_eq hlevel) left
    -- the right operand is read one level tighter, and what follows binds too loosely for it
    have hright : readPhrase none (op.precedence.level + 1) (us ++ rest) = .ok (b, rest) := by
      rw [readPhrase_complete (by omega) (by omega) (by omega) (by omega) right,
        readChain_stop none _ (by omega)]
    rw [List.append_assoc, List.cons_append, hleft, readChain_operator none _ (by omega), hright]
    rfl
  | .led hop operand => by
    -- nothing binds at level 7, so what follows ends the operand
    have hhead : headLevel rest < 7 := Nat.lt_of_le_of_ne hhead (headLevel_ne_seven rest)
    apply readPhrase_of_operand
    rw [List.cons_append, readOperand_leading none hop,
      readPhrase_complete (by decide) (Nat.le_refl 7) (by decide) (Nat.le_of_lt hhead) operand,
      readChain_stop none _ hhead]
    rfl
  | .next _ _ tighter =>
    readPhrase_complete low (Nat.le_succ_of_le hle) high (Nat.le_succ_of_le hhead) tighter
  | .literal value => readPhrase_of_operand (readOperand_literal none value rest)
  | .identifier name => readPhrase_of_operand (readOperand_identifier none name rest)
  | @Phrase.group ts e inner => by
    have hhead : headLevel (.parenClose :: rest) = 0 := rfl
    have hinner : readPhrase none 1 (ts ++ .parenClose :: rest) = .ok (e, .parenClose :: rest) := by
      rw [readPhrase_complete (by decide) (Nat.le_refl 1) (by decide) (by omega) inner,
        readChain_stop none _ (by omega)]
    apply readPhrase_of_operand
    rw [List.append_assoc, List.cons_append, readOperand_parenOpen, List.singleton_append, hinner]
    rfl
  | @Phrase.array ts es elements => by
    have hitems : readItems none .array (ts ++ .bracketClose :: rest) = .ok (es, rest) :=
      readItems_complete .array elements
    apply readPhrase_of_operand
    rw [List.append_assoc, List.cons_append, readOperand_bracketOpen, List.singleton_append, hitems]
    rfl
  | @Phrase.call name ts us es target params => by
    have htarget : readPhrase none level (ts ++ .parenOpen :: (us ++ .parenClose :: rest)) =
        readChain none level (.variable name) (.parenOpen :: (us ++ .parenClose :: rest)) :=
      readPhrase_complete low hle high (Nat.le_refl 8) target
    have hparams : readItems none .arguments (us ++ .parenClose :: rest) = .ok (es, rest) :=
      readItems_complete .arguments params
    rw [List.append_assoc, List.append_assoc, List.cons_append, List.singleton_append, htarget,
      readChain_call none hle, hparams]
    rfl

theorem readItems_complete (enclosure : Enclosure) {used rest : List Token} {es : List Expr} :
    Items used es → readItems none enclosure (used ++ enclosure.mark :: rest) = .ok (es, rest)
  | .empty => by
    have hcloses : closes enclosure (enclosure.mark :: rest) = true :=
      Enclosure.closedBy_iff.mpr rfl
    rw [readItems_eq, List.nil_append, if_pos hcloses, readClose_mark]
    rfl
  | .series h => by
    rw [readItems_eq, if_neg (not_closes_of_series enclosure h _)]
    exact readSeries_complete enclosure h

/-- The first expression of a series is read before the rest of it. -/
theorem readSeries_complete (enclosure : Enclosure) {used rest : List Token} {es : List Expr} :
    Series used es →
      (readPhrase none 1 (used ++ enclosure.mark :: rest)).bind (fun (e, rest) =>
        (readMore none enclosure rest).map fun (es, after) => (e :: es, after)) = .ok (es, rest)
  | @Series.single ts e h => by
    have hend : ∀ us, enclosure.mark :: rest ≠ .comma :: us := by
      intro us hus
      cases enclosure <;> cases hus
    have hhead : headLevel (enclosure.mark :: rest) = 0 := by
      cases enclosure <;> rfl
    have hread : readPhrase none 1 (ts ++ enclosure.mark :: rest) =
        .ok (e, enclosure.mark :: rest) := by
      rw [readPhrase_complete (by decide) (Nat.le_refl 1) (by decide) (by omega) h,
        readChain_stop none _ (by omega)]
    rw [hread]
    show (readMore none enclosure (enclosure.mark :: rest)).map _ = _
    rw [readMore_end none _ hend, readClose_mark]
    rfl
  | @Series.cons ts us e es h series => by
    have hhead : headLevel (.comma :: (us ++ enclosure.mark :: rest)) = 0 := rfl
    have hread : readPhrase none 1 (ts ++ .comma :: (us ++ enclosure.mark :: rest)) =
        .ok (e, .comma :: (us ++ enclosure.mark :: rest)) := by
      rw [readPhrase_complete (by decide) (Nat.le_refl 1) (by decide) (by omega) h,
        readChain_stop none _ (by omega)]
    rw [List.append_assoc, List.cons_append, hread]
    show (readMore none enclosure (.comma :: (us ++ enclosure.mark :: rest))).map _ = _
    rw [readMore_comma, readSeries_complete enclosure series]
    rfl

end

end Parser

/-! ## The parser and the grammar -/

open Grammar

theorem parseTokens_eq (allowance : Allowance) {ts : List Token} (h : ts ≠ []) :
    parseTokens allowance ts =
      match Parser.readPhrase allowance 1 ts with
      | .error (cause, left) => .error ⟨cause, ts.length - left.length⟩
      | .ok (e, []) => .ok e
      | .ok (_, t :: rest) => .error ⟨.expectedEnd t, ts.length - (rest.length + 1)⟩ := by
  cases ts with
  | nil => exact absurd rfl h
  | cons t us =>
    unfold parseTokens Parser.readPhrase
    dsimp only
    cases Parser.climb allowance 1 (t :: us) with
    | error stop => rfl
    | ok r =>
      obtain ⟨e, rest, hrest⟩ := r
      cases rest <;> rfl

/-- Whatever nesting is granted, only phrases are accepted. -/
theorem phrase_of_parseTokens {allowance : Allowance} {ts : List Token} {e : Expr}
    (h : parseTokens allowance ts = .ok e) : Phrase 1 ts e := by
  have hts : ts ≠ [] := by
    rintro rfl
    cases h
  rw [parseTokens_eq allowance hts] at h
  split at h
  · cases h
  · next hread =>
    cases h
    obtain ⟨used, rfl, hphrase, -⟩ := Parser.readPhrase_sound (by decide) (by decide) hread
    rw [List.append_nil]
    exact hphrase
  · cases h

/-- Without a bound on nesting every phrase is accepted, as the expression that it spells. -/
theorem parseTokens_of_phrase {ts : List Token} {e : Expr} (h : Phrase 1 ts e) :
    parseTokens none ts = .ok e := by
  obtain ⟨t, us, hts, -⟩ := exists_opens h
  have hread : Parser.readPhrase none 1 (ts ++ []) = Parser.readChain none 1 e [] :=
    Parser.readPhrase_complete (by decide) (Nat.le_refl 1) (by decide) (Nat.zero_le 1) h
  rw [List.append_nil, Parser.readChain_stop none e Nat.zero_lt_one] at hread
  rw [parseTokens_eq none (by rw [hts]; exact List.cons_ne_nil t us), hread]

/-- **Main theorem.** The parser accepts a list of tokens exactly if all of it is a phrase of the
loosest level, and gives the expression that it spells. So a list of tokens spells at most one
expression, and the parser reports a fault exactly if it spells none. -/
theorem parseTokens_iff_phrase (ts : List Token) :
    (∀ e, parseTokens none ts = .ok e ↔ Phrase 1 ts e) ∧
      (∀ e e', Phrase 1 ts e → Phrase 1 ts e' → e = e') ∧
      ((∃ err, parseTokens none ts = .error err) ↔ ¬ ∃ e, Phrase 1 ts e) := by
  refine ⟨fun e => ⟨phrase_of_parseTokens, parseTokens_of_phrase⟩, ?_, ?_⟩
  · intro e e' h h'
    have he : Except.ok e = .ok e' := (parseTokens_of_phrase h).symm.trans (parseTokens_of_phrase h')
    exact Except.ok.inj he
  · constructor
    · rintro ⟨err, herr⟩ ⟨e, he⟩
      rw [parseTokens_of_phrase he] at herr
      cases herr
    · intro hnone
      cases hparse : parseTokens none ts with
      | error err => exact ⟨err, rfl⟩
      | ok e => exact absurd ⟨e, phrase_of_parseTokens hparse⟩ hnone

/-- The tokens of `a - b - c`. -/
def twoMinuses : List Token :=
  [.identifier "a", .operator .minus, .identifier "b", .operator .minus, .identifier "c"]

/-- Operators of one level lean to the left, and no other reading is left. -/
theorem twoMinuses_leans_left :
    parseTokens none twoMinuses =
        .ok (.binary .minus (.binary .minus (.variable "a") (.variable "b")) (.variable "c")) ∧
      ¬ Phrase 1 twoMinuses
        (.binary .minus (.variable "a") (.binary .minus (.variable "b") (.variable "c"))) := by
  have ha : Phrase 6 [.identifier "a"] (.variable "a") :=
    (Phrase.identifier "a").weaken (by decide) (by decide) (by decide)
  have hb : Phrase 6 [.identifier "b"] (.variable "b") :=
    (Phrase.identifier "b").weaken (by decide) (by decide) (by decide)
  have hc : Phrase 6 [.identifier "c"] (.variable "c") :=
    (Phrase.identifier "c").weaken (by decide) (by decide) (by decide)
  have hminus : Operator.minus ∈ joining 5 := by decide
  have hleft : Phrase 1 twoMinuses _ :=
    (Phrase.joined hminus (.joined hminus (.next (by decide) (by decide) ha) hb) hc).weaken
      (by decide) (by decide) (by decide)
  obtain ⟨hparse, hunique, -⟩ := parseTokens_iff_phrase twoMinuses
  refine ⟨(hparse _).mpr hleft, ?_⟩
  intro hright
  cases hunique _ _ hleft hright

end Reckon
