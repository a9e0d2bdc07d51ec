import Reckon.Proofs.Expr.Parsing

/-!
# `Proofs.Expr.Fault` — a fault is met at the earliest token possible

What a function of the parser does depends on the tokens it consumes and on how tightly the next one
binds, and on nothing after that. `Takes` says so of a success: the same tokens are taken off the front
whatever follows, as long as that stops the reading. `Stuck` says so of a fault, and that the fault could
not have been met earlier: the tokens before it can be completed, and with the token at fault in place
nothing that follows helps.

Both are shown for every function of the parser at once, along its calls; two readings in a row hand them
on (`Takes.bind`, `Stuck.of_first`, `Stuck.of_second`). They hold with any nesting granted: a completion needs
no deeper nesting than what was read before it.

Main statement: `fault_earliest`.
-/

namespace Reckon

/-- The token that a fault is about; there is none when the tokens ran out. -/
def ParseCause.offending? : ParseCause → Option Token
  | .expectedEnd found => some found
  | .unclosed _ found => found
  | .noOperand found => some found
  | .notCallable => some .parenOpen
  | .empty | .nestedTooDeeply | .unexpectedEnd => none

/-- A missing operand, and a call of what cannot be called, are noticed when the token at fault has been
consumed already. -/
def ParseCause.consumesOffending : ParseCause → Bool
  | .noOperand _ | .notCallable => true
  | _ => false

/-- The place of the token at fault among `count` tokens; where the tokens ran out it is their end. -/
def ParseError.place (err : ParseError) (count : Nat) : Nat :=
  match err.cause with
  | .noOperand _ | .notCallable => err.consumed - 1
  | .unexpectedEnd => count
  | .unclosed .. => if err.consumed < count then err.consumed else count
  | _ => err.consumed

namespace Parser

open Grammar

/-- A function of the parser: what it read and the tokens left over. -/
abbrev Reader (α : Type) := List Token → Except Stop (α × List Token)

/-- The tokens from the one at fault on. -/
def unread : Stop → List Token
  | (.noOperand t, left) => t :: left
  | (.notCallable, left) => .parenOpen :: left
  | (_, left) => left

/-! ## Successes and what follows them -/

section Takes

variable {α β : Type} {read : Reader β} {first : Reader α}
  {follow follow' : List Token → Prop} {used more : List Token} {a : α} {b : β}

/-- Whatever follows, if `follow` admits it, `used` is taken off the front and read as `a`. -/
def Takes (first : Reader α) (follow : List Token → Prop) (used : List Token) (a : α) : Prop :=
  ∀ rest, follow rest → first (used ++ rest) = .ok (a, rest)

theorem Takes.bind (front : List Token) (next : α → Reader β)
    (hread : ∀ us, read (front ++ us) = (first us).bind fun (a, mid) => next a mid)
    (h : Takes first follow' used a) (hn : Takes (next a) follow more b)
    (hfollow : ∀ rest, follow rest → follow' (more ++ rest)) :
    Takes read follow (front ++ (used ++ more)) b := by
  intro rest hrest
  rw [List.append_assoc, List.append_assoc, hread, h _ (hfollow rest hrest)]
  exact hn rest hrest

theorem Takes.map (front : List Token) (f : α → β)
    (hread : ∀ us, read (front ++ us) = (first us).map fun (a, rest) => (f a, rest))
    (h : Takes first follow used a) : Takes read follow (front ++ used) (f a) := by
  intro rest hrest
  rw [List.append_assoc, hread, h rest hrest]
  rfl

/-- The rest of a list behind its first expression. -/
def headed (allowance : Allowance) (enclosure : Enclosure) (e : Expr) : Reader (List Expr) :=
  fun ts => (readMore allowance enclosure ts).map fun (es, after) => (e :: es, after)

/-- The closing mark, and what it closes. -/
def closed (enclosure : Enclosure) (a : α) : Reader α := fun ts =>
  (readClose enclosure ts).map fun after => (a, after)

theorem Takes.closed (enclosure : Enclosure) (a : α) :
    Takes (closed enclosure a) (fun _ => True) [enclosure.mark] a := by
  intro rest _
  show (readClose enclosure (enclosure.mark :: rest)).map _ = _
  rw [readClose_mark]
  rfl

/-- The next token is the first of what is taken, if anything is. -/
theorem headLevel_append_lt {level : Nat} {rest' : List Token} (h : headLevel (used ++ rest') < level)
    {rest : List Token} (hrest : headLevel rest < level) : headLevel (used ++ rest) < level := by
  cases used with
  | nil => exact hrest
  | cons t us => exact h

theorem headLevel_append_of_length_lt {rest' : List Token} (h : rest'.length < (used ++ rest').length)
    (rest : List Token) : headLevel (used ++ rest) = headLevel (used ++ rest') := by
  cases used with
  | nil => exact absurd h (Nat.lt_irrefl _)
  | cons t us => rfl

end Takes

theorem not_closes_of_readPhrase {allowance : Allowance} {level : Nat} {enclosure : Enclosure}
    {ts rest : List Token} {e : Expr} (h : readPhrase allowance level ts = .ok (e, rest)) :
    ¬ closes enclosure ts = true := by
  intro hcloses
  rw [readPhrase_eq] at h
  cases hd : allowance.descend with
  | none =>
    rw [hd] at h
    cases h
  | some inner =>
    rw [hd] at h
    obtain ⟨⟨left, mid⟩, hleft, -⟩ := Except.exists_of_bind_ok h
    cases ts with
    | nil => cases hcloses
    | cons t us =>
      -- no closing mark can start an operand
      have hmark : t = enclosure.mark := Enclosure.closedBy_iff.mp hcloses
      have hopens : opens t = false := by
        rw [hmark]
        cases enclosure <;> rfl
      rw [readOperand_noOperand inner hopens] at hleft
      cases hleft

mutual

theorem readPhrase_takes {allowance : Allowance} {level : Nat} {ts rest : List Token} {e : Expr}
    (low : 1 ≤ level) (high : level ≤ 7) (h : readPhrase allowance level ts = .ok (e, rest)) :
    ∃ used, ts = used ++ rest ∧ headLevel rest < level ∧
      Takes (readPhrase allowance level) (headLevel · < level) used e := by
  have hread := readPhrase_eq allowance level
  cases hd : allowance.descend with
  | none =>
    rw [readPhrase_eq, hd] at h
    cases h
  | some inner =>
    rw [hd] at hread
    rw [hread] at h
    obtain ⟨⟨left, mid⟩, hleft, hchain⟩ := Except.exists_of_bind_ok h
    have shorter : mid.length < ts.length := bare_property hleft
    obtain ⟨used, rfl, htakes⟩ := readOperand_takes hleft
    obtain ⟨more, rfl, hhead, htakes'⟩ := readChain_takes low high hchain
    refine ⟨used ++ more, (List.append_assoc _ _ _).symm, hhead, ?_⟩
    refine Takes.bind [] (readChain inner level) hread htakes htakes' ?_
    intro rest' hrest'
    cases more with
    | nil => exact Or.inl (Nat.lt_of_lt_of_le hrest' high)
    | cons t us => exact Nat.lt_or_gt_of_ne (headLevel_ne_seven (t :: (us ++ rest')))
termination_by (ts.length, 2)

/-- Only an operand under a prefix operator ends because of what follows. -/
theorem readOperand_takes {allowance : Allowance} {ts rest : List Token} {e : Expr}
    (h : readOperand allowance ts = .ok (e, rest)) :
    ∃ used, ts = used ++ rest ∧
      Takes (readOperand allowance) (fun us => headLevel us < 7 ∨ 7 < headLevel rest) used e := by
  cases ts with
  | nil =>
    rw [readOperand_nil] at h
    cases h
  | cons t us =>
    cases t with
    | literal value =>
      rw [readOperand_literal] at h
      cases h
      exact ⟨[.literal value], rfl, fun _ _ => readOperand_literal _ _ _⟩
    | identifier name =>
      rw [readOperand_identifier] at h
      cases h
      exact ⟨[.identifier name], rfl, fun _ _ => readOperand_identifier _ _ _⟩
    | parenOpen =>
      rw [readOperand_parenOpen] at h
      obtain ⟨⟨x, mid⟩, hx, h⟩ := Except.exists_of_bind_ok h
      obtain ⟨after, hclose, h⟩ := Except.exists_of_map_ok h
      cases h
      obtain ⟨used, rfl, -, htakes⟩ := readPhrase_takes (by decide) (by decide) hx
      refine ⟨[.parenOpen] ++ (used ++ [Enclosure.group.mark]), ?_, ?_⟩
      · rw [exists_of_readClose_ok hclose]
        simp
      · intro rest' _
        exact Takes.bind [.parenOpen] (closed .group) (readOperand_parenOpen allowance) htakes
          (.closed .group e) (fun _ _ => Nat.zero_lt_one) rest' trivial
    | bracketOpen =>
      rw [readOperand_bracketOpen] at h
      obtain ⟨⟨es, after⟩, hes, h⟩ := Except.exists_of_map_ok h
      cases h
      obtain ⟨used, rfl, htakes⟩ := readItems_takes hes
      refine ⟨[.bracketOpen] ++ used, rfl, fun rest' _ => ?_⟩
      exact Takes.map [.bracketOpen] Expr.array (readOperand_bracketOpen allowance) htakes
        rest' trivial
    | operator op =>
      cases hop : opens (.operator op) with
      | false =>
        rw [readOperand_noOperand _ hop] at h
        cases h
      | true =>
        have hop : op ∈ leading := of_decide_eq_true hop
        rw [readOperand_leading _ hop] at h
        obtain ⟨⟨x, mid⟩, hx, h⟩ := Except.exists_of_map_ok h
        cases h
        obtain ⟨used, rfl, hhead, htakes⟩ := readPhrase_takes (by decide) (by decide) hx
        refine ⟨[.operator op] ++ used, rfl, fun rest' hrest' => ?_⟩
        exact Takes.map [.operator op] (Expr.unary op) (readOperand_leading allowance hop) htakes rest'
          (hrest'.resolve_right (Nat.lt_asymm hhead))
    | _ =>
      rw [readOperand_noOperand _ rfl] at h
      cases h
termination_by (ts.length, 1)

theorem readChain_takes {allowance : Allowance} {level : Nat} {left e : Expr} {ts rest : List Token}
    (low : 1 ≤ level) (high : level ≤ 7) (h : readChain allowance level left ts = .ok (e, rest)) :
    ∃ used, ts = used ++ rest ∧ headLevel rest < level ∧
      Takes (readChain allowance level left) (headLevel · < level) used e := by
  by_cases hstop : headLevel ts < level
  · rw [readChain_stop _ _ hstop] at h
    cases h
    exact ⟨[], rfl, hstop, fun _ hrest => readChain_stop _ _ hrest⟩
  · have hgo : level ≤ headLevel ts := Nat.le_of_not_lt hstop
    cases ts with
    | nil => exact absurd (Nat.le_trans low hgo) (by decide)
    | cons t us =>
      cases t with
      | operator op =>
        have hgo : level ≤ op.precedence.level := hgo
        have hlevel := op.level_le
        have hread := readChain_operator allowance left hgo
        rw [hread] at h
        obtain ⟨⟨right, mid⟩, hright, hchain⟩ := Except.exists_of_bind_ok h
        have shorter : mid.length < us.length := bare_property hright
        obtain ⟨used, rfl, hhead, htakes⟩ := readPhrase_takes (by omega) (by omega) hright
        obtain ⟨more, rfl, hhead', htakes'⟩ := readChain_takes low high hchain
        refine ⟨[.operator op] ++ (used ++ more), by simp, hhead', ?_⟩
        refine Takes.bind [.operator op] (fun right => readChain allowance level (.binary op left right))
          hread htakes htakes' ?_
        intro rest' hrest'
        exact headLevel_append_lt hhead (Nat.lt_of_lt_of_le hrest' (Nat.le_succ_of_le hgo))
      | parenOpen =>
        have hle : level ≤ 8 := Nat.le_succ_of_le high
        by_cases hcall : ∃ name, left = .variable name
        · obtain ⟨name, rfl⟩ := hcall
          have hread := readChain_call allowance hle name
          rw [hread] at h
          obtain ⟨⟨params, mid⟩, hparams, hchain⟩ := Except.exists_of_bind_ok h
          have shorter : mid.length < us.length := bare_property hparams
          obtain ⟨used, rfl, htakes⟩ := readItems_takes hparams
          obtain ⟨more, rfl, hhead', htakes'⟩ := readChain_takes low high hchain
          refine ⟨[.parenOpen] ++ (used ++ more), by simp, hhead', ?_⟩
          exact Takes.bind [.parenOpen] (fun params => readChain allowance level (.call name params))
            hread htakes htakes' fun _ _ => trivial
        · rw [readChain_notCallable _ hle fun name hname => hcall ⟨name, hname⟩] at h
          cases h
      | _ => exact absurd (Nat.le_trans low hgo) (Nat.not_succ_le_zero 0)
termination_by (ts.length, 1)

theorem readItems_takes {allowance : Allowance} {enclosure : Enclosure} {ts rest : List Token}
    {es : List Expr} (h : readItems allowance enclosure ts = .ok (es, rest)) :
    ∃ used, ts = used ++ rest ∧
      Takes (readItems allowance enclosure) (fun _ => True) used es := by
  rw [readItems_eq] at h
  split at h
  · obtain ⟨after, hclose, h⟩ := Except.exists_of_map_ok h
    cases h
    exact ⟨[enclosure.mark], exists_of_readClose_ok hclose,
      fun rest' _ => readItems_mark allowance enclosure rest'⟩
  · obtain ⟨⟨e, mid⟩, he, h⟩ := Except.exists_of_bind_ok h
    obtain ⟨⟨es', after⟩, hes, h⟩ := Except.exists_of_map_ok h
    cases h
    have shorter : mid.length < ts.length := bare_property he
    have shorter' : rest.length < mid.length := bare_property hes
    obtain ⟨used, rfl, hhead, htakes⟩ := readPhrase_takes (by decide) (by decide) he
    obtain ⟨more, rfl, htakes'⟩ := readMore_takes hes
    refine ⟨used ++ more, (List.append_assoc _ _ _).symm, fun rest' _ => ?_⟩
    have hread : readPhrase allowance 1 (used ++ (more ++ rest')) = .ok (e, more ++ rest') := by
      refine htakes _ ?_
      show headLevel (more ++ rest') < 1
      rw [headLevel_append_of_length_lt shorter']
      exact hhead
    rw [List.append_assoc, readItems_eq, if_neg (not_closes_of_readPhrase hread), hread]
    show (readMore allowance enclosure (more ++ rest')).map _ = _
    rw [htakes' rest' trivial]
    rfl
termination_by (ts.length, 3)

theorem readMore_takes {allowance : Allowance} {enclosure : Enclosure} {ts rest : List Token}
    {es : List Expr} (h : readMore allowance enclosure ts = .ok (es, rest)) :
    ∃ used, ts = used ++ rest ∧
      Takes (readMore allowance enclosure) (fun _ => True) used es := by
  by_cases hcomma : ∃ us, ts = .comma :: us
  · obtain ⟨us, rfl⟩ := hcomma
    rw [readMore_comma] at h
    obtain ⟨⟨e, mid⟩, he, h⟩ := Except.exists_of_bind_ok h
    obtain ⟨⟨es', after⟩, hes, h⟩ := Except.exists_of_map_ok h
    cases h
    have shorter : mid.length < us.length := bare_property he
    have shorter' : rest.length < mid.length := bare_property hes
    obtain ⟨used, rfl, hhead, htakes⟩ := readPhrase_takes (by decide) (by decide) he
    obtain ⟨more, rfl, htakes'⟩ := readMore_takes hes
    refine ⟨[.comma] ++ (used ++ more), by simp, ?_⟩
    refine Takes.bind [.comma] (headed allowance enclosure) (readMore_comma allowance enclosure)
      htakes (.map [] (e :: ·) (fun _ => rfl) htakes') ?_
    intro rest' _
    show headLevel (more ++ rest') < 1
    rw [headLevel_append_of_length_lt shorter']
    exact hhead
  · rw [readMore_end _ _ fun us hus => hcomma ⟨us, hus⟩] at h
    obtain ⟨after, hclose, h⟩ := Except.exists_of_map_ok h
    cases h
    exact ⟨[enclosure.mark], exists_of_readClose_ok hclose,
      fun rest' _ => readMore_mark allowance enclosure rest'⟩
termination_by (ts.length, 1)

end

/-! ## Faults and what comes before and after them -/

section Stuck

variable {α β : Type} {read : Reader β} {first : Reader α}
  {follow follow' lead lead' : List Token → Prop} {stop : Stop} {before : List Token}

/-- Reading stops after `before`, at the token at fault. What came before can be completed, so reading did
not go on too long; and with that token behind it, nothing that follows changes the fault, so reading did
not stop too soon. `lead` tells how the tokens of both may start, for what was read ahead of them. -/
structure Stuck (read : Reader β) (follow lead : List Token → Prop) (stop : Stop)
    (before : List Token) : Prop where
  found : (unread stop).head? = stop.1.offending?
  completes : ∃ more b, ∀ rest, follow rest →
    lead (before ++ (more ++ rest)) ∧ read (before ++ (more ++ rest)) = .ok (b, rest)
  persists : ∀ t rest, unread stop = t :: rest → ∀ vs, lead (before ++ t :: vs) ∧
    ∃ left, read (before ++ t :: vs) = .error (stop.1, left) ∧ unread (stop.1, left) = t :: vs

/-- Stuck in the first of two readings: the second one goes on with `tail`. -/
theorem Stuck.of_first (front tail : List Token) (next : α → Reader β)
    (hread : ∀ us, read (front ++ us) = (first us).bind fun (a, mid) => next a mid)
    (h : Stuck first follow' lead' stop before)
    (hnext : ∀ a, ∃ b, Takes (next a) follow tail b)
    (hfollow : ∀ rest, follow rest → follow' (tail ++ rest)) (hlead : ∀ us, lead (front ++ us)) :
    Stuck read follow lead stop (front ++ before) where
  found := h.found
  completes := by
    obtain ⟨more, a, hmore⟩ := h.completes
    obtain ⟨b, hb⟩ := hnext a
    refine ⟨more ++ tail, b, ?_⟩
    intro rest hrest
    obtain ⟨-, hok⟩ := hmore _ (hfollow rest hrest)
    rw [List.append_assoc, List.append_assoc]
    refine ⟨hlead _, ?_⟩
    rw [hread, hok]
    exact hb rest hrest
  persists t rest ht vs := by
    obtain ⟨-, left, herr, hleft⟩ := h.persists t rest ht vs
    rw [List.append_assoc]
    refine ⟨hlead _, left, ?_, hleft⟩
    rw [hread, herr]
    rfl

/-- Stuck in the second of two readings. -/
theorem Stuck.of_second (front : List Token) (next : α → Reader β) {used : List Token} {a : α}
    (hread : ∀ us, read (front ++ us) = (first us).bind fun (a, mid) => next a mid)
    (ht : Takes first follow' used a) (h : Stuck (next a) follow lead' stop before)
    (hfollow : ∀ us, lead' us → follow' us) (hlead : ∀ us, lead (front ++ (used ++ us))) :
    Stuck read follow lead stop (front ++ (used ++ before)) where
  found := h.found
  completes := by
    obtain ⟨more, b, hmore⟩ := h.completes
    refine ⟨more, b, ?_⟩
    intro rest hrest
    obtain ⟨hl, hok⟩ := hmore rest hrest
    rw [List.append_assoc, List.append_assoc]
    refine ⟨hlead _, ?_⟩
    rw [hread, ht _ (hfollow _ hl)]
    exact hok
  persists t rest ht' vs := by
    obtain ⟨hl, left, herr, hleft⟩ := h.persists t rest ht' vs
    rw [List.append_assoc, List.append_assoc]
    refine ⟨hlead _, left, ?_, hleft⟩
    rw [hread, ht _ (hfollow _ hl)]
    exact herr

theorem Stuck.map (front : List Token) (f : α → β)
    (hread : ∀ us, read (front ++ us) = (first us).map fun (a, rest) => (f a, rest))
    (h : Stuck first follow' lead' stop before) (hfollow : ∀ us, follow us → follow' us)
    (hlead : ∀ us, lead' us → lead (front ++ us)) :
    Stuck read follow lead stop (front ++ before) where
  found := h.found
  completes := by
    obtain ⟨more, a, hmore⟩ := h.completes
    refine ⟨more, f a, ?_⟩
    intro rest hrest
    obtain ⟨hl, hok⟩ := hmore rest (hfollow rest hrest)
    rw [List.append_assoc]
    refine ⟨hlead _ hl, ?_⟩
    rw [hread, hok]
    rfl
  persists t rest ht vs := by
    obtain ⟨hl, left, herr, hleft⟩ := h.persists t rest ht vs
    rw [List.append_assoc]
    refine ⟨hlead _ hl, left, ?_, hleft⟩
    rw [hread, herr]
    rfl

/-- A closing mark is missing. -/
theorem Stuck.close {enclosure : Enclosure} {ts : List Token} {b : β}
    (hmark : ∀ rest, read (enclosure.mark :: rest) = .ok (b, rest))
    (hother : ∀ t rest, ts = t :: rest → ∀ vs,
      read (t :: vs) = .error (.unclosed enclosure (some t), t :: vs))
    (hlead : ∀ rest, lead (enclosure.mark :: rest))
    (hlead' : ∀ t rest, ts = t :: rest → ∀ vs, lead (t :: vs)) :
    Stuck read follow lead (.unclosed enclosure ts.head?, ts) [] where
  found := rfl
  completes := ⟨[enclosure.mark], b, fun rest _ => ⟨hlead rest, hmark rest⟩⟩
  persists t rest ht vs := by
    have ht : ts = t :: rest := ht
    subst ht
    exact ⟨hlead' t rest rfl vs, _, hother t rest rfl vs, rfl⟩

end Stuck

theorem readClose_other {enclosure : Enclosure} {t : Token} (h : ¬ enclosure.closedBy t = true)
    (ts : List Token) :
    readClose enclosure (t :: ts) = .error (.unclosed enclosure (some t), t :: ts) := by
  unfold readClose close
  dsimp only
  rw [if_neg h]
  rfl

theorem of_readClose_error {enclosure : Enclosure} {ts : List Token} {stop : Stop}
    (h : readClose enclosure ts = .error stop) :
    stop = (.unclosed enclosure ts.head?, ts) ∧
      ∀ t rest, ts = t :: rest → ¬ enclosure.closedBy t = true := by
  cases ts with
  | nil =>
    cases h
    exact ⟨rfl, nofun⟩
  | cons t rest =>
    by_cases ht : enclosure.closedBy t = true
    · rw [Enclosure.closedBy_iff.mp ht, readClose_mark] at h
      cases h
    · rw [readClose_other ht] at h
      cases h
      refine ⟨rfl, ?_⟩
      rintro t' rest' ⟨⟩
      exact ht

section Series

variable {allowance : Allowance} {enclosure : Enclosure}

theorem headed_mark (e : Expr) :
    Takes (headed allowance enclosure e) (fun _ => True) [enclosure.mark] [e] := by
  intro rest _
  show (readMore allowance enclosure (enclosure.mark :: rest)).map _ = _
  rw [readMore_mark]
  rfl

/-- One expression at least, and the closing mark. -/
def readSeries (allowance : Allowance) (enclosure : Enclosure) : Reader (List Expr) := fun ts =>
  (readPhrase allowance 1 ts).bind fun (e, mid) => headed allowance enclosure e mid

/-- A list that does not start with its closing mark is a series. -/
theorem readItems_of_not_closes {ts : List Token} (h : ¬ closes enclosure ts = true) :
    readItems allowance enclosure ts = readSeries allowance enclosure ts := by
  rw [readItems_eq, if_neg h]
  rfl

theorem not_closes_of_readSeries {ts rest : List Token} {es : List Expr}
    (h : readSeries allowance enclosure ts = .ok (es, rest)) : ¬ closes enclosure ts = true := by
  obtain ⟨⟨e, mid⟩, he, -⟩ := Except.exists_of_bind_ok h
  exact not_closes_of_readPhrase he

theorem Stuck.items {follow lead : List Token → Prop} {stop : Stop} {before : List Token}
    (h : Stuck (readSeries allowance enclosure) follow lead stop before)
    (hcloses : ¬ closes enclosure (before ++ unread stop) = true) :
    Stuck (readItems allowance enclosure) follow lead stop before where
  found := h.found
  completes := by
    obtain ⟨more, es, hmore⟩ := h.completes
    refine ⟨more, es, ?_⟩
    intro rest hrest
    obtain ⟨hl, hok⟩ := hmore rest hrest
    exact ⟨hl, (readItems_of_not_closes (not_closes_of_readSeries hok)).trans hok⟩
  persists t rest ht vs := by
    obtain ⟨hl, left, herr, hleft⟩ := h.persists t rest ht vs
    -- the first token is the same
    have hcloses' : ¬ closes enclosure (before ++ t :: vs) = true := by
      rw [ht] at hcloses
      cases before <;> exact hcloses
    exact ⟨hl, left, (readItems_of_not_closes hcloses').trans herr, hleft⟩

/-- Stuck in the first expression of a series, which then is its last, or behind that expression. -/
theorem Stuck.series {read : Reader (List Expr)} {lead : List Token → Prop} {ts : List Token}
    {stop : Stop} (front : List Token)
    (hread : ∀ us, read (front ++ us) =
      (readPhrase allowance 1 us).bind fun (e, mid) => headed allowance enclosure e mid)
    (hlead : ∀ us, lead (front ++ us)) (h : read (front ++ ts) = .error stop)
    (hphrase : readPhrase allowance 1 ts = .error stop → ∃ before, ts = before ++ unread stop ∧
      Stuck (readPhrase allowance 1) (headLevel · < 1) (fun _ => True) stop before)
    (hmore : ∀ e mid, readPhrase allowance 1 ts = .ok (e, mid) → headLevel mid < 1 →
      readMore allowance enclosure mid = .error stop → ∃ before, mid = before ++ unread stop ∧
        Stuck (readMore allowance enclosure) (fun _ => True) (headLevel · < 1) stop before) :
    ∃ before, ts = before ++ unread stop ∧
      Stuck read (fun _ => True) lead stop (front ++ before) := by
  rw [hread] at h
  rcases Except.error_of_bind h with he | ⟨⟨e, mid⟩, he, hrest⟩
  · obtain ⟨before, rfl, hstuck⟩ := hphrase he
    refine ⟨before, rfl, ?_⟩
    refine Stuck.of_first front [enclosure.mark] (headed allowance enclosure) hread hstuck ?_ ?_ hlead
    · exact fun e => ⟨[e], headed_mark e⟩
    · intro rest _
      show headLevel (enclosure.mark :: rest) < 1
      rw [headLevel_mark]
      decide
  · obtain ⟨used, rfl, hhead, htakes⟩ := readPhrase_takes (by decide) (by decide) he
    obtain ⟨before, hmid, hstuck⟩ := hmore e mid he hhead (Except.error_of_map hrest)
    refine ⟨used ++ before, by rw [hmid, List.append_assoc], ?_⟩
    have hheaded : Stuck (headed allowance enclosure e) (fun _ => True) (headLevel · < 1) stop
        ([] ++ before) := Stuck.map [] (e :: ·) (fun _ => rfl) hstuck (fun _ h => h) fun _ h => h
    exact Stuck.of_second front (headed allowance enclosure) hread htakes hheaded (fun _ h => h)
      fun _ => hlead _

end Series

mutual

theorem readPhrase_stuck {allowance : Allowance} {level : Nat} {ts : List Token} {stop : Stop}
    (low : 1 ≤ level) (high : level ≤ 7) (h : readPhrase allowance level ts = .error stop)
    (hdeep : stop.1 ≠ .nestedTooDeeply) :
    ∃ before, ts = before ++ unread stop ∧
      Stuck (readPhrase allowance level) (headLevel · < level) (fun _ => True) stop before := by
  have hread := readPhrase_eq allowance level
  cases hd : allowance.descend with
  | none =>
    rw [readPhrase_eq, hd] at h
    cases h
    exact absurd rfl hdeep
  | some inner =>
    rw [hd] at hread
    rw [hread] at h
    rcases Except.error_of_bind h with hleft | ⟨⟨left, mid⟩, hleft, hchain⟩
    · obtain ⟨before, rfl, hstuck⟩ := readOperand_stuck hleft hdeep
      refine ⟨before, rfl, ?_⟩
      refine Stuck.of_first [] [] (readChain inner level) hread hstuck ?_ ?_ fun _ => trivial
      · exact fun e => ⟨e, fun rest hrest => readChain_stop _ _ hrest⟩
      · exact fun rest hrest => Nat.lt_of_lt_of_le hrest high
    · have shorter : mid.length < ts.length := bare_property hleft
      obtain ⟨used, rfl, htakes⟩ := readOperand_takes hleft
      obtain ⟨before, hmid, hstuck⟩ := readChain_stuck low high hchain hdeep
      refine ⟨used ++ before, by rw [hmid, List.append_assoc], ?_⟩
      refine Stuck.of_second [] (readChain inner level) hread htakes hstuck ?_ fun _ => trivial
      rintro us (hus | hus)
      · rw [hus]
        exact Nat.lt_or_gt_of_ne (headLevel_ne_seven mid)
      · exact Or.inl (Nat.lt_of_lt_of_le hus high)
termination_by (ts.length, 2)

theorem readOperand_stuck {allowance : Allowance} {ts : List Token} {stop : Stop}
    (h : readOperand allowance ts = .error stop)
    (hdeep : stop.1 ≠ .nestedTooDeeply) :
    ∃ before, ts = before ++ unread stop ∧
      Stuck (readOperand allowance) (headLevel · < 7) (fun _ => True) stop before := by
  -- any literal stands in for an operand that is missing
  have hliteral : ∃ more e, ∀ rest, headLevel rest < 7 →
      True ∧ readOperand allowance ([] ++ (more ++ rest)) = .ok (e, rest) :=
    ⟨[.literal (.boolean true)], _, fun _ _ => ⟨trivial, readOperand_literal _ _ _⟩⟩
  cases ts with
  | nil =>
    rw [readOperand_nil] at h
    cases h
    exact ⟨[], rfl, rfl, hliteral, nofun⟩
  | cons t us =>
    cases hopens : opens t with
    | false =>
      rw [readOperand_noOperand _ hopens] at h
      cases h
      refine ⟨[], rfl, rfl, hliteral, ?_⟩
      rintro t' rest ⟨⟩ vs
      exact ⟨trivial, vs, readOperand_noOperand _ hopens vs, rfl⟩
    | true =>
      cases t with
      | literal value =>
        rw [readOperand_literal] at h
        cases h
      | identifier name =>
        rw [readOperand_identifier] at h
        cases h
      | parenOpen =>
        have hread := readOperand_parenOpen allowance
        rw [hread] at h
        rcases Except.error_of_bind h with hx | ⟨⟨e, mid⟩, hx, hclose⟩
        · obtain ⟨before, rfl, hstuck⟩ := readPhrase_stuck (by decide) (by decide) hx hdeep
          refine ⟨[.parenOpen] ++ before, rfl, ?_⟩
          refine Stuck.of_first [.parenOpen] [Enclosure.group.mark] (closed .group) hread hstuck ?_
            (fun _ _ => Nat.zero_lt_one) fun _ => trivial
          exact fun e => ⟨e, fun rest _ => Takes.closed .group e rest trivial⟩
        · obtain ⟨used, rfl, hhead, htakes⟩ := readPhrase_takes (by decide) (by decide) hx
          obtain ⟨rfl, hother⟩ := of_readClose_error (Except.error_of_map hclose)
          refine ⟨[.parenOpen] ++ (used ++ []), by simp [unread], ?_⟩
          refine Stuck.of_second [.parenOpen] (closed .group) hread htakes ?_ (fun _ h => h)
            fun _ => trivial
          refine Stuck.close (fun rest => Takes.closed .group e rest trivial) ?_
            (fun _ => Nat.zero_lt_one) ?_
          · intro t rest ht vs
            show (readClose .group (t :: vs)).map _ = _
            rw [readClose_other (hother t rest ht)]
            rfl
          · intro t rest ht vs
            rw [ht] at hhead
            exact hhead
      | bracketOpen =>
        have hread := readOperand_bracketOpen allowance
        rw [hread] at h
        obtain ⟨before, rfl, hstuck⟩ := readItems_stuck (Except.error_of_map h) hdeep
        refine ⟨[.bracketOpen] ++ before, rfl, ?_⟩
        exact Stuck.map [.bracketOpen] Expr.array hread hstuck (fun _ _ => trivial) fun _ _ => trivial
      | operator op =>
        have hop : op ∈ leading := of_decide_eq_true hopens
        have hread := readOperand_leading allowance hop
        rw [hread] at h
        obtain ⟨before, rfl, hstuck⟩ :=
          readPhrase_stuck (by decide) (by decide) (Except.error_of_map h) hdeep
        refine ⟨[.operator op] ++ before, rfl, ?_⟩
        exact Stuck.map [.operator op] (Expr.unary op) hread hstuck (fun _ h => h) fun _ _ => trivial
      | _ => cases hopens
termination_by (ts.length, 1)

/-- What is read here follows an operand, and the operand has ended there because of the next token. A
completion starts with the same token or ends the reading. -/
theorem readChain_stuck {allowance : Allowance} {level : Nat} {left : Expr} {ts : List Token}
    {stop : Stop} (low : 1 ≤ level) (high : level ≤ 7)
    (h : readChain allowance level left ts = .error stop) (hdeep : stop.1 ≠ .nestedTooDeeply) :
    ∃ before, ts = before ++ unread stop ∧
      Stuck (readChain allowance level left) (headLevel · < level)
        (fun us => headLevel us = headLevel ts ∨ headLevel us < level) stop before := by
  by_cases hstop : headLevel ts < level
  · rw [readChain_stop _ _ hstop] at h
    cases h
  · have hgo : level ≤ headLevel ts := Nat.le_of_not_lt hstop
    cases ts with
    | nil => exact absurd (Nat.le_trans low hgo) (by decide)
    | cons t us =>
      cases t with
      | operator op =>
        have hgo : level ≤ op.precedence.level := hgo
        have hlevel := op.level_le
        have hread := readChain_operator allowance left hgo
        rw [hread] at h
        rcases Except.error_of_bind h with hright | ⟨⟨right, mid⟩, hright, hchain⟩
        · obtain ⟨before, rfl, hstuck⟩ := readPhrase_stuck (by omega) (by omega) hright hdeep
          refine ⟨[.operator op] ++ before, rfl, ?_⟩
          refine Stuck.of_first [.operator op] []
            (fun right => readChain allowance level (.binary op left right)) hread hstuck ?_ ?_
            fun _ => Or.inl rfl
          · exact fun right => ⟨_, fun rest hrest => readChain_stop _ _ hrest⟩
          · exact fun rest hrest => Nat.lt_of_lt_of_le hrest (Nat.le_succ_of_le hgo)
        · have shorter : mid.length < us.length := bare_property hright
          obtain ⟨used, rfl, hhead, htakes⟩ := readPhrase_takes (by omega) (by omega) hright
          obtain ⟨before, hmid, hstuck⟩ := readChain_stuck low high hchain hdeep
          refine ⟨[.operator op] ++ (used ++ before), by rw [hmid]; simp, ?_⟩
          refine Stuck.of_second [.operator op]
            (fun right => readChain allowance level (.binary op left right)) hread htakes hstuck ?_
            fun _ => Or.inl rfl
          rintro us (hus | hus)
          · rw [hus]
            exact hhead
          · exact Nat.lt_of_lt_of_le hus (Nat.le_succ_of_le hgo)
      | parenOpen =>
        have hle : level ≤ 8 := Nat.le_succ_of_le high
        by_cases hcall : ∃ name, left = .variable name
        · obtain ⟨name, rfl⟩ := hcall
          have hread := readChain_call allowance hle name
          rw [hread] at h
          rcases Except.error_of_bind h with hparams | ⟨⟨params, mid⟩, hparams, hchain⟩
          · obtain ⟨before, rfl, hstuck⟩ := readItems_stuck hparams hdeep
            refine ⟨[.parenOpen] ++ before, rfl, ?_⟩
            refine Stuck.of_first [.parenOpen] []
              (fun params => readChain allowance level (.call name params)) hread hstuck ?_
              (fun _ _ => trivial) fun _ => Or.inl rfl
            exact fun params => ⟨_, fun rest hrest => readChain_stop _ _ hrest⟩
          · have shorter : mid.length < us.length := bare_property hparams
            obtain ⟨used, rfl, htakes⟩ := readItems_takes hparams
            obtain ⟨before, hmid, hstuck⟩ := readChain_stuck low high hchain hdeep
            refine ⟨[.parenOpen] ++ (used ++ before), by rw [hmid]; simp, ?_⟩
            exact Stuck.of_second [.parenOpen]
              (fun params => readChain allowance level (.call name params)) hread htakes hstuck
              (fun _ _ => trivial) fun _ => Or.inl rfl
        · -- what was read is complete, and nothing makes it a name
          have hnot := readChain_notCallable allowance hle fun name hname => hcall ⟨name, hname⟩
          rw [hnot] at h
          cases h
          refine ⟨[], rfl, rfl, ⟨[], left, ?_⟩, ?_⟩
          · exact fun rest hrest => ⟨Or.inr hrest, readChain_stop _ _ hrest⟩
          · rintro t rest ⟨⟩ vs
            exact ⟨Or.inl rfl, vs, hnot vs, rfl⟩
      | _ => exact absurd (Nat.le_trans low hgo) (Nat.not_succ_le_zero 0)
termination_by (ts.length, 1)

theorem readItems_stuck {allowance : Allowance} {enclosure : Enclosure} {ts : List Token} {stop : Stop}
    (h : readItems allowance enclosure ts = .error stop) (hdeep : stop.1 ≠ .nestedTooDeeply) :
    ∃ before, ts = before ++ unread stop ∧
      Stuck (readItems allowance enclosure) (fun _ => True) (fun _ => True) stop before := by
  rw [readItems_eq] at h
  split at h
  · next hcloses =>
    -- the closing mark is there
    obtain ⟨-, hother⟩ := of_readClose_error (Except.error_of_map h)
    cases ts with
    | nil => cases hcloses
    | cons t us => exact absurd hcloses (hother t us rfl)
  · next hcloses =>
    -- read as a series, which it is as long as no closing mark stands first
    obtain ⟨before, rfl, hstuck⟩ : ∃ before, ts = before ++ unread stop ∧
        Stuck (readSeries allowance enclosure) (fun _ => True) (fun _ => True) stop ([] ++ before) :=
      Stuck.series [] (fun _ => rfl) (fun _ => trivial) h
        (fun he => readPhrase_stuck (by decide) (by decide) he hdeep)
        fun e mid he hhead hmore =>
          have shorter : mid.length < ts.length := bare_property he
          readMore_stuck hhead hmore hdeep
    exact ⟨before, rfl, hstuck.items hcloses⟩
termination_by (ts.length, 3)

theorem readMore_stuck {allowance : Allowance} {enclosure : Enclosure} {ts : List Token} {stop : Stop}
    (hhead : headLevel ts < 1) (h : readMore allowance enclosure ts = .error stop)
    (hdeep : stop.1 ≠ .nestedTooDeeply) :
    ∃ before, ts = before ++ unread stop ∧
      Stuck (readMore allowance enclosure) (fun _ => True) (headLevel · < 1) stop before := by
  by_cases hcomma : ∃ us, ts = .comma :: us
  · obtain ⟨us, hus⟩ := hcomma
    have hlen : us.length < ts.length := by
      rw [hus]
      exact Nat.lt_succ_self _
    rw [hus] at h
    obtain ⟨before, hbefore, hstuck⟩ : ∃ before, us = before ++ unread stop ∧
        Stuck (readMore allowance enclosure) (fun _ => True) (headLevel · < 1) stop
          ([.comma] ++ before) :=
      Stuck.series [.comma] (readMore_comma allowance enclosure) (fun _ => Nat.zero_lt_one) h
        (fun he => readPhrase_stuck (by decide) (by decide) he hdeep)
        fun e mid he hhead hmore =>
          have shorter : mid.length < ts.length := Nat.lt_trans (bare_property he) hlen
          readMore_stuck hhead hmore hdeep
    exact ⟨[.comma] ++ before, by rw [hus, hbefore]; rfl, hstuck⟩
  · rw [readMore_end _ _ fun us hus => hcomma ⟨us, hus⟩] at h
    obtain ⟨rfl, hother⟩ := of_readClose_error (Except.error_of_map h)
    refine ⟨[], rfl, ?_⟩
    refine Stuck.close (readMore_mark allowance enclosure) ?_
      (fun rest => by rw [headLevel_mark]; decide) ?_
    · intro t rest ht vs
      rw [readMore_end _ _ ?_, readClose_other (hother t rest ht)]
      · rfl
      · rintro us ⟨⟩
        exact hcomma ⟨rest, ht⟩
    · intro t rest ht vs
      rw [ht] at hhead
      exact hhead
termination_by (ts.length, 1)

end

/-! ## Counting -/

theorem length_unread (stop : Stop) :
    (unread stop).length = stop.2.length + stop.1.consumesOffending.toNat := by
  obtain ⟨cause, left⟩ := stop
  cases cause <;> rfl

/-- What had been consumed when reading stopped. -/
theorem consumed_of_unread (stop : Stop) (before : List Token) :
    (before ++ unread stop).length - stop.2.length =
      before.length + stop.1.consumesOffending.toNat := by
  rw [List.length_append, length_unread]
  omega

theorem place_of_unread {stop : Stop} (before : List Token)
    (h : (unread stop).head? = stop.1.offending?) :
    ParseError.place ⟨stop.1, (before ++ unread stop).length - stop.2.length⟩
      (before ++ unread stop).length = before.length := by
  have hconsumed := consumed_of_unread stop before
  obtain ⟨cause, left⟩ := stop
  unfold ParseError.place
  dsimp only at hconsumed ⊢
  rw [hconsumed]
  cases cause with
  | unexpectedEnd =>
    have hleft : left = [] := List.head?_eq_none_iff.mp h
    simp [hleft, unread]
  | unclosed enclosure found =>
    -- short of the end that many have been consumed, and at the end all have
    simp only [ParseCause.consumesOffending, Bool.toNat_false, unread, List.length_append]
    split <;> omega
  | _ => rfl

end Parser

open Reckon.Parser

theorem parseTokens_of_readPhrase {allowance : Allowance} {ts : List Token} {e : Expr}
    (h : readPhrase allowance 1 ts = .ok (e, [])) : parseTokens allowance ts = .ok e := by
  have hlen : 0 < ts.length := bare_property h
  rw [parseTokens_eq allowance (List.ne_nil_of_length_pos hlen), h]

/-- **Main theorem.** Whatever nesting is granted: the tokens before the one at fault start some list that
is accepted, and every list that starts with them and the token at fault is rejected, with the same fault
after as many tokens. -/
theorem fault_earliest {allowance : Allowance} {ts : List Token} {err : ParseError} (hne : ts ≠ [])
    (h : parseTokens allowance ts = .error err) (hdeep : err.cause ≠ .nestedTooDeeply) :
    ts[err.place ts.length]? = err.cause.offending? ∧
      (∃ us e, parseTokens allowance (ts.take (err.place ts.length) ++ us) = .ok e) ∧
      (err.place ts.length < ts.length →
        ∀ us, parseTokens allowance (ts.take (err.place ts.length + 1) ++ us) = .error err) := by
  rw [parseTokens_eq allowance hne] at h
  cases hread : readPhrase allowance 1 ts with
  | error stop =>
    rw [hread] at h
    cases h
    obtain ⟨before, rfl, hstuck⟩ := readPhrase_stuck (by decide) (by decide) hread hdeep
    rw [place_of_unread before hstuck.found]
    refine ⟨?_, ?_, ?_⟩
    · rw [List.getElem?_append_right (Nat.le_refl _), Nat.sub_self, ← List.head?_eq_getElem?]
      exact hstuck.found
    · obtain ⟨more, e, hmore⟩ := hstuck.completes
      refine ⟨more, e, ?_⟩
      rw [List.take_left]
      apply parseTokens_of_readPhrase
      have hok := (hmore [] Nat.zero_lt_one).2
      rwa [List.append_nil] at hok
    · intro hlt us
      cases hunread : unread stop with
      | nil =>
        rw [hunread, List.append_nil] at hlt
        exact absurd hlt (Nat.lt_irrefl _)
      | cons t rest =>
        obtain ⟨-, left, herr, hleft⟩ := hstuck.persists t rest hunread us
        have htake : (before ++ t :: rest).take (before.length + 1) ++ us = before ++ t :: us := by
          rw [List.take_length_add_append]
          simp
        have hconsumed := consumed_of_unread (stop.1, left) before
        rw [hleft] at hconsumed
        rw [htake, parseTokens_eq allowance (by simp), herr]
        dsimp only
        rw [hconsumed, ← hunread, consumed_of_unread]
  | ok r =>
    obtain ⟨e, rest⟩ := r
    obtain ⟨used, rfl, hhead, htakes⟩ := readPhrase_takes (by decide) (by decide) hread
    rw [hread] at h
    cases rest with
    | nil => cases h
    | cons t rest =>
      cases h
      have hplace : ParseError.place ⟨.expectedEnd t, (used ++ t :: rest).length - (rest.length + 1)⟩
          (used ++ t :: rest).length = used.length := by
        show (used ++ t :: rest).length - (rest.length + 1) = used.length
        rw [List.length_append, List.length_cons, Nat.add_sub_cancel]
      rw [hplace]
      refine ⟨?_, ?_, ?_⟩
      · rw [List.getElem?_append_right (Nat.le_refl _), Nat.sub_self]
        rfl
      · refine ⟨[], e, ?_⟩
        rw [List.take_left]
        exact parseTokens_of_readPhrase (htakes [] Nat.zero_lt_one)
      · intro _ us
        have htake : (used ++ t :: rest).take (used.length + 1) ++ us = used ++ t :: us := by
          rw [List.take_length_add_append]
          simp
        rw [htake, parseTokens_eq allowance (by simp), htakes (t :: us) hhead]
        simp

/-- The tokens of `f(x y`. -/
def twoParameters : List Token :=
  [.identifier "f", .parenOpen, .identifier "x", .identifier "y"]

/-- The second parameter is at fault, as the argument list could have been closed in front of it; closed
behind it the tokens fail no later. -/
theorem twoParameters_fault :
    twoParameters ≠ [] ∧
      parseTokens none twoParameters =
        .error ⟨.unclosed .arguments (some (.identifier "y")), 3⟩ ∧
      (∃ us e, parseTokens none ([.identifier "f", .parenOpen, .identifier "x"] ++ us) = .ok e) ∧
      parseTokens none (twoParameters ++ [.parenClose]) =
        .error ⟨.unclosed .arguments (some (.identifier "y")), 3⟩ := by
  have hne : twoParameters ≠ [] := List.cons_ne_nil _ _
  have hfault : parseTokens none twoParameters =
      .error ⟨.unclosed .arguments (some (.identifier "y")), 3⟩ := by
    have hx : readPhrase none 1 [.identifier "x", .identifier "y"] =
        .ok (.variable "x", [.identifier "y"]) := by
      rw [readPhrase_of_operand (readOperand_identifier none "x" _), readChain_stop none _ (by decide)]
    have hmore : readMore none .arguments [.identifier "y"] =
        .error (.unclosed .arguments (some (.identifier "y")), [.identifier "y"]) := by
      rw [readMore_end none _ (show ∀ us, [Token.identifier "y"] ≠ .comma :: us from nofun)]
      rfl
    have hread : readPhrase none 1 twoParameters =
        .error (.unclosed .arguments (some (.identifier "y")), [.identifier "y"]) := by
      unfold twoParameters
      rw [readPhrase_of_operand (readOperand_identifier none "f" _), readChain_call none (by decide),
        readItems_of_not_closes (by decide)]
      unfold readSeries
      rw [hx]
      show ((readMore none .arguments [.identifier "y"]).map _).bind _ = _
      rw [hmore]
      rfl
    rw [parseTokens_eq none hne, hread]
    rfl
  obtain ⟨-, hcompletes, hpersists⟩ := fault_earliest hne hfault nofun
  exact ⟨hne, hfault, hcompletes, hpersists (by decide) [.parenClose]⟩

end Reckon
