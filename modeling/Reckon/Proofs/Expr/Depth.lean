import Reckon.Proofs.Expr.Parsing
import Reckon.Proofs.Nesting

/-!
# `Proofs.Expr.Depth` — how deep reading goes

Reading tokens takes no more levels than there are tokens, and one. With fewer levels granted it may still
come to what it comes to without a bound, expression or fault; otherwise it stops because nesting is too
deep.

Main statement: `parseTokens_cutShort`.
-/

namespace Reckon

namespace Parser

open Grammar

/-- Reading comes to the same as without a bound, or, unless enough is granted, it stops because nesting is
too deep. -/
abbrev CutShort {α : Type} (granted : Bool) (r r' : Except Stop α) : Prop :=
  Except.CutShort (fun stop : Stop => stop.1 = .nestedTooDeeply) granted r r'

mutual

/-- **An allowance makes no difference to reading but that nesting may be too deep for it.** A level is
entered behind a token each time, so there are no more of them than tokens, and one. -/
theorem readPhrase_cutShort (a : Allowance) (level : Nat) (ts : List Token) (low : 1 ≤ level)
    (high : level ≤ 7) :
    CutShort (a.grants (ts.length + 1)) (readPhrase a level ts) (readPhrase none level ts) := by
  rw [readPhrase_eq a, readPhrase_eq none, Allowance.grants_succ]
  cases a.descend with
  | none => exact .inr ⟨rfl, _, rfl, rfl⟩
  | some inner =>
    -- the operand and what follows it are read on the same level, the latter with fewer tokens left
    refine (readOperand_cutShort inner ts).bind ?_
    rintro ⟨left, rest⟩ hread
    have shorter : rest.length < ts.length := bare_property hread
    exact (readChain_cutShort inner level left rest low high).deeper (Nat.le_of_lt shorter)
termination_by (ts.length, 2)

theorem readOperand_cutShort (a : Allowance) (ts : List Token) :
    CutShort (a.grants ts.length) (readOperand a ts) (readOperand none ts) := by
  cases ts with
  | nil =>
    rw [readOperand_nil, readOperand_nil]
    exact .refl _
  | cons t us =>
    cases hopens : opens t with
    | false =>
      rw [readOperand_noOperand _ hopens, readOperand_noOperand _ hopens]
      exact .refl _
    | true =>
      cases t with
      | literal value =>
        rw [readOperand_literal, readOperand_literal]
        exact .refl _
      | identifier name =>
        rw [readOperand_identifier, readOperand_identifier]
        exact .refl _
      | parenOpen =>
        rw [readOperand_parenOpen, readOperand_parenOpen]
        exact (readPhrase_cutShort a 1 us (by decide) (by decide)).bind fun _ _ => .refl _
      | bracketOpen =>
        rw [readOperand_bracketOpen, readOperand_bracketOpen]
        exact (readItems_cutShort a .array us).map _
      | operator op =>
        have hop : op ∈ leading := of_decide_eq_true hopens
        rw [readOperand_leading _ hop, readOperand_leading _ hop]
        exact (readPhrase_cutShort a 7 us (by decide) (by decide)).map _
      | _ => cases hopens
termination_by (ts.length, 1)

theorem readChain_cutShort (a : Allowance) (level : Nat) (left : Expr) (ts : List Token)
    (low : 1 ≤ level) (high : level ≤ 7) :
    CutShort (a.grants ts.length) (readChain a level left ts) (readChain none level left ts) := by
  by_cases hstop : headLevel ts < level
  · rw [readChain_stop _ _ hstop, readChain_stop _ _ hstop]
    exact .refl _
  · have hgo : level ≤ headLevel ts := Nat.le_of_not_lt hstop
    cases ts with
    | nil => exact absurd (Nat.le_trans low hgo) (by decide)
    | cons t us =>
      cases t with
      | operator op =>
        have hgo : level ≤ op.precedence.level := hgo
        have hlevel := op.level_le
        rw [readChain_operator _ _ hgo, readChain_operator _ _ hgo]
        have hright := readPhrase_cutShort a (op.precedence.level + 1) us (by omega) (by omega)
        refine hright.bind ?_
        rintro ⟨right, rest⟩ hread
        have shorter : rest.length < us.length := bare_property hread
        exact (readChain_cutShort a level (.binary op left right) rest low high).deeper
          (Nat.le_succ_of_le (Nat.le_of_lt shorter))
      | parenOpen =>
        have hle : level ≤ 8 := Nat.le_succ_of_le high
        by_cases hcall : ∃ name, left = .variable name
        · obtain ⟨name, rfl⟩ := hcall
          rw [readChain_call _ hle, readChain_call _ hle]
          refine (readItems_cutShort a .arguments us).bind ?_
          rintro ⟨params, rest⟩ hread
          have shorter : rest.length < us.length := bare_property hread
          exact (readChain_cutShort a level (.call name params) rest low high).deeper
            (Nat.le_succ_of_le (Nat.le_of_lt shorter))
        · have hleft : ∀ name, left ≠ .variable name := fun name hname => hcall ⟨name, hname⟩
          rw [readChain_notCallable _ hle hleft, readChain_notCallable _ hle hleft]
          exact .refl _
      | _ => exact absurd (Nat.le_trans low hgo) (Nat.not_succ_le_zero 0)
termination_by (ts.length, 1)

theorem readItems_cutShort (a : Allowance) (enclosure : Enclosure) (ts : List Token) :
    CutShort (a.grants (ts.length + 1)) (readItems a enclosure ts) (readItems none enclosure ts) := by
  rw [readItems_eq a, readItems_eq none]
  split
  · exact .refl _
  · refine (readPhrase_cutShort a 1 ts (by decide) (by decide)).bind ?_
    rintro ⟨e, rest⟩ hread
    have shorter : rest.length < ts.length := bare_property hread
    exact ((readMore_cutShort a enclosure rest).deeper
      (Nat.le_succ_of_le (Nat.le_of_lt shorter))).map _
termination_by (ts.length, 3)

theorem readMore_cutShort (a : Allowance) (enclosure : Enclosure) (ts : List Token) :
    CutShort (a.grants ts.length) (readMore a enclosure ts) (readMore none enclosure ts) := by
  by_cases hcomma : ∃ us, ts = .comma :: us
  · obtain ⟨us, hus⟩ := hcomma
    have hlen : us.length < ts.length := by
      rw [hus]
      exact Nat.lt_succ_self _
    rw [hus, readMore_comma, readMore_comma]
    refine (readPhrase_cutShort a 1 us (by decide) (by decide)).bind ?_
    rintro ⟨e, rest⟩ hread
    have shorter : rest.length < us.length := bare_property hread
    exact ((readMore_cutShort a enclosure rest).deeper
      (Nat.le_succ_of_le (Nat.le_of_lt shorter))).map _
  · have hend : ∀ us, ts ≠ .comma :: us := fun us hus => hcomma ⟨us, hus⟩
    rw [readMore_end _ _ hend, readMore_end _ _ hend]
    exact .refl _
termination_by (ts.length, 1)

end

end Parser

theorem parseTokens_cutShort (a : Allowance) (ts : List Token) :
    Except.CutShort (fun err : ParseError => err.cause = .nestedTooDeeply) (a.grants (ts.length + 1))
      (parseTokens a ts) (parseTokens none ts) := by
  by_cases hts : ts = []
  · rw [hts]
    exact .refl _
  · rw [parseTokens_eq a hts, parseTokens_eq none hts]
    rcases Parser.readPhrase_cutShort a 1 ts (by decide) (by decide) with h | ⟨hrefused, stop, hdeep, h⟩
    · rw [h]
      exact .refl _
    · rw [h]
      exact .inr ⟨hrefused, _, hdeep, rfl⟩

end Reckon
