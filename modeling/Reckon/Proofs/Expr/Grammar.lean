import Reckon.Expr.Basic
import Reckon.Token.Basic

/-!
# `Proofs.Expr.Grammar` — the grammar of expressions

The grammar has eight levels. Levels 1 to 6 hold the operators with two operands, loosest first; each of
them leans to the left, so its left operand is a phrase of the same level and its right operand one of
the next. Level 7 holds the prefix operators. Level 8 holds what needs no operator: literals,
identifiers, groups, lists and calls. What is called is a phrase of level 8 that spells a variable, so
an identifier may stand in parentheses there.

`Phrase`, `Items` and `Series` say which tokens derive from the grammar and which tree they spell. They
say nothing about how to read tokens; `Proofs.Expr.Parsing` compares the parser with them.
-/

namespace Reckon

theorem Operator.level_le (op : Operator) : op.precedence.level ≤ 6 := by
  cases op <;> decide

namespace Grammar

/-- The operators that join two operands on a level. -/
def joining : Nat → List Operator
  | 1 => [.or, .xor]
  | 2 => [.and]
  | 3 => [.equal, .notEqual]
  | 4 => [.less, .lessEqual, .greater, .greaterEqual]
  | 5 => [.plus, .minus]
  | 6 => [.times, .divide, .div, .mod]
  | _ => []

/-- The operators that stand in front of one operand. -/
def leading : List Operator :=
  [.minus, .not]

/-- A phrase can start with the token. -/
def opens : Token → Bool
  | .literal _ | .identifier _ | .parenOpen | .bracketOpen => true
  | .operator op => op ∈ leading
  | _ => false

mutual

/-- The tokens are a phrase of a level, and spell an expression. -/
inductive Phrase : Nat → List Token → Expr → Prop where
  | joined {level : Nat} {op : Operator} {ts us : List Token} {a b : Expr}
      (hop : op ∈ joining level) (left : Phrase level ts a) (right : Phrase (level + 1) us b) :
      Phrase level (ts ++ .operator op :: us) (.binary op a b)
  | led {op : Operator} {ts : List Token} {e : Expr}
      (hop : op ∈ leading) (operand : Phrase 7 ts e) :
      Phrase 7 (.operator op :: ts) (.unary op e)
  /-- a phrase of the next level is one of this level -/
  | next {level : Nat} {ts : List Token} {e : Expr}
      (low : 1 ≤ level) (high : level ≤ 7) (tighter : Phrase (level + 1) ts e) :
      Phrase level ts e
  | literal (value : Value) : Phrase 8 [.literal value] (.literal value)
  | identifier (name : String) : Phrase 8 [.identifier name] (.variable name)
  | group {ts : List Token} {e : Expr} (inner : Phrase 1 ts e) :
      Phrase 8 (.parenOpen :: ts ++ [.parenClose]) e
  | array {ts : List Token} {es : List Expr} (elements : Items ts es) :
      Phrase 8 (.bracketOpen :: ts ++ [.bracketClose]) (.array es)
  | call {name : String} {ts us : List Token} {es : List Expr}
      (target : Phrase 8 ts (.variable name)) (params : Items us es) :
      Phrase 8 (ts ++ .parenOpen :: us ++ [.parenClose]) (.call name es)

/-- The tokens are a list of expressions between its marks. -/
inductive Items : List Token → List Expr → Prop where
  | empty : Items [] []
  | series {ts : List Token} {es : List Expr} (h : Series ts es) : Items ts es

/-- The tokens are expressions with commas between them. -/
inductive Series : List Token → List Expr → Prop where
  | single {ts : List Token} {e : Expr} (h : Phrase 1 ts e) : Series ts [e]
  | cons {ts us : List Token} {e : Expr} {es : List Expr} (h : Phrase 1 ts e)
      (rest : Series us es) : Series (ts ++ .comma :: us) (e :: es)

end

/-- The levels of the grammar are those of the binding of operators. -/
theorem mem_joining {op : Operator} {level : Nat} :
    op ∈ joining level ↔ 1 ≤ level ∧ op.precedence.level = level := by
  constructor
  · intro h
    unfold joining at h
    split at h <;> cases op <;> simp_all [Operator.precedence, Precedence.level]
  · rintro ⟨low, rfl⟩
    cases op <;> first | decide | exact absurd low (by decide)

/-- A phrase of a level is one of every looser level. -/
theorem Phrase.weaken {level tighter : Nat} {ts : List Token} {e : Expr}
    (h : Phrase tighter ts e) (low : 1 ≤ level) (hle : level ≤ tighter) (high : tighter ≤ 8) :
    Phrase level ts e := by
  induction hle with
  | refl => exact h
  | step hle ih =>
    have hle : level ≤ _ := hle
    exact ih (.next (by omega) (by omega) h) (by omega)

/-- A phrase starts with a token that can start one. -/
theorem exists_opens {level : Nat} {ts : List Token} {e : Expr} :
    Phrase level ts e → ∃ t us, ts = t :: us ∧ opens t = true
  | .joined _ left _ => by
    obtain ⟨t, us, rfl, ht⟩ := exists_opens left
    exact ⟨t, _, rfl, ht⟩
  | .led hop _ => ⟨_, _, rfl, decide_eq_true hop⟩
  | .next _ _ tighter => exists_opens tighter
  | .literal _ => ⟨_, _, rfl, rfl⟩
  | .identifier _ => ⟨_, _, rfl, rfl⟩
  | .group _ => ⟨_, _, rfl, rfl⟩
  | .array _ => ⟨_, _, rfl, rfl⟩
  | .call target _ => by
    obtain ⟨t, us, rfl, ht⟩ := exists_opens target
    exact ⟨t, _, rfl, ht⟩

/-- What can be called is an identifier, in any number of parentheses. -/
theorem target_is_identifier {level : Nat} {ts : List Token} {e : Expr} {name : String}
    (he : e = .variable name) :
    Phrase level ts e → ∃ n, ts = List.replicate n .parenOpen ++
      .identifier name :: List.replicate n .parenClose
  | .joined _ _ _ | .led _ _ | .literal _ | .array _ | .call _ _ => by cases he
  | .next _ _ tighter => target_is_identifier he tighter
  | .identifier _ => by
    cases he
    exact ⟨0, rfl⟩
  | .group inner => by
    obtain ⟨n, rfl⟩ := target_is_identifier he inner
    refine ⟨n + 1, ?_⟩
    rw [List.replicate_succ, List.replicate_succ']
    simp

end Grammar

end Reckon
