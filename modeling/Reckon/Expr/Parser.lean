import Reckon.Expr.Basic
import Reckon.Nesting
import Reckon.Token.Basic

/-!
# `Expr.Parser` — tokens to trees, by climbing precedences

`climb` reads an operand and then goes on as long as the next token binds tightly enough; the right
operand of an operator is read one level tighter than the operator itself, so chains lean to the left.
Every function returns the tokens it left over, with the proof that they are fewer; that is why the
recursion ends.

A fault is reported with the tokens that were left when it was met.
-/

namespace Reckon

/-- The three constructs that a closing mark ends. -/
inductive Enclosure where
  | group | array | arguments
deriving Repr, DecidableEq

namespace Enclosure

/-- What is missing, in messages. -/
def expectation : Enclosure → String
  | group => "Expected ')' after group expression"
  | array => "Expected ']' after array elements"
  | arguments => "Expected ')' after argument list"

/-- The token is the closing mark. -/
def closedBy : Enclosure → Token → Bool
  | array, .bracketClose => true
  | group, .parenClose => true
  | arguments, .parenClose => true
  | _, _ => false

end Enclosure

/-- Why the parser stops. -/
inductive ParseCause where
  /-- there are no tokens -/
  | empty
  | nestedTooDeeply
  /-- a whole expression ends before this token -/
  | expectedEnd (found : Token)
  /-- an operand is missing at the end -/
  | unexpectedEnd
  /-- a closing mark is missing -/
  | unclosed (enclosure : Enclosure) (found : Option Token)
  /-- an operand cannot start with this token -/
  | noOperand (found : Token)
  /-- something else than an identifier is called -/
  | notCallable

/-- The name of the kind of a fault in a list of tokens. -/
def ParseCause.kindName : ParseCause → String
  | .empty => "no_valid_tokens"
  | .nestedTooDeeply => "nesting_too_deep"
  | .expectedEnd _ => "multiple_expressions"
  | .unexpectedEnd => "unexpected_end"
  | .unclosed .. => "expected_token"
  | .noOperand _ => "unexpected_token"
  | .notCallable => "invalid_call_target"

/-- A fault in a list of tokens and how many tokens were consumed up to it. -/
structure ParseError where
  cause : ParseCause
  consumed : Nat

namespace ParseError

/-- The message of a fault in a list of tokens. -/
def message (e : ParseError) : String :=
  match e.cause with
  | .empty => "Empty expression"
  | .nestedTooDeeply => "Expression is nested too deeply"
  | .expectedEnd found => s!"Expected end of expression, found {found.describe}"
  | .unexpectedEnd => "Unexpected end of expression"
  | .unclosed enclosure (some found) => s!"{enclosure.expectation}, found {found.describe}"
  | .unclosed enclosure none => s!"{enclosure.expectation}, found end of expression"
  | .noOperand found => s!"Expected left side of expression, found {found.describe}"
  | .notCallable => "Expression is not a valid call target, expected an identifier"

end ParseError

namespace Parser

/-- A cause and the tokens left over. -/
abbrev Stop := ParseCause × List Token

/-- Fewer tokens than `ts`. -/
abbrev Fewer (ts : List Token) := { rest : List Token // rest.length < ts.length }

/-- No more tokens than `ts`. -/
abbrev NoMore (ts : List Token) := { rest : List Token // rest.length ≤ ts.length }

/-- The closing mark of an enclosure. -/
def close (enclosure : Enclosure) (ts : List Token) : Except Stop (Fewer ts) :=
  match ts with
  | [] => .error (.unclosed enclosure none, [])
  | t :: rest =>
    if enclosure.closedBy t then .ok ⟨rest, by simp⟩
    else .error (.unclosed enclosure (some t), t :: rest)

/-- The closing mark stands first. -/
def closes (enclosure : Enclosure) (ts : List Token) : Bool :=
  match ts with
  | [] => false
  | t :: _ => enclosure.closedBy t

theorem length_le_cons {t : Token} {ts us vs : List Token} (h : us.length < ts.length)
    (h' : vs.length ≤ us.length) : vs.length ≤ (t :: ts).length :=
  Nat.le_trans h' (Nat.le_succ_of_le (Nat.le_of_lt h))

mutual

/-- An expression whose operators bind at `level` or tighter. -/
def climb (allowance : Allowance) (level : Nat) (ts : List Token) :
    Except Stop (Expr × Fewer ts) :=
  match allowance.descend with
  | none => .error (.nestedTooDeeply, ts)
  | some inner =>
    match operand inner ts with
    | .error stop => .error stop
    | .ok (left, rest) =>
      match chain inner level left rest.val with
      | .error stop => .error stop
      | .ok (e, rest') => .ok (e, ⟨rest'.val, Nat.lt_of_le_of_lt rest'.property rest.property⟩)
termination_by (ts.length, 2)
decreasing_by
  · exact Prod.Lex.right _ (by omega)
  · exact Prod.Lex.left _ _ rest.property

/-- A literal, an identifier, a group, a list, or an operand under a prefix operator. -/
def operand (allowance : Allowance) (ts : List Token) : Except Stop (Expr × Fewer ts) :=
  match ts with
  | [] => .error (.unexpectedEnd, [])
  | .literal value :: rest => .ok (.literal value, ⟨rest, by simp⟩)
  | .identifier name :: rest => .ok (.variable name, ⟨rest, by simp⟩)
  | .parenOpen :: rest =>
    match climb allowance 1 rest with
    | .error stop => .error stop
    | .ok (e, inner) =>
      match close .group inner.val with
      | .error stop => .error stop
      | .ok after =>
        .ok (e, ⟨after.val, by have := inner.property; have := after.property; simp; omega⟩)
  | .bracketOpen :: rest =>
    match items allowance .array rest with
    | .error stop => .error stop
    | .ok (elements, after) =>
      .ok (.array elements, ⟨after.val, by have := after.property; simp; omega⟩)
  | .operator .minus :: rest =>
    match climb allowance 7 rest with
    | .error stop => .error stop
    | .ok (e, after) =>
      .ok (.unary .minus e, ⟨after.val, by have := after.property; simp; omega⟩)
  | .operator .not :: rest =>
    match climb allowance 7 rest with
    | .error stop => .error stop
    | .ok (e, after) =>
      .ok (.unary .not e, ⟨after.val, by have := after.property; simp; omega⟩)
  | t :: rest => .error (.noOperand t, rest)
termination_by (ts.length, 1)
decreasing_by all_goals exact Prod.Lex.left _ _ (by simp)

/-- What follows an operand: operators that bind at `level` or tighter, and argument lists. -/
def chain (allowance : Allowance) (level : Nat) (left : Expr) (ts : List Token) :
    Except Stop (Expr × NoMore ts) :=
  match ts with
  | [] => .ok (left, ⟨[], Nat.le_refl _⟩)
  | t :: rest =>
    if level ≤ t.precedence.level then
      match t with
      | .operator op =>
        match climb allowance (op.precedence.level + 1) rest with
        | .error stop => .error stop
        | .ok (right, after) =>
          match chain allowance level (.binary op left right) after.val with
          | .error stop => .error stop
          | .ok (e, last) =>
            .ok (e, ⟨last.val, length_le_cons after.property last.property⟩)
      | .parenOpen =>
        match left with
        | .variable name =>
          match items allowance .arguments rest with
          | .error stop => .error stop
          | .ok (params, after) =>
            match chain allowance level (.call name params) after.val with
            | .error stop => .error stop
            | .ok (e, last) =>
              .ok (e, ⟨last.val, length_le_cons after.property last.property⟩)
        | _ => .error (.notCallable, rest)
      | _ => .ok (left, ⟨t :: rest, Nat.le_refl _⟩)
    else .ok (left, ⟨t :: rest, Nat.le_refl _⟩)
termination_by (ts.length, 1)
decreasing_by
  all_goals
    refine Prod.Lex.left _ _ ?_
    try have := after.property
    simp
    try omega

/-- The expressions of a list up to its closing mark. -/
def items (allowance : Allowance) (enclosure : Enclosure) (ts : List Token) :
    Except Stop (List Expr × Fewer ts) :=
  if closes enclosure ts then
    match close enclosure ts with
    | .error stop => .error stop
    | .ok after => .ok ([], after)
  else
    match climb allowance 1 ts with
    | .error stop => .error stop
    | .ok (e, rest) =>
      match moreItems allowance enclosure rest.val with
      | .error stop => .error stop
      | .ok (es, after) =>
        .ok (e :: es, ⟨after.val, Nat.lt_trans after.property rest.property⟩)
termination_by (ts.length, 3)
decreasing_by
  · exact Prod.Lex.right _ (by omega)
  · exact Prod.Lex.left _ _ rest.property

/-- After an expression of a list: a comma and more of it, or the closing mark. -/
def moreItems (allowance : Allowance) (enclosure : Enclosure) (ts : List Token) :
    Except Stop (List Expr × Fewer ts) :=
  match ts with
  | .comma :: rest =>
    match climb allowance 1 rest with
    | .error stop => .error stop
    | .ok (e, inner) =>
      match moreItems allowance enclosure inner.val with
      | .error stop => .error stop
      | .ok (es, after) =>
        .ok (e :: es, ⟨after.val, by
          have := inner.property; have := after.property; simp; omega⟩)
  | ts =>
    match close enclosure ts with
    | .error stop => .error stop
    | .ok after => .ok ([], after)
termination_by (ts.length, 1)
decreasing_by
  · exact Prod.Lex.left _ _ (by simp)
  · exact Prod.Lex.left _ _ (by have := inner.property; simp; omega)

end

end Parser

/-- The expression that a list of tokens spells, all of it. -/
def parseTokens (allowance : Allowance) (ts : List Token) : Except ParseError Expr :=
  match ts with
  | [] => .error ⟨.empty, 0⟩
  | ts =>
    match Parser.climb allowance 1 ts with
    | .error (cause, left) => .error ⟨cause, ts.length - left.length⟩
    | .ok (e, ⟨[], _⟩) => .ok e
    | .ok (_, ⟨t :: rest, _⟩) => .error ⟨.expectedEnd t, ts.length - (rest.length + 1)⟩

end Reckon
