import Reckon.Expr.Parser
import Reckon.Proofs.Except
import Reckon.Proofs.Expr.Grammar

/-!
# `Proofs.Expr.Reading` — what the functions of the parser do, token by token

The functions of the parser give the tokens they left over with the proof that they are fewer. Here they
are without that proof, which makes room for equations: one for each kind of token that a function
meets. What is proved about the parser is proved from these equations.
-/

namespace Reckon

/-- The token that ends an enclosure. -/
def Enclosure.mark : Enclosure → Token
  | group => .parenClose
  | array => .bracketClose
  | arguments => .parenClose

theorem Enclosure.closedBy_iff {enclosure : Enclosure} {t : Token} :
    enclosure.closedBy t = true ↔ t = enclosure.mark := by
  cases enclosure <;> cases t <;> simp [closedBy, mark]

namespace Parser

open Grammar

/-! ## Reading -/

/-- What was read and the tokens left over. -/
def bare {α : Type} {p : List Token → Prop} (r : Except Stop (α × { rest // p rest })) :
    Except Stop (α × List Token) :=
  r.map fun (a, rest) => (a, rest.val)

def readPhrase (allowance : Allowance) (level : Nat) (ts : List Token) :
    Except Stop (Expr × List Token) :=
  bare (climb allowance level ts)

def readOperand (allowance : Allowance) (ts : List Token) : Except Stop (Expr × List Token) :=
  bare (operand allowance ts)

def readChain (allowance : Allowance) (level : Nat) (left : Expr) (ts : List Token) :
    Except Stop (Expr × List Token) :=
  bare (chain allowance level left ts)

def readItems (allowance : Allowance) (enclosure : Enclosure) (ts : List Token) :
    Except Stop (List Expr × List Token) :=
  bare (items allowance enclosure ts)

def readMore (allowance : Allowance) (enclosure : Enclosure) (ts : List Token) :
    Except Stop (List Expr × List Token) :=
  bare (moreItems allowance enclosure ts)

/-- The closing mark of an enclosure, and what follows it. -/
def readClose (enclosure : Enclosure) (ts : List Token) : Except Stop (List Token) :=
  (close enclosure ts).map (·.val)

section Equations

variable (allowance : Allowance) (level : Nat) (left : Expr) (enclosure : Enclosure)

theorem readPhrase_eq (ts : List Token) :
    readPhrase allowance level ts =
      match allowance.descend with
      | none => .error (.nestedTooDeeply, ts)
      | some inner => (readOperand inner ts).bind fun (left, rest) => readChain inner level left rest := by
  unfold readPhrase readOperand readChain
  rw [climb]
  cases allowance.descend with
  | none => rfl
  | some inner =>
    dsimp only
    cases operand inner ts with
    | error stop => rfl
    | ok r =>
      show bare _ = bare (chain inner level r.1 r.2.val)
      dsimp only
      cases chain inner level r.1 r.2.val <;> rfl

theorem readOperand_nil : readOperand allowance [] = .error (.unexpectedEnd, []) := by
  unfold readOperand
  rw [operand]
  rfl

theorem readOperand_literal (value : Value) (ts : List Token) :
    readOperand allowance (.literal value :: ts) = .ok (.literal value, ts) := by
  unfold readOperand
  rw [operand]
  rfl

theorem readOperand_identifier (name : String) (ts : List Token) :
    readOperand allowance (.identifier name :: ts) = .ok (.variable name, ts) := by
  unfold readOperand
  rw [operand]
  rfl

theorem readOperand_parenOpen (ts : List Token) :
    readOperand allowance (.parenOpen :: ts) =
      (readPhrase allowance 1 ts).bind fun (e, rest) =>
        (readClose .group rest).map fun after => (e, after) := by
  unfold readOperand readPhrase readClose
  rw [operand]
  cases climb allowance 1 ts with
  | error stop => rfl
  | ok r =>
    show bare _ = ((close .group r.2.val).map (·.val)).map fun after => (r.1, after)
    dsimp only
    cases close .group r.2.val <;> rfl

theorem readOperand_bracketOpen (ts : List Token) :
    readOperand allowance (.bracketOpen :: ts) =
      (readItems allowance .array ts).map fun (es, rest) => (.array es, rest) := by
  unfold readOperand readItems
  rw [operand]
  cases items allowance .array ts <;> rfl

theorem readOperand_leading {op : Operator} (hop : op ∈ leading) (ts : List Token) :
    readOperand allowance (.operator op :: ts) =
      (readPhrase allowance 7 ts).map fun (e, rest) => (.unary op e, rest) := by
  unfold readOperand readPhrase
  rcases List.mem_cons.mp hop with rfl | hop
  · rw [operand]
    cases climb allowance 7 ts <;> rfl
  · rcases List.mem_singleton.mp hop with rfl
    rw [operand]
    cases climb allowance 7 ts <;> rfl

theorem readOperand_noOperand {t : Token} (h : opens t = false) (ts : List Token) :
    readOperand allowance (t :: ts) = .error (.noOperand t, ts) := by
  unfold readOperand
  rw [operand.eq_def]
  cases t with
  | parenOpen | bracketOpen | literal value | identifier name => cases h
  | parenClose | bracketClose | comma => rfl
  | operator op =>
    cases op with
    | minus | not => cases h
    | _ => rfl

theorem readClose_mark (ts : List Token) : readClose enclosure (enclosure.mark :: ts) = .ok ts := by
  cases enclosure <;> rfl

/-- The binding of the token in front. -/
def headLevel : List Token → Nat
  | [] => 0
  | t :: _ => t.precedence.level

variable {level} in
theorem readChain_stop {ts : List Token} (h : headLevel ts < level) :
    readChain allowance level left ts = .ok (left, ts) := by
  have high : ¬ level ≤ headLevel ts := Nat.not_le_of_lt h
  unfold readChain
  rw [chain.eq_def]
  cases ts with
  | nil => rfl
  | cons t rest =>
    dsimp only
    rw [if_neg (show ¬ level ≤ t.precedence.level from high)]
    rfl

variable {level} in
theorem readChain_operator {op : Operator} (h : level ≤ op.precedence.level) (ts : List Token) :
    readChain allowance level left (.operator op :: ts) =
      (readPhrase allowance (op.precedence.level + 1) ts).bind fun (right, rest) =>
        readChain allowance level (.binary op left right) rest := by
  unfold readChain readPhrase
  rw [chain, if_pos (show level ≤ (Token.operator op).precedence.level from h)]
  dsimp only
  cases climb allowance (op.precedence.level + 1) ts with
  | error stop => rfl
  | ok r =>
    show bare _ = bare (chain allowance level (.binary op left r.1) r.2.val)
    dsimp only
    cases chain allowance level (.binary op left r.1) r.2.val <;> rfl

variable {level} in
theorem readChain_call (h : level ≤ 8) (name : String) (ts : List Token) :
    readChain allowance level (.variable name) (.parenOpen :: ts) =
      (readItems allowance .arguments ts).bind fun (params, rest) =>
        readChain allowance level (.call name params) rest := by
  unfold readChain readItems
  rw [chain, if_pos (show level ≤ Token.parenOpen.precedence.level from h)]
  dsimp only
  cases items allowance .arguments ts with
  | error stop => rfl
  | ok r =>
    show bare _ = bare (chain allowance level (.call name r.1) r.2.val)
    dsimp only
    cases chain allowance level (.call name r.1) r.2.val <;> rfl

variable {level left} in
theorem readChain_notCallable (h : level ≤ 8) (hleft : ∀ name, left ≠ .variable name)
    (ts : List Token) :
    readChain allowance level left (.parenOpen :: ts) = .error (.notCallable, ts) := by
  unfold readChain
  rw [chain.eq_def]
  dsimp only
  rw [if_pos (show level ≤ Token.parenOpen.precedence.level from h)]
  cases left with
  | «variable» name => exact absurd rfl (hleft name)
  | _ => rfl

theorem readItems_eq (ts : List Token) :
    readItems allowance enclosure ts =
      if closes enclosure ts then (readClose enclosure ts).map fun after => ([], after)
      else (readPhrase allowance 1 ts).bind fun (e, rest) =>
        (readMore allowance enclosure rest).map fun (es, after) => (e :: es, after) := by
  unfold readItems readClose readPhrase readMore
  rw [items]
  by_cases h : closes enclosure ts = true
  · rw [if_pos h, if_pos h]
    cases close enclosure ts <;> rfl
  · rw [if_neg h, if_neg h]
    cases climb allowance 1 ts with
    | error stop => rfl
    | ok r =>
      show bare _ = (bare (moreItems allowance enclosure r.2.val)).map fun (es, after) =>
        (r.1 :: es, after)
      dsimp only
      cases moreItems allowance enclosure r.2.val <;> rfl

theorem readMore_comma (ts : List Token) :
    readMore allowance enclosure (.comma :: ts) =
      (readPhrase allowance 1 ts).bind fun (e, rest) =>
        (readMore allowance enclosure rest).map fun (es, after) => (e :: es, after) := by
  unfold readPhrase readMore
  rw [moreItems]
  cases climb allowance 1 ts with
  | error stop => rfl
  | ok r =>
    show bare _ = (bare (moreItems allowance enclosure r.2.val)).map fun (es, after) =>
      (r.1 :: es, after)
    dsimp only
    cases moreItems allowance enclosure r.2.val <;> rfl

theorem readMore_end {ts : List Token} (h : ∀ us, ts ≠ .comma :: us) :
    readMore allowance enclosure ts = (readClose enclosure ts).map fun after => ([], after) := by
  unfold readMore readClose
  rw [moreItems]
  · cases close enclosure ts <;> rfl
  · exact h

theorem readMore_mark (ts : List Token) :
    readMore allowance enclosure (enclosure.mark :: ts) = .ok ([], ts) := by
  rw [readMore_end _ _ (by cases enclosure <;> nofun), readClose_mark]
  rfl

theorem readItems_mark (ts : List Token) :
    readItems allowance enclosure (enclosure.mark :: ts) = .ok ([], ts) := by
  have hcloses : closes enclosure (enclosure.mark :: ts) = true := Enclosure.closedBy_iff.mpr rfl
  rw [readItems_eq, if_pos hcloses, readClose_mark]
  rfl

theorem headLevel_mark (ts : List Token) : headLevel (enclosure.mark :: ts) = 0 := by
  cases enclosure <;> rfl

end Equations

theorem bare_property {α : Type} {p : List Token → Prop} {r : Except Stop (α × { rest // p rest })}
    {a : α} {rest : List Token} (h : bare r = .ok (a, rest)) : p rest := by
  obtain ⟨⟨a', rest'⟩, -, h⟩ := Except.exists_of_map_ok h
  cases h
  exact rest'.property

theorem readPhrase_of_operand {level : Nat} {ts rest : List Token} {left : Expr}
    (h : readOperand none ts = .ok (left, rest)) :
    readPhrase none level ts = readChain none level left rest := by
  rw [readPhrase_eq]
  show (readOperand none ts).bind _ = _
  rw [h]
  rfl

theorem exists_of_readClose_ok {enclosure : Enclosure} {ts rest : List Token}
    (h : readClose enclosure ts = .ok rest) : ts = enclosure.mark :: rest := by
  obtain ⟨after, hclose, rfl⟩ := Except.exists_of_map_ok h
  cases ts with
  | nil => cases hclose
  | cons t us =>
    unfold close at hclose
    dsimp only at hclose
    split at hclose
    · next ht =>
      cases hclose
      rw [Enclosure.closedBy_iff.mp ht]
    · cases hclose

/-! ## The binding of the next token -/

theorem headLevel_le (ts : List Token) : headLevel ts ≤ 8 := by
  cases ts with
  | nil => exact Nat.zero_le 8
  | cons t rest =>
    cases t with
    | operator op => exact Nat.le_trans op.level_le (by decide)
    | parenOpen => exact Nat.le_refl 8
    | _ => exact Nat.zero_le 8

theorem headLevel_ne_seven (ts : List Token) : headLevel ts ≠ 7 := by
  cases ts with
  | nil => exact Nat.zero_ne_add_one 6
  | cons t rest =>
    cases t with
    | operator op => exact Nat.ne_of_lt (Nat.lt_succ_of_le op.level_le)
    | parenOpen => exact Nat.succ_ne_self 7
    | _ => exact Nat.zero_ne_add_one 6

end Parser

end Reckon
