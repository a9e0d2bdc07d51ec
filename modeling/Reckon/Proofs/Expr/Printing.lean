import Reckon.Proofs.Expr.Parsing
import Reckon.Proofs.Nesting
import Reckon.Proofs.Token.Spelling
import Reckon.Pipeline

/-!
# `Proofs.Expr.Printing` — an expression is read back from its texts

`Expr.tokens` puts parentheses only around an operation on two operands that binds too loosely for its
place. `ReadsBack` says that the parser undoes it, with a lemma for each kind of node. The levels of nesting
that it takes are counted (`Expr.reach`), so it also says when the parser gives up (`Limited`). That count is
of the parser as it is here, where every level takes one of the allowance; that an expression is read, or else
found to be nested too deeply, does not depend on it. How tokens are spelled, `Proofs.Token.Spelling` says.

Main statement: `compile_written`.
-/

namespace Reckon

namespace Expr

/-! ## The tokens of an expression -/

/-- An operation on two operands that binds looser than `level`: as an operand on that level it stands in
parentheses. -/
def needsParens (level : Nat) : Expr → Bool
  | .binary op _ _ => op.precedence.level < level
  | _ => false

/-- Tokens, in parentheses where they are needed. -/
def enclose (parens : Bool) (ts : List Token) : List Token :=
  if parens then .parenOpen :: ts ++ [.parenClose] else ts

mutual

/-- The tokens of an expression, with no more parentheses than it takes. A conditional has none: no text
spells one. -/
def tokens : Expr → List Token
  | .literal value => [.literal value]
  | .variable name => [.identifier name]
  | .call name params => .identifier name :: .parenOpen :: tokensAll params ++ [.parenClose]
  | .unary op operand => .operator op :: enclose (operand.needsParens 7) operand.tokens
  | .binary op left right =>
    enclose (left.needsParens op.precedence.level) left.tokens ++
      .operator op :: enclose (right.needsParens (op.precedence.level + 1)) right.tokens
  | .array elements => .bracketOpen :: tokensAll elements ++ [.bracketClose]
  | .ternary .. => []

/-- The tokens of expressions with commas between them. -/
def tokensAll : List Expr → List Token
  | [] => []
  | e :: es => e.tokens ++ tokensMore es

/-- The tokens of expressions with commas in front of them. -/
def tokensMore : List Expr → List Token
  | [] => []
  | e :: es => .comma :: e.tokens ++ tokensMore es

end

mutual

/-- How many levels of nesting the parser enters below an expression that it reads. The left operand of
an operator is read on the level of the operation itself; a minus, a pair of parentheses, a right operand, an
element and a parameter are one level each. -/
def reach : Expr → Nat
  | .literal _ | .variable _ | .ternary .. => 0
  | .call _ params => reachAll params
  | .unary _ operand => operand.reach + (operand.needsParens 7).toNat + 1
  | .binary op left right =>
    max (left.reach + (left.needsParens op.precedence.level).toNat)
      (right.reach + (right.needsParens (op.precedence.level + 1)).toNat + 1)
  | .array elements => reachAll elements

/-- How many levels the expressions of a list take, each of which is a level further down. -/
def reachAll : List Expr → Nat
  | [] => 0
  | e :: es => max (e.reach + 1) (reachAll es)

end

/-- The tokens of an operand on a level. -/
def operandTokens (level : Nat) (e : Expr) : List Token :=
  enclose (e.needsParens level) e.tokens

/-- How many levels of nesting an operand takes below the expression that it is read with. -/
def operandReach (level : Nat) (e : Expr) : Nat :=
  e.reach + (e.needsParens level).toNat

/-- How tightly an expression holds together: the level of the grammar that it is a phrase of. -/
def tightness : Expr → Nat
  | .binary op _ _ => op.precedence.level
  | .unary .. => 7
  | _ => 8

theorem needsParens_eq_false_iff {e : Expr} {level : Nat} (high : level ≤ 7) :
    e.needsParens level = false ↔ level ≤ e.tightness := by
  cases e with
  | binary op left right => simp [needsParens, tightness]
  | unary op operand => exact ⟨fun _ => high, fun _ => rfl⟩
  | _ => exact ⟨fun _ => Nat.le_succ_of_le high, fun _ => rfl⟩

end Expr

namespace Parser

open Grammar Reckon.Expr

/-! ## Readings that nesting cuts off -/

section Limited

variable {α β : Type} {granted granted' : Bool} {r r' : Except Stop α}

/-- A reading comes to `r'` if the nesting that it takes is granted, and stops at it otherwise. -/
def Limited (granted : Bool) (r r' : Except Stop α) : Prop :=
  if granted then r = r' else ∃ left, r = .error (.nestedTooDeeply, left)

theorem Limited.of_eq (h : r = r') : Limited true r r' := h

theorem Limited.trans {s : Except Stop α} (h : Limited granted r r') (h' : Limited granted' r' s) :
    Limited (granted && granted') r s := by
  cases granted with
  | true =>
    have h : r = r' := h
    rw [h]
    exact h'
  | false => exact h

theorem Limited.bind {a : α} (f : α → Except Stop β) (h : Limited granted r (.ok a)) :
    Limited granted (r.bind f) (f a) := by
  cases granted with
  | true =>
    have h : r = .ok a := h
    rw [h]
    rfl
  | false =>
    obtain ⟨left, h⟩ : ∃ left, r = .error (.nestedTooDeeply, left) := h
    rw [h]
    exact ⟨left, rfl⟩

theorem Limited.map {a : α} (f : α → β) (h : Limited granted r (.ok a)) :
    Limited granted (r.map f) (.ok (f a)) := by
  cases granted with
  | true =>
    have h : r = .ok a := h
    rw [h]
    rfl
  | false =>
    obtain ⟨left, h⟩ : ∃ left, r = .error (.nestedTooDeeply, left) := h
    rw [h]
    exact ⟨left, rfl⟩

/-- Entering a level takes one more than what is read there. -/
theorem Limited.descend {allowance : Allowance} {level n : Nat} {ts : List Token}
    {r' : Except Stop (Expr × List Token)}
    (h : ∀ inner, allowance.descend = some inner →
      Limited (inner.grants n) (readPhrase allowance level ts) r') :
    Limited (allowance.grants (n + 1)) (readPhrase allowance level ts) r' := by
  rw [Allowance.grants_succ]
  cases hd : allowance.descend with
  | none =>
    refine ⟨ts, ?_⟩
    rw [readPhrase_eq, hd]
  | some inner => exact h inner hd

end Limited

/-! ## Reading back, node by node -/

/-- The parser reads the expression back from its tokens, in front of anything that binds no tighter than
it holds together, and then goes on from there. -/
structure ReadsBack (e : Expr) : Prop where
  tight : 1 ≤ e.tightness
  opens : ∃ t us, e.tokens = t :: us ∧ opens t = true
  reads {allowance inner : Allowance} {level : Nat} (rest : List Token)
    (hd : allowance.descend = some inner) (low : 1 ≤ level) (high : level ≤ 7)
    (hle : level ≤ e.tightness) (hhead : headLevel rest ≤ e.tightness) :
    Limited (inner.grants e.reach) (readPhrase allowance level (e.tokens ++ rest))
      (readChain inner level e rest)

/-- What an operand reads as is where reading goes on from. -/
theorem limited_readPhrase {allowance inner : Allowance} {level : Nat} {granted : Bool} {e : Expr}
    {ts rest : List Token} (hd : allowance.descend = some inner)
    (h : Limited granted (readOperand inner ts) (.ok (e, rest))) :
    Limited granted (readPhrase allowance level ts) (readChain inner level e rest) := by
  rw [readPhrase_eq, hd]
  exact h.bind _

section ReadsBack

variable {e : Expr} {allowance inner : Allowance} {level tight : Nat} {rest : List Token}

/-- In front of something that binds too loosely for it the expression is read as a whole. -/
theorem ReadsBack.whole (h : ReadsBack e) (low : 1 ≤ level) (high : level ≤ 7)
    (hle : level ≤ e.tightness) (hhead : headLevel rest < level) :
    Limited (allowance.grants (e.reach + 1)) (readPhrase allowance level (e.tokens ++ rest))
      (.ok (e, rest)) := by
  refine Limited.descend fun inner hd => ?_
  have hread := h.reads rest hd low high hle (Nat.le_trans (Nat.le_of_lt hhead) hle)
  rwa [readChain_stop _ _ hhead] at hread

/-! ### Operands -/

/-- An operand is read back like the expression, in parentheses or not. -/
theorem ReadsBack.operand (h : ReadsBack e) (hd : allowance.descend = some inner) (low : 1 ≤ level)
    (hle : level ≤ tight) (high : tight ≤ 7) (hhead : headLevel rest ≤ tight) :
    Limited (inner.grants (e.operandReach tight))
      (readPhrase allowance level (e.operandTokens tight ++ rest)) (readChain inner level e rest) := by
  unfold operandReach operandTokens
  cases hparens : e.needsParens tight with
  | false =>
    have hle' := (needsParens_eq_false_iff high).mp hparens
    exact h.reads rest hd low (Nat.le_trans hle high) (Nat.le_trans hle hle')
      (Nat.le_trans hhead hle')
  | true =>
    have hwhole : Limited (inner.grants (e.reach + 1))
        (readPhrase inner 1 (e.tokens ++ .parenClose :: rest)) (.ok (e, .parenClose :: rest)) :=
      h.whole (Nat.le_refl 1) (by decide) h.tight Nat.zero_lt_one
    have hgroup : Limited (inner.grants (e.reach + 1))
        (readOperand inner (.parenOpen :: (e.tokens ++ .parenClose :: rest))) (.ok (e, rest)) := by
      rw [readOperand_parenOpen]
      exact hwhole.bind _
    have hts : enclose true e.tokens ++ rest = .parenOpen :: (e.tokens ++ .parenClose :: rest) := by
      simp [enclose]
    rw [hts]
    exact limited_readPhrase hd hgroup

theorem ReadsBack.operand_whole (h : ReadsBack e) (low : 1 ≤ level) (high : level ≤ 7)
    (hhead : headLevel rest < level) :
    Limited (allowance.grants (e.operandReach level + 1))
      (readPhrase allowance level (e.operandTokens level ++ rest)) (.ok (e, rest)) := by
  refine Limited.descend fun inner hd => ?_
  have hread := h.operand hd low (Nat.le_refl level) high (Nat.le_of_lt hhead)
  rwa [readChain_stop _ _ hhead] at hread

theorem ReadsBack.operand_opens (h : ReadsBack e) (level : Nat) :
    ∃ t us, e.operandTokens level = t :: us ∧ Grammar.opens t = true := by
  unfold operandTokens
  cases e.needsParens level with
  | false => exact h.opens
  | true => exact ⟨.parenOpen, _, rfl, rfl⟩

/-! ### Nodes without a list -/

theorem readsBack_literal (value : Value) : ReadsBack (.literal value) where
  tight := Nat.succ_le_succ (Nat.zero_le 7)
  opens := ⟨_, _, rfl, rfl⟩
  reads {_ inner level} rest hd _ _ _ _ := by
    show Limited (inner.grants 0) (readPhrase _ level (.literal value :: rest)) _
    rw [Allowance.grants_zero]
    exact limited_readPhrase hd (.of_eq (readOperand_literal inner value rest))

theorem readsBack_variable (name : String) : ReadsBack (.variable name) where
  tight := Nat.succ_le_succ (Nat.zero_le 7)
  opens := ⟨_, _, rfl, rfl⟩
  reads {_ inner level} rest hd _ _ _ _ := by
    show Limited (inner.grants 0) (readPhrase _ level (.identifier name :: rest)) _
    rw [Allowance.grants_zero]
    exact limited_readPhrase hd (.of_eq (readOperand_identifier inner name rest))

theorem ReadsBack.unary {op : Operator} (hop : op ∈ leading) (h : ReadsBack e) :
    ReadsBack (.unary op e) where
  tight := Nat.succ_le_succ (Nat.zero_le 6)
  opens := ⟨_, _, rfl, decide_eq_true hop⟩
  reads {_ inner level} rest hd _ _ _ hhead := by
    -- nothing binds at level 7, so what follows ends the operand
    have hhead : headLevel rest < 7 := Nat.lt_of_le_of_ne hhead (headLevel_ne_seven rest)
    have hoperand : Limited (inner.grants (e.operandReach 7 + 1))
        (readPhrase inner 7 (e.operandTokens 7 ++ rest)) (.ok (e, rest)) :=
      h.operand_whole (by decide) (by decide) hhead
    have hunary : Limited (inner.grants (e.operandReach 7 + 1))
        (readOperand inner (.operator op :: (e.operandTokens 7 ++ rest))) (.ok (.unary op e, rest)) := by
      rw [readOperand_leading inner hop]
      exact hoperand.map _
    exact limited_readPhrase hd hunary

theorem ReadsBack.binary {op : Operator} {left right : Expr} (hop : 1 ≤ op.precedence.level)
    (hleft : ReadsBack left) (hright : ReadsBack right) : ReadsBack (.binary op left right) where
  tight := hop
  opens := by
    obtain ⟨t, us, hts, ht⟩ := hleft.operand_opens op.precedence.level
    refine ⟨t, us ++ .operator op :: right.operandTokens (op.precedence.level + 1), ?_, ht⟩
    rw [← List.cons_append, ← hts]
    rfl
  reads {allowance inner level} rest hd low _ hle hhead := by
    have hle : level ≤ op.precedence.level := hle
    have hhead : headLevel rest ≤ op.precedence.level := hhead
    have hlevel := op.level_le
    -- the left operand is read on the level of the operation, the right one a level further down
    have hfirst : Limited (inner.grants (left.operandReach op.precedence.level))
        (readPhrase allowance level (left.operandTokens op.precedence.level ++
          .operator op :: (right.operandTokens (op.precedence.level + 1) ++ rest)))
        (readChain inner level left
          (.operator op :: (right.operandTokens (op.precedence.level + 1) ++ rest))) :=
      hleft.operand hd low hle (by omega) (Nat.le_refl _)
    have hsecond : Limited (inner.grants (right.operandReach (op.precedence.level + 1) + 1))
        (readPhrase inner (op.precedence.level + 1)
          (right.operandTokens (op.precedence.level + 1) ++ rest)) (.ok (right, rest)) :=
      hright.operand_whole (by omega) (by omega) (by omega)
    have hchain : Limited (inner.grants (right.operandReach (op.precedence.level + 1) + 1))
        (readChain inner level left
          (.operator op :: (right.operandTokens (op.precedence.level + 1) ++ rest)))
        (readChain inner level (.binary op left right) rest) := by
      rw [readChain_operator inner left hle]
      exact hsecond.bind _
    have hbinary := hfirst.trans hchain
    rw [← Allowance.grants_max] at hbinary
    have hts : (Expr.binary op left right).tokens ++ rest =
        left.operandTokens op.precedence.level ++
          .operator op :: (right.operandTokens (op.precedence.level + 1) ++ rest) := by
      simp [tokens, operandTokens]
    rw [hts]
    exact hbinary

/-! ### Lists, and nodes with one -/

variable {enclosure : Enclosure} {es : List Expr}

theorem headLevel_tokensMore (enclosure : Enclosure) (es : List Expr) (rest : List Token) :
    headLevel (tokensMore es ++ enclosure.mark :: rest) = 0 := by
  cases es with
  | nil => exact headLevel_mark enclosure rest
  | cons e es => rfl

/-- An expression and what follows it in a list. -/
theorem limited_series (he : ReadsBack e)
    (hmore : Limited (allowance.grants (reachAll es))
      (readMore allowance enclosure (tokensMore es ++ enclosure.mark :: rest)) (.ok (es, rest))) :
    Limited (allowance.grants (reachAll (e :: es)))
      ((readPhrase allowance 1 (e.tokens ++ (tokensMore es ++ enclosure.mark :: rest))).bind
        fun (e, rest) => (readMore allowance enclosure rest).map fun (es, after) => (e :: es, after))
      (.ok (e :: es, rest)) := by
  have hhead : headLevel (tokensMore es ++ enclosure.mark :: rest) < 1 := by
    rw [headLevel_tokensMore]
    exact Nat.zero_lt_one
  have hfirst : Limited (allowance.grants (e.reach + 1))
      (readPhrase allowance 1 (e.tokens ++ (tokensMore es ++ enclosure.mark :: rest))) (.ok (e, _)) :=
    he.whole (Nat.le_refl 1) (by decide) he.tight hhead
  unfold reachAll
  rw [Allowance.grants_max]
  exact (hfirst.bind _).trans (hmore.map _)

theorem limited_readMore (h : ∀ e ∈ es, ReadsBack e) :
    Limited (allowance.grants (reachAll es))
      (readMore allowance enclosure (tokensMore es ++ enclosure.mark :: rest)) (.ok (es, rest)) := by
  induction es with
  | nil =>
    show Limited (allowance.grants 0) (readMore allowance enclosure (enclosure.mark :: rest)) _
    rw [Allowance.grants_zero]
    exact .of_eq (readMore_mark allowance enclosure rest)
  | cons e es ih =>
    have hts : tokensMore (e :: es) ++ enclosure.mark :: rest =
        .comma :: (e.tokens ++ (tokensMore es ++ enclosure.mark :: rest)) := by
      simp [tokensMore]
    rw [hts, readMore_comma]
    exact limited_series (h e List.mem_cons_self) (ih fun x hx => h x (List.mem_cons_of_mem e hx))

theorem limited_readItems (h : ∀ e ∈ es, ReadsBack e) :
    Limited (allowance.grants (reachAll es))
      (readItems allowance enclosure (tokensAll es ++ enclosure.mark :: rest)) (.ok (es, rest)) := by
  cases es with
  | nil =>
    show Limited (allowance.grants 0) (readItems allowance enclosure (enclosure.mark :: rest)) _
    rw [Allowance.grants_zero]
    exact .of_eq (readItems_mark allowance enclosure rest)
  | cons e es =>
    have he := h e List.mem_cons_self
    have hts : tokensAll (e :: es) ++ enclosure.mark :: rest =
        e.tokens ++ (tokensMore es ++ enclosure.mark :: rest) := by
      simp [tokensAll]
    have hcloses :
        ¬ closes enclosure (e.tokens ++ (tokensMore es ++ enclosure.mark :: rest)) = true := by
      obtain ⟨t, us, htokens, hopens⟩ := he.opens
      rw [htokens]
      intro hclosed
      -- no closing mark can start an expression
      rw [Enclosure.closedBy_iff.mp hclosed] at hopens
      cases enclosure <;> cases hopens
    rw [hts, readItems_eq, if_neg hcloses]
    exact limited_series he (limited_readMore fun x hx => h x (List.mem_cons_of_mem e hx))

theorem readsBack_array (h : ∀ e ∈ es, ReadsBack e) : ReadsBack (.array es) where
  tight := Nat.succ_le_succ (Nat.zero_le 7)
  opens := ⟨_, _, rfl, rfl⟩
  reads {_ inner level} rest hd _ _ _ _ := by
    have hitems : Limited (inner.grants (reachAll es))
        (readItems inner .array (tokensAll es ++ .bracketClose :: rest)) (.ok (es, rest)) :=
      limited_readItems h
    have harray : Limited (inner.grants (reachAll es))
        (readOperand inner (.bracketOpen :: (tokensAll es ++ .bracketClose :: rest)))
        (.ok (.array es, rest)) := by
      rw [readOperand_bracketOpen]
      exact hitems.map _
    have hts : (Expr.array es).tokens ++ rest =
        .bracketOpen :: (tokensAll es ++ .bracketClose :: rest) := by
      simp [tokens]
    rw [hts]
    exact limited_readPhrase hd harray

theorem readsBack_call {name : String} (h : ∀ e ∈ es, ReadsBack e) : ReadsBack (.call name es) where
  tight := Nat.succ_le_succ (Nat.zero_le 7)
  opens := ⟨_, _, rfl, rfl⟩
  reads {allowance inner level} rest hd low high _ _ := by
    have hle : level ≤ 8 := Nat.le_succ_of_le high
    have hname := (readsBack_variable name).reads (.parenOpen :: (tokensAll es ++ .parenClose :: rest))
      hd low high hle (Nat.le_refl 8)
    have hitems : Limited (inner.grants (reachAll es))
        (readItems inner .arguments (tokensAll es ++ .parenClose :: rest)) (.ok (es, rest)) :=
      limited_readItems h
    have hcall : Limited (inner.grants (reachAll es))
        (readChain inner level (.variable name) (.parenOpen :: (tokensAll es ++ .parenClose :: rest)))
        (readChain inner level (.call name es) rest) := by
      rw [readChain_call inner hle]
      exact hitems.bind _
    have hread := hname.trans hcall
    rw [← Allowance.grants_max, show max (Expr.variable name).reach (reachAll es) = reachAll es from
      Nat.zero_max _] at hread
    have hts : (Expr.call name es).tokens ++ rest =
        (Expr.variable name).tokens ++ (.parenOpen :: (tokensAll es ++ .parenClose :: rest)) := by
      simp [tokens]
    rw [hts]
    exact hread

end ReadsBack

end Parser

/-! ## The expressions that can be written -/

/-- A literal that some token spells: no list, and no text with a quote in it. -/
def Value.Writable : Value → Prop
  | .boolean _ => True
  | .number x => ∃ n : Number.Numeral, n.Plain ∧ x = n.value
  | .string text => ∀ c ∈ text.toList, c ≠ '\''
  | .array _ => False

/-- Expressions of what tokens spell; conditionals are none. -/
inductive Expr.Writable : Expr → Prop where
  | literal {value : Value} (h : value.Writable) : Writable (.literal value)
  | variable {name : String} (h : Token.IsName name) : Writable (.variable name)
  | call {name : String} {params : List Expr} (h : Token.IsName name)
      (hparams : ∀ e ∈ params, Writable e) : Writable (.call name params)
  | unary {op : Operator} {operand : Expr} (hop : op ∈ Grammar.leading) (h : Writable operand) :
      Writable (.unary op operand)
  | binary {op : Operator} {left right : Expr} (hop : op.precedence ≠ .none) (hleft : Writable left)
      (hright : Writable right) : Writable (.binary op left right)
  | array {elements : List Expr} (h : ∀ e ∈ elements, Writable e) : Writable (.array elements)

namespace Expr

theorem Writable.readsBack {e : Expr} (h : e.Writable) : Parser.ReadsBack e := by
  induction h with
  | literal => exact Parser.readsBack_literal _
  | «variable» => exact Parser.readsBack_variable _
  | call _ _ ih => exact Parser.readsBack_call ih
  | unary hop _ ih => exact ih.unary hop
  | @binary op _ _ hop _ _ ihl ihr =>
    refine ihl.binary ?_ ihr
    cases op <;> first | decide | exact absurd rfl hop
  | array _ ih => exact Parser.readsBack_array ih

/-! ### Their tokens can be spelled -/

section Spelled

variable {p : Token → Prop} {es : List Expr}

theorem forall_mem_enclose {ts : List Token} (parens : Bool) (hopen : p .parenOpen)
    (hclose : p .parenClose) (h : ∀ t ∈ ts, p t) : ∀ t ∈ enclose parens ts, p t := by
  cases parens with
  | false => exact h
  | true =>
    have hinner : ∀ t ∈ Token.parenOpen :: ts, p t := List.forall_mem_cons.mpr ⟨hopen, h⟩
    have henclosed : ∀ t ∈ Token.parenOpen :: ts ++ [.parenClose], p t :=
      List.forall_mem_append.mpr ⟨hinner, List.forall_mem_singleton.mpr hclose⟩
    exact henclosed

theorem forall_mem_tokensMore (hcomma : p .comma) (h : ∀ e ∈ es, ∀ t ∈ e.tokens, p t) :
    ∀ t ∈ tokensMore es, p t := by
  induction es with
  | nil => nofun
  | cons e es ih =>
    rw [List.forall_mem_cons] at h
    exact List.forall_mem_append.mpr ⟨List.forall_mem_cons.mpr ⟨hcomma, h.1⟩, ih h.2⟩

theorem forall_mem_tokensAll (hcomma : p .comma) (h : ∀ e ∈ es, ∀ t ∈ e.tokens, p t) :
    ∀ t ∈ tokensAll es, p t := by
  cases es with
  | nil => nofun
  | cons e es =>
    rw [List.forall_mem_cons] at h
    exact List.forall_mem_append.mpr ⟨h.1, forall_mem_tokensMore hcomma h.2⟩

end Spelled

theorem Writable.exists_spelled {e : Expr} (h : e.Writable) :
    ∀ t ∈ e.tokens, ∃ lexeme, t.Spelled lexeme := by
  have hmark : ∀ t ∈ Token.marks, ∃ lexeme, t.Spelled lexeme := fun t h => ⟨_, .mark h⟩
  have hopen := hmark .parenOpen (by simp [Token.marks])
  have hclose := hmark .parenClose (by simp [Token.marks])
  have hcomma := hmark .comma (by simp [Token.marks])
  induction h with
  | @literal value h =>
    refine List.forall_mem_singleton.mpr ?_
    cases value with
    | boolean b => cases b <;> exact Token.exists_spelled_keyword (by simp [Token.keywords])
    | number x =>
      obtain ⟨n, hn, rfl⟩ := h
      exact ⟨_, .number hn⟩
    | string text => exact ⟨_, .string h⟩
    | array => cases h
  | «variable» h => exact List.forall_mem_singleton.mpr ⟨_, .name h⟩
  | call h _ ih =>
    refine List.forall_mem_append.mpr ⟨List.forall_mem_cons.mpr ⟨⟨_, .name h⟩, ?_⟩,
      List.forall_mem_singleton.mpr hclose⟩
    exact List.forall_mem_cons.mpr ⟨hopen, forall_mem_tokensAll hcomma ih⟩
  | @unary op operand hop _ ih =>
    have hop : op ≠ .conditional := by
      rintro rfl
      exact absurd hop (by decide)
    exact List.forall_mem_cons.mpr ⟨Token.exists_spelled_operator hop,
      forall_mem_enclose _ hopen hclose ih⟩
  | @binary op left right hop _ _ ihl ihr =>
    have hop : op ≠ .conditional := by
      rintro rfl
      exact absurd rfl hop
    exact List.forall_mem_append.mpr ⟨forall_mem_enclose _ hopen hclose ihl,
      List.forall_mem_cons.mpr ⟨Token.exists_spelled_operator hop,
        forall_mem_enclose _ hopen hclose ihr⟩⟩
  | array _ ih =>
    have hbracket := hmark .bracketOpen (by simp [Token.marks])
    have hbracket' := hmark .bracketClose (by simp [Token.marks])
    exact List.forall_mem_append.mpr ⟨List.forall_mem_cons.mpr ⟨hbracket,
      forall_mem_tokensAll hcomma ih⟩, List.forall_mem_singleton.mpr hbracket'⟩

end Expr

/-! ## Texts of an expression -/

theorem parseTokens_tokens {e : Expr} (h : e.Writable) (allowance : Allowance) :
    (allowance.grants (e.reach + 1) = true → parseTokens allowance e.tokens = .ok e) ∧
      (allowance.grants (e.reach + 1) = false →
        ∃ consumed, parseTokens allowance e.tokens = .error ⟨.nestedTooDeeply, consumed⟩) := by
  obtain ⟨t, us, htokens, -⟩ := h.readsBack.opens
  have hne : e.tokens ≠ [] := by
    rw [htokens]
    exact List.cons_ne_nil t us
  have hread : Parser.Limited (allowance.grants (e.reach + 1))
      (Parser.readPhrase allowance 1 (e.tokens ++ [])) (.ok (e, [])) :=
    h.readsBack.whole (Nat.le_refl 1) (by decide) h.readsBack.tight Nat.zero_lt_one
  rw [List.append_nil] at hread
  rw [parseTokens_eq allowance hne]
  constructor
  · intro hgranted
    rw [hgranted] at hread
    have hread : Parser.readPhrase allowance 1 e.tokens = .ok (e, []) := hread
    rw [hread]
  · intro hrefused
    rw [hrefused] at hread
    obtain ⟨left, hread⟩ : ∃ left, Parser.readPhrase allowance 1 e.tokens =
      .error (.nestedTooDeeply, left) := hread
    rw [hread]
    exact ⟨_, rfl⟩

theorem compile_of_written {ts : List Token} {text : String} (h : Written ts text) (nesting : Nesting) :
    compile nesting text =
      match parseTokens nesting.parsing ts with
      | .error e => .error (.grammatical e)
      | .ok e => .ok e := by
  have htokens := tokenize_written h
  unfold compile
  generalize tokenize text = tokens at htokens ⊢
  subst htokens
  rfl

/-- A text of an expression is read if the levels that reading enters are granted, and stops being read
otherwise. -/
theorem compile_of_reach {e : Expr} (h : e.Writable) (nesting : Nesting) {text : String}
    (hwritten : Written e.tokens text) :
    (nesting.parsing.grants (e.reach + 1) = true → compile nesting text = .ok e) ∧
      (nesting.parsing.grants (e.reach + 1) = false →
        ∃ consumed, compile nesting text = .error (.grammatical ⟨.nestedTooDeeply, consumed⟩)) := by
  obtain ⟨hgranted, hrefused⟩ := parseTokens_tokens h nesting.parsing
  rw [compile_of_written hwritten]
  constructor
  · intro hgrant
    rw [hgranted hgrant]
  · intro hrefuse
    obtain ⟨consumed, herror⟩ := hrefused hrefuse
    rw [herror]
    exact ⟨consumed, rfl⟩

/-- **Main theorem.** An expression that can be written has texts. Where enough nesting is granted, it is read
back from each of them; and nothing else can come of such a text but that it is nested too deeply. -/
theorem compile_written {e : Expr} (h : e.Writable) :
    (∃ text, Written e.tokens text) ∧
      (∃ levels, ∀ nesting : Nesting, nesting.parsing.grants levels = true →
        ∀ text, Written e.tokens text → compile nesting text = .ok e) ∧
      ∀ nesting text, Written e.tokens text →
        compile nesting text = .ok e ∨
          ∃ consumed, compile nesting text = .error (.grammatical ⟨.nestedTooDeeply, consumed⟩) := by
  refine ⟨?_, ⟨e.reach + 1, ?_⟩, ?_⟩
  · obtain ⟨t, us, htokens, -⟩ := h.readsBack.opens
    refine exists_written ?_ h.exists_spelled
    rw [htokens]
    exact List.cons_ne_nil t us
  · intro nesting hgranted text hwritten
    exact (compile_of_reach h nesting hwritten).1 hgranted
  · intro nesting text hwritten
    obtain ⟨hread, hstopped⟩ := compile_of_reach h nesting hwritten
    cases hgranted : nesting.parsing.grants (e.reach + 1) with
    | true => exact .inl (hread hgranted)
    | false => exact .inr (hstopped hgranted)

/-- `not (x = 1.5)`. -/
def denial : Expr :=
  .unary .not (.binary .equal (.variable "x")
    (.literal (.number (Number.Numeral.value ⟨['1'], ['5', '0'], 0⟩))))

/-- The text keeps the parentheses and the reserved word in some letter case, and no other choice in it
matters. -/
theorem denial_compiled :
    denial.Writable ∧ Written denial.tokens "NoT ( x\t=\n 1.50 )" ∧
      compile Nesting.unbounded "NoT ( x\t=\n 1.50 )" = .ok denial := by
  have hx : Token.IsName "x" := ⟨⟨'x', [], rfl, by decide, rfl⟩, by decide⟩
  have hnumber : (⟨['1'], ['5', '0'], 0⟩ : Number.Numeral).Plain :=
    ⟨by decide, by decide, List.cons_ne_nil _ _, rfl⟩
  have hwritable : denial.Writable :=
    .unary (by decide) (.binary nofun (.variable hx) (.literal ⟨_, hnumber, rfl⟩))
  have hnot : (Token.operator .not).Spelled ['N', 'o', 'T'] := .keyword (by simp [Token.keywords]) rfl
  have hopen : Token.parenOpen.Spelled ['('] := .mark (by simp [Token.marks])
  have hequal : (Token.operator .equal).Spelled ['='] := .mark (by simp [Token.marks])
  have hclose : Token.parenClose.Spelled [')'] := .mark (by simp [Token.marks])
  have hspace : Lexer.Gap " ".toList ∧ " " ≠ "" := by decide
  have htab : Lexer.Gap "\t".toList ∧ "\t" ≠ "" := by decide
  have hline : Lexer.Gap "\n ".toList ∧ "\n " ≠ "" := by decide
  have hwritten : Written denial.tokens "NoT ( x\t=\n 1.50 )" :=
    .cons hnot hspace.1 hspace.2 <| .cons hopen hspace.1 hspace.2 <|
      .cons (.name hx) htab.1 htab.2 <| .cons hequal hline.1 hline.2 <|
      .cons (.number hnumber) hspace.1 hspace.2 (.single hclose)
  obtain ⟨-, ⟨levels, hread⟩, -⟩ := compile_written hwritable
  exact ⟨hwritable, hwritten, hread Nesting.unbounded rfl _ hwritten⟩

/-! ### Too deep for the parser -/

/-- A variable behind so many minus signs. -/
def minuses : Nat → Expr
  | 0 => .variable "x"
  | n + 1 => .unary .minus (minuses n)

/-- The text of as many minus signs and the variable. -/
def minusesText : Nat → String
  | 0 => "x"
  | n + 1 => "-" ++ " " ++ minusesText n

theorem minuses_writable (n : Nat) : (minuses n).Writable := by
  induction n with
  | zero => exact .variable ⟨⟨'x', [], rfl, by decide, rfl⟩, by decide⟩
  | succ n ih => exact .unary (by decide) ih

theorem needsParens_minuses (level n : Nat) : (minuses n).needsParens level = false := by
  cases n <;> rfl

theorem reach_minuses (n : Nat) : (minuses n).reach = n := by
  induction n with
  | zero => rfl
  | succ n ih =>
    unfold minuses Expr.reach
    rw [needsParens_minuses, ih]
    rfl

theorem minuses_written (n : Nat) : Written (minuses n).tokens (minusesText n) := by
  induction n with
  | zero => exact .single (.name ⟨⟨'x', [], rfl, by decide, rfl⟩, by decide⟩)
  | succ n ih =>
    have hminus : (Token.operator .minus).Spelled ['-'] := .mark (by simp [Token.marks])
    have hspace : Lexer.Gap " ".toList ∧ " " ≠ "" := by decide
    unfold minuses Expr.tokens
    rw [needsParens_minuses]
    exact .cons hminus hspace.1 hspace.2 ih

/-- With the nesting of ordinary use no such expression is read back from its text. -/
theorem minuses_too_deep :
    (minuses 360).Writable ∧ Written (minuses 360).tokens (minusesText 360) ∧
      compile Nesting.standard (minusesText 360) ≠ .ok (minuses 360) := by
  refine ⟨minuses_writable 360, minuses_written 360, ?_⟩
  have hrefused : Nesting.standard.parsing.grants ((minuses 360).reach + 1) = false := by
    rw [reach_minuses]
    decide
  obtain ⟨consumed, herror⟩ :=
    (compile_of_reach (minuses_writable 360) Nesting.standard (minuses_written 360)).2 hrefused
  rw [herror]
  nofun

end Reckon
