/-!
# `Operator` — the operators of the language and their binding

An operator is known by its symbol. Those that join two operands bind on six levels; a prefix operator
binds tighter than any of them, and a call tighter still.
-/

namespace Reckon

/-- The operators; `conditional` has no token and arises from calls of one function only. -/
inductive Operator where
  | plus | minus | times | divide | div | mod
  | equal | notEqual | greater | greaterEqual | less | lessEqual
  | and | or | xor | not | conditional
deriving Repr, DecidableEq

namespace Operator

/-- The symbol of an operator, in expressions and in documents. -/
def symbol : Operator → String
  | plus => "+"
  | minus => "-"
  | times => "*"
  | divide => "/"
  | div => "div"
  | mod => "mod"
  | equal => "="
  | notEqual => "<>"
  | greater => ">"
  | greaterEqual => ">="
  | less => "<"
  | lessEqual => "<="
  | and => "and"
  | or => "or"
  | xor => "xor"
  | not => "not"
  | conditional => "?:"

/-- All operators. -/
def all : List Operator :=
  [plus, minus, times, divide, div, mod, equal, notEqual, greater, greaterEqual, less, lessEqual,
    and, or, xor, not, conditional]

/-- The operator with a symbol. -/
def ofSymbol? (s : String) : Option Operator :=
  all.find? (·.symbol == s)

end Operator

/-- How tightly tokens bind, loosest first. -/
inductive Precedence where
  | none | or | and | equality | comparison | term | factor | unary | call | primary
deriving Repr, DecidableEq

namespace Precedence

/-- The levels in order. -/
def level : Precedence → Nat
  | none => 0
  | or => 1
  | and => 2
  | equality => 3
  | comparison => 4
  | term => 5
  | factor => 6
  | unary => 7
  | call => 8
  | primary => 9

/-- The next tighter level; the tightest has no other. -/
def next : Precedence → Precedence
  | none => or
  | or => and
  | and => equality
  | equality => comparison
  | comparison => term
  | term => factor
  | factor => unary
  | unary => call
  | call => primary
  | primary => primary

end Precedence

namespace Operator

/-- How tightly an operator joins two operands; `none` for those that do not. -/
def precedence : Operator → Precedence
  | or | xor => .or
  | and => .and
  | equal | notEqual => .equality
  | greater | greaterEqual | less | lessEqual => .comparison
  | plus | minus => .term
  | times | divide | div | mod => .factor
  | not | conditional => .none

end Operator

end Reckon
