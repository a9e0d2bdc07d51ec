import Reckon.Operator
import Reckon.Value.Display

/-!
# `Token.Basic` — the words of an expression

A token is a punctuation mark, an operator, a literal value or an identifier.
-/

namespace Reckon

/-- A token. -/
inductive Token where
  | parenOpen | parenClose | bracketOpen | bracketClose | comma
  | operator (op : Operator)
  | literal (value : Value)
  | identifier (name : String)

namespace Token

/-- The spelling of a mark or operator. -/
def symbol : Token → String
  | parenOpen => "("
  | parenClose => ")"
  | bracketOpen => "["
  | bracketClose => "]"
  | comma => ","
  | operator op => op.symbol
  | literal value => value.display
  | identifier name => name

/-- A short description for messages. -/
def describe : Token → String
  | literal value => "literal " ++ value.display
  | identifier name => "identifier '" ++ name ++ "'"
  | mark => "'" ++ mark.symbol ++ "'"

/-- How tightly a token binds when it follows an operand; `none` when it cannot go on from one. -/
def precedence : Token → Precedence
  | operator op => op.precedence
  | parenOpen => .call
  | _ => .none

/-- The name of an operator's token. -/
def operatorName : Operator → String
  | .plus => "PLUS"
  | .minus => "MINUS"
  | .times => "STAR"
  | .divide => "SLASH"
  | .div => "DIV"
  | .mod => "MOD"
  | .equal => "EQUAL"
  | .notEqual => "NOT_EQUAL"
  | .greater => "GREATER"
  | .greaterEqual => "GREATER_EQUAL"
  | .less => "LESS"
  | .lessEqual => "LESS_EQUAL"
  | .and => "AND"
  | .or => "OR"
  | .xor => "XOR"
  | .not => "NOT"
  | .conditional => "TERNARY_CONDITION"

/-- The name of a token's type. -/
def typeName : Token → String
  | parenOpen => "LPAREN"
  | parenClose => "RPAREN"
  | bracketOpen => "LBRACKET"
  | bracketClose => "RBRACKET"
  | comma => "COMMA"
  | operator op => operatorName op
  | literal _ => "LITERAL"
  | identifier _ => "IDENTIFIER"

/-- A token with its type, for listings. -/
def inspect : Token → String
  | literal value => "Token(LITERAL, " ++ value.inspect ++ ")"
  | identifier name => "Token(IDENTIFIER, " ++ Text.quote name ++ ")"
  | mark => "Token(" ++ mark.typeName ++ ")"

/-- The mark or operator whose type has a name. -/
def ofTypeName? (name : String) : Option Token :=
  ([parenOpen, parenClose, bracketOpen, bracketClose, comma] ++
    (Operator.all.filter (· != .conditional)).map operator).find? (·.typeName == name)

end Token

end Reckon
