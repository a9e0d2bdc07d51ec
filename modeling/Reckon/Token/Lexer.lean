import Reckon.Number.Numeral
import Reckon.Text.Alphanumeric
import Reckon.Text.Case
import Reckon.Token.Basic

/-!
# `Token.Lexer` — cutting a text into tokens

`next` looks at the front of a text: it passes over the gap of spaces, tabulators and line ends, and
takes the longest lexeme that the first character allows. `tokenize` does so until the text ends.

  * numbers are digits of any script with a fraction after a point, or a fraction alone; a point
    without a digit after it makes the number invalid
  * strings stand between single quotes and have no escapes
  * words start with a letter or the low line and go on with word characters and hyphens; the
    reserved words are known in any letter case

Positions count characters from the start of the text.
-/

namespace Reckon

/-- Why the lexer stops. -/
inductive LexCause where
  | invalidCharacter (c : Char)
  | invalidNumber (text : String)
  | unterminatedString
  | noTokens
deriving Repr, DecidableEq

/-- The name of the kind of a fault in a text. -/
def LexCause.kindName : LexCause → String
  | .invalidCharacter _ => "invalid_character"
  | .invalidNumber _ => "invalid_number"
  | .unterminatedString => "unterminated_string_literal"
  | .noTokens => "no_valid_tokens"

/-- A fault in a text and the position it is reported at. -/
structure LexError where
  cause : LexCause
  position : Nat
deriving Repr, DecidableEq

namespace LexError

/-- The message of a fault in a text. -/
def message (e : LexError) : String :=
  let what :=
    match e.cause with
    | .invalidCharacter c => s!"Unexpected character '{c}'"
    | .invalidNumber text => s!"Invalid number '{text}'"
    | .unterminatedString => "Unterminated string literal"
    | .noTokens => "No valid tokens"
  s!"{what} at position {e.position}"

end LexError

namespace Lexer

open Text

/-- The characters that separate tokens. -/
def isGap (c : Char) : Bool :=
  c == ' ' || c == '\t' || c == '\r' || c == '\n'

/-- A letter of any script or the low line: what a word may start with. -/
def startsWord (c : Char) : Bool :=
  isWordChar c && !isDecimalDigit c

/-- What a word may go on with. -/
def continuesWord (c : Char) : Bool :=
  isWordChar c || c == '-'

/-- The token of a reserved word, given in lower case. -/
def reserved? (word : String) : Option Token :=
  if word = "true" then some (.literal (.boolean true))
  else if word = "false" then some (.literal (.boolean false))
  else if word = "and" then some (.operator .and)
  else if word = "or" then some (.operator .or)
  else if word = "xor" then some (.operator .xor)
  else if word = "not" then some (.operator .not)
  else if word = "div" then some (.operator .div)
  else if word = "mod" then some (.operator .mod)
  else none

/-- The token that a word stands for. -/
def wordToken (word : String) : Token :=
  (reserved? (lower word)).getD (.identifier word)

/-- The literal that a numeral stands for. -/
def numberToken (whole fraction : List Char) : Token :=
  .literal (.number (Number.Numeral.value ⟨whole, fraction, 0⟩))

/-- The front of a text. -/
inductive Front where
  /-- a token and the text after it -/
  | token (t : Token) (rest : List Char)
  /-- digits with a point that no digit follows, and the text after them -/
  | brokenNumber (text rest : List Char)
  /-- a quote that is never closed -/
  | openString
  /-- a character that starts no token -/
  | stray (c : Char)

/-- A number at the front of a text that starts with a digit or a point. -/
def scanNumber (s : List Char) : Front :=
  let whole := s.takeWhile isDecimalDigit
  let rest := s.dropWhile isDecimalDigit
  match rest with
  | '.' :: more =>
    let fraction := more.takeWhile isDecimalDigit
    if fraction.isEmpty then .brokenNumber (whole ++ ['.']) more
    else .token (numberToken whole fraction) (more.dropWhile isDecimalDigit)
  | _ => .token (numberToken whole []) rest

/-- The text of a string up to its closing quote, and what follows that. -/
def scanString? (s : List Char) : Option (List Char × List Char) :=
  match s.dropWhile (· != '\'') with
  | [] => none
  | _ :: rest => some (s.takeWhile (· != '\''), rest)

/-- The front of a text that starts with `c` and goes on with `rest`. -/
def front (c : Char) (rest : List Char) : Front :=
  match c with
  | '(' => .token .parenOpen rest
  | ')' => .token .parenClose rest
  | '[' => .token .bracketOpen rest
  | ']' => .token .bracketClose rest
  | ',' => .token .comma rest
  | '+' => .token (.operator .plus) rest
  | '-' => .token (.operator .minus) rest
  | '*' => .token (.operator .times) rest
  | '/' => .token (.operator .divide) rest
  | '=' => .token (.operator .equal) rest
  | '>' =>
    match rest with
    | '=' :: rest => .token (.operator .greaterEqual) rest
    | _ => .token (.operator .greater) rest
  | '<' =>
    match rest with
    | '=' :: rest => .token (.operator .lessEqual) rest
    | '>' :: rest => .token (.operator .notEqual) rest
    | _ => .token (.operator .less) rest
  | '\'' =>
    match scanString? rest with
    | some (text, rest) => .token (.literal (.string (String.ofList text))) rest
    | none => .openString
  | c =>
    if isDecimalDigit c || c == '.' then scanNumber (c :: rest)
    else if startsWord c then
      .token (wordToken (String.ofList (c :: rest.takeWhile continuesWord)))
        (rest.dropWhile continuesWord)
    else .stray c

/-- One step of the lexer. -/
inductive Step where
  /-- only a gap was left -/
  | finished
  | token (t : Token) (rest : List Char)
  /-- a fault at the front of `before`; `rest` is what has not been consumed -/
  | fault (cause : LexCause) (before rest : List Char)

/-- Pass over a gap and take the next token. -/
def next (s : List Char) : Step :=
  match s.dropWhile isGap with
  | [] => .finished
  | c :: rest =>
    match front c rest with
    | .token t after => .token t after
    | .brokenNumber text after => .fault (.invalidNumber (String.ofList text)) (c :: rest) after
    | .openString => .fault .unterminatedString (c :: rest) (c :: rest)
    | .stray c => .fault (.invalidCharacter c) (c :: rest) (c :: rest)

theorem length_dropWhile_le (p : Char → Bool) (s : List Char) :
    (s.dropWhile p).length ≤ s.length :=
  (List.dropWhile_suffix p).length_le

/-- A number is not empty. -/
theorem scanNumber_length {c : Char} {s rest : List Char} {t : Token}
    (hc : (isDecimalDigit c || c == '.') = true)
    (h : scanNumber (c :: s) = .token t rest) : rest.length < (c :: s).length := by
  unfold scanNumber at h
  have hle := length_dropWhile_le isDecimalDigit (c :: s)
  have hmore := fun more => length_dropWhile_le isDecimalDigit more
  by_cases hd : isDecimalDigit c = true
  · have hdrop := length_dropWhile_le isDecimalDigit s
    simp only [List.dropWhile_cons, hd, if_true] at h hle
    split at h
    · rename_i more heq
      split at h
      · simp at h
      · obtain ⟨-, rfl⟩ := by simpa using h
        have := hmore more
        rw [heq] at hdrop
        simp at hdrop ⊢
        omega
    · obtain ⟨-, rfl⟩ := by simpa using h
      simp
      omega
  · simp only [List.dropWhile_cons, hd] at h
    have hdot : c = '.' := by simpa [hd] using hc
    subst hdot
    simp only [Bool.false_eq_true, if_false] at h
    split at h
    · simp at h
    · obtain ⟨-, rfl⟩ := by simpa using h
      have := hmore s
      simp
      omega

/-- A string ends before what follows it. -/
theorem scanString?_length {s text rest : List Char} (h : scanString? s = some (text, rest)) :
    rest.length ≤ s.length := by
  unfold scanString? at h
  have := length_dropWhile_le (· != '\'') s
  split at h
  · simp at h
  · rename_i heq
    obtain ⟨-, rfl⟩ := by simpa using h
    rw [heq] at this
    simp at this
    omega

/-- A token is not empty. -/
theorem front_length {c : Char} {s rest : List Char} {t : Token}
    (h : front c s = .token t rest) : rest.length < (c :: s).length := by
  unfold front at h
  split at h
  case h_11 | h_12 => split at h <;> simp at h <;> grind
  case h_13 =>
    split at h
    · rename_i heq
      have := scanString?_length heq
      obtain ⟨-, rfl⟩ := by simpa using h
      simp
      omega
    · simp at h
  case h_14 =>
    split at h
    · exact scanNumber_length (by assumption) h
    · split at h
      · have := length_dropWhile_le continuesWord s
        obtain ⟨-, rfl⟩ := by simpa using h
        simp
        omega
      · simp at h
  all_goals
    obtain ⟨-, rfl⟩ := by simpa using h
    simp

/-- Every token shortens the text. -/
theorem next_length {s rest : List Char} {t : Token} (h : next s = .token t rest) :
    rest.length < s.length := by
  unfold next at h
  have hle := length_dropWhile_le isGap s
  split at h
  · simp at h
  · rename_i c more heq
    rw [heq] at hle
    split at h <;> simp at h
    rename_i after hfront
    have := front_length hfront
    rw [← h.2]
    simp at *
    omega

/-- The tokens of a text; `total` is the length of the text that positions count in. -/
def tokensFrom (total : Nat) (s : List Char) : Except LexError (List Token) :=
  match _h : next s with
  | .finished => .ok []
  | .fault cause before _ => .error ⟨cause, total - before.length⟩
  | .token t rest =>
    match tokensFrom total rest with
    | .ok ts => .ok (t :: ts)
    | .error e => .error e
termination_by s.length
decreasing_by exact next_length _h

end Lexer

/-- The tokens of a text, of which there must be one at least. -/
def tokenize (text : String) : Except LexError (List Token) :=
  match Lexer.tokensFrom text.length text.toList with
  | .ok [] => .error ⟨.noTokens, text.length⟩
  | other => other

end Reckon
