/-!
# `Text.Styling` — text without control sequences

Terminals take an escape character, a bracket, digits with semicolons or question marks, and a letter
for a command that sets colours or moves the cursor. Output that no terminal shows is written without
such sequences.
-/

namespace Reckon.Text

/-- A character that may stand between the bracket and the letter of a control sequence. -/
def isControlParameter (c : Char) : Bool :=
  c == ';' || c == '?' || c.isDigit

/-- What follows the control sequence that a text begins with. -/
def afterControl? : List Char → Option (List Char)
  | '\x1b' :: '[' :: rest =>
    match rest.dropWhile isControlParameter with
    | c :: rest => if c.isAlpha then some rest else none
    | [] => none
  | _ => none

/-- A control sequence has characters. -/
theorem afterControl?_length {s rest : List Char} (h : afterControl? s = some rest) :
    rest.length < s.length := by
  unfold afterControl? at h
  split at h
  · rename_i tail
    have := (List.dropWhile_suffix isControlParameter (l := tail)).length_le
    split at h
    · rename_i c after heq
      rw [heq] at this
      split at h
      · cases h
        simp only [List.length_cons] at this ⊢
        omega
      · cases h
    · cases h
  · cases h

/-- A text without control sequences. -/
def withoutControls (s : List Char) : List Char :=
  match s with
  | [] => []
  | c :: rest =>
    match _h : afterControl? (c :: rest) with
    | some after => withoutControls after
    | none => c :: withoutControls rest
termination_by s.length
decreasing_by
  · exact afterControl?_length _h
  · simp

/-- A text as it is written where no terminal shows it. -/
def unstyled (s : String) : String :=
  String.ofList (withoutControls s.toList)

end Reckon.Text
