import Reckon.Pattern.Escape

/-!
# `Pattern.Class` — the members of a class of characters

Between square brackets stand characters, ranges of characters and escapes. A closing bracket that
comes first is a member; so is a hyphen that comes last.
-/

namespace Reckon.Pattern

/-- The member that a glyph of a class stands for; `rest` is what follows. -/
def readMember (named : CharacterNames) (g : Glyph) (rest : List Glyph) :
    Except Stop (ClassItem × Rest rest) :=
  match g with
  | .plain c => .ok (.code c.toNat, .all rest)
  | .escaped c => do
    let (escape, after) ← readClassEscape named c rest
    match escape with
    | .code n => return (.code n, after)
    | .ofKind kind negated => return (.ofKind kind negated, after)
    | _ => fail (.badEscape (escapeText c [])) rest 2
  | .dangling => .error (.defect .danglingBackslash 1)

/-- The range between two members, which must be characters in order. -/
def rangeOf? (first last : ClassItem) : Option ClassItem :=
  match first, last with
  | .code low, .code high => if low ≤ high then some (.range low high) else none
  | _, _ => none

/-- The members of a class up to its closing bracket; `items` are those before, the last first, and
`opening` is the number of characters from the opening bracket on. -/
def readMembers (named : CharacterNames) (opening : Nat) (items : List ClassItem)
    (gs : List Glyph) : Except Stop (List ClassItem × Rest gs) :=
  match gs with
  | [] => .error (.defect .unterminatedClass opening)
  | g :: rest => do
    settled rest
    if g = .plain ']' && !items.isEmpty then return (items.reverse, (Rest.all rest).behind)
    else
      let (item, after) ← readMember named g rest
      match ← skip? '-' after.val with
      | none =>
        let (all, last) ← readMembers named opening (item :: items) after.val
        return (all, (after.within last).behind)
      | some hyphen =>
        match h : hyphen.val with
        | [] => .error (.defect .unterminatedClass opening)
        | g' :: rest' =>
          have fewer : rest'.length < rest.length := by
            have := hyphen.property
            have := after.property
            rw [h] at *
            simp at *
            omega
          settled rest'
          if g' = .plain ']' then
            return ((.code 45 :: item :: items).reverse,
              ⟨rest', by simp; omega⟩)
          else
            let (item', after') ← readMember named g' rest'
            match rangeOf? item item' with
            | none =>
              fail (.badRange (String.ofList g.text) (String.ofList g'.text)) after'.val
                (g.text.length + 1 + g'.text.length)
            | some range =>
              let (all, last) ← readMembers named opening (range :: items) after'.val
              return (all, ⟨last.val, by
                have := last.property
                have := after'.property
                simp
                omega⟩)
termination_by gs.length
decreasing_by
  · have := after.property
    simp
    omega
  · have := after'.property
    simp
    omega

end Reckon.Pattern
