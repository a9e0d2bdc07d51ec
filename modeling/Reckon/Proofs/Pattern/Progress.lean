import Reckon.Pattern.Match

/-!
# `Proofs.Pattern.Progress` — matching moves forward within the text

A node hands spots to its way on. Whatever the node is, none of them lies before the spot that it is run at, and
none beyond the end of the text (`Node.advances`): the only nodes that move are characters and references, which
find in the text what they pass over, and a node that looks around goes back to where it was. So what a match takes
up is a part of the text that starts where it was looked for (`matchAt?_bounds`).

Main statements: `Node.advances`, `matchAt?_bounds`.
-/

namespace Reckon.Pattern

variable {text : Array Char} {onward : Onward} {s t : Spot}

/-- The way on gives the answer `t` at a spot that is not before `s` and within the text. -/
def Reaches (text : Array Char) (s : Spot) (onward : Onward) (t : Spot) : Prop :=
  ∃ u : Spot, s.position ≤ u.position ∧ u.position ≤ text.size ∧ onward u = some t

/-- Every answer of a matcher is one that its way on gives further on. -/
def Advances (text : Array Char) (matcher : Matcher) : Prop :=
  ∀ (onward : Onward) (s t : Spot), s.position ≤ text.size → matcher onward s = some t → Reaches text s onward t

namespace Reaches

theorem here (hs : s.position ≤ text.size) (h : onward s = some t) : Reaches text s onward t :=
  ⟨s, Nat.le_refl _, hs, h⟩

/-- A way on that only hands over to another reaches what the other does. -/
theorem trans {next : Onward} (h : Reaches text s next t)
    (hnext : ∀ u : Spot, u.position ≤ text.size → next u = some t → Reaches text u onward t) :
    Reaches text s onward t := by
  obtain ⟨u, hsu, hu, hanswer⟩ := h
  obtain ⟨v, huv, hv, hfinal⟩ := hnext u hu hanswer
  exact ⟨v, Nat.le_trans hsu huv, hv, hfinal⟩

/-- What is taken alone lies between the spot and the end. -/
theorem bounds (h : Reaches text s some t) : s.position ≤ t.position ∧ t.position ≤ text.size := by
  obtain ⟨u, hsu, hu, hanswer⟩ := h
  cases hanswer
  exact ⟨hsu, hu⟩

end Reaches

/-! ## Repetitions -/

section Repetition

variable {body : Matcher} {least : Nat} {most : Option Nat}

theorem runGreedy_reaches (hbody : Advances text body) (fuel count : Nat) (last : Option Nat)
    (hs : s.position ≤ text.size) (h : runGreedy body least most onward fuel count last s = some t) :
    Reaches text s onward t := by
  induction fuel generalizing count last s with
  | zero => cases h
  | succ fuel ih =>
    rw [runGreedy] at h
    by_cases hmust : count < least
    · rw [if_pos hmust] at h
      exact (hbody _ s t hs h).trans fun u hu => ih _ _ hu
    · rw [if_neg hmust] at h
      by_cases hmay : (allows most count && last != some s.position) = true
      · rw [if_pos hmay, Option.or_eq_some_iff] at h
        rcases h with hmore | ⟨-, hdone⟩
        · exact (hbody _ s t hs hmore).trans fun u hu => ih _ _ hu
        · exact .here hs hdone
      · rw [if_neg hmay] at h
        exact .here hs h

theorem runLazy_reaches (hbody : Advances text body) (fuel count : Nat) (last : Option Nat)
    (hs : s.position ≤ text.size) (h : runLazy body least most onward fuel count last s = some t) :
    Reaches text s onward t := by
  induction fuel generalizing count last s with
  | zero => cases h
  | succ fuel ih =>
    rw [runLazy] at h
    by_cases hmust : count < least
    · rw [if_pos hmust] at h
      exact (hbody _ s t hs h).trans fun u hu => ih _ _ hu
    · rw [if_neg hmust] at h
      cases hdone : onward s with
      | some answer =>
        rw [hdone] at h
        exact .here hs (hdone.trans h)
      | none =>
        rw [hdone] at h
        by_cases hmay : (allows most count && last != some s.position) = true
        · simp only [if_pos hmay] at h
          exact (hbody _ s t hs h).trans fun u hu => ih _ _ hu
        · simp only [if_neg hmay] at h
          cases h

theorem runPossessive_reaches (hbody : Advances text body) (fuel count : Nat) (last : Option Nat)
    (hs : s.position ≤ text.size) (h : runPossessive body least most fuel count last s = some t) :
    Reaches text s some t := by
  induction fuel generalizing count last s with
  | zero => cases h
  | succ fuel ih =>
    -- what comes of one more iteration, wherever it came from
    have hnext : ∀ (next : Spot) (last : Option Nat), body some s = some next →
        runPossessive body least most fuel (count + 1) last next = some t → Reaches text s some t := by
      intro next last hone hrest
      obtain ⟨hle, hle'⟩ := (hbody some s next hs hone).bounds
      obtain ⟨hfrom, hto⟩ := (ih _ _ hle' hrest).bounds
      exact ⟨t, Nat.le_trans hle hfrom, hto, rfl⟩
    rw [runPossessive] at h
    by_cases hmust : count < least
    · rw [if_pos hmust] at h
      cases hone : body some s with
      | none =>
        rw [hone] at h
        cases h
      | some next =>
        rw [hone] at h
        exact hnext next _ hone h
    · rw [if_neg hmust] at h
      by_cases hmay : (allows most count && last != some s.position) = true
      · rw [if_pos hmay] at h
        cases hone : body some s with
        | none =>
          rw [hone] at h
          exact .here hs h
        | some next =>
          rw [hone] at h
          exact hnext next _ hone h
      · rw [if_neg hmay] at h
        exact .here hs h

theorem runRepeated_reaches (hbody : Advances text body) (greed : Greed) (hs : s.position ≤ text.size)
    (h : runRepeated text greed least most body onward s = some t) : Reaches text s onward t := by
  cases greed with
  | greedy => exact runGreedy_reaches hbody _ _ _ hs h
  | lazy => exact runLazy_reaches hbody _ _ _ hs h
  | possessive =>
    obtain ⟨u, hrun, hdone⟩ := Option.bind_eq_some_iff.mp h
    obtain ⟨hle, hle'⟩ := (runPossessive_reaches hbody _ _ _ hs hrun).bounds
    exact ⟨u, hle, hle', hdone⟩

end Repetition

/-! ## Nodes -/

/-- What a span holds ends within the text wherever it stands. -/
theorem position_le_of_standsAt {ignoreCase ascii : Bool} {span : Span} {position : Nat}
    (hposition : position ≤ text.size) (h : standsAt text ignoreCase ascii span position = true) :
    position + (span.stop - span.start) ≤ text.size := by
  refine Nat.le_of_not_lt fun hlong => ?_
  have hlast : span.stop - span.start - 1 ∈ List.range (span.stop - span.start) := by
    rw [List.mem_range]
    omega
  have hstands := List.all_eq_true.mp h _ hlast
  have hbeyond : text[position + (span.stop - span.start - 1)]? = none := by
    rw [Array.getElem?_eq_none_iff]
    omega
  rw [hbeyond] at hstands
  split at hstands
  · next hsome => cases hsome
  · cases hstands

/-- **Every node moves forward within the text.** -/
theorem Node.advances (text : Array Char) (node : Node) : Advances text (node.run text) := by
  induction node with
  | nothing =>
    intro onward s t hs h
    exact .here hs h
  | one cls =>
    intro onward s t hs h
    rw [Node.run] at h
    cases hc : text[s.position]? with
    | none =>
      rw [hc] at h
      cases h
    | some c =>
      obtain ⟨hlt, -⟩ := Array.getElem?_eq_some_iff.mp hc
      rw [hc] at h
      obtain ⟨-, hstep⟩ := Option.ite_none_right_eq_some.mp h
      exact ⟨s.step, Nat.le_succ _, hlt, hstep⟩
  | sequence first second ihFirst ihSecond =>
    intro onward s t hs h
    exact (ihFirst _ s t hs h).trans fun u hu => ihSecond _ u t hu
  | choice first second ihFirst ihSecond =>
    intro onward s t hs h
    rcases Option.or_eq_some_iff.mp h with hfirst | ⟨-, hsecond⟩
    · exact ihFirst _ s t hs hfirst
    · exact ihSecond _ s t hs hsecond
  | repeated greed least most body ih =>
    intro onward s t hs h
    exact runRepeated_reaches ih greed hs h
  | group index body ih =>
    intro onward s t hs h
    obtain ⟨u, hle, hle', hanswer⟩ := ih _ s t hs h
    exact ⟨u.capture index s.position, hle, hle', hanswer⟩
  | atomic body ih =>
    intro onward s t hs h
    obtain ⟨u, hrun, hdone⟩ := Option.bind_eq_some_iff.mp h
    obtain ⟨hle, hle'⟩ := (ih some s u hs hrun).bounds
    exact ⟨u, hle, hle', hdone⟩
  | ahead negated body ih =>
    -- here and looking back, the body only has to match: the way on starts from the old position
    intro onward s t hs h
    cases negated with
    | false =>
      obtain ⟨u, -, hdone⟩ := Option.bind_eq_some_iff.mp h
      exact ⟨{ u with position := s.position }, Nat.le_refl _, hs, hdone⟩
    | true =>
      rw [Node.run] at h
      split at h
      · cases h
      · exact .here hs h
  | behind negated width body ih =>
    intro onward s t hs h
    match negated, width with
    | _, none =>
      rw [Node.run] at h
      cases h
    | false, some width =>
      rw [Node.run] at h
      split at h
      · cases h
      · obtain ⟨u, -, hdone⟩ := Option.bind_eq_some_iff.mp h
        exact ⟨{ u with position := s.position }, Nat.le_refl _, hs, hdone⟩
    | true, some width =>
      rw [Node.run] at h
      split at h
      · exact .here hs h
      · split at h
        · cases h
        · exact .here hs h
  | reference index ignoreCase ascii =>
    intro onward s t hs h
    rw [Node.run] at h
    cases hgroup : s.group? index with
    | none =>
      rw [hgroup] at h
      cases h
    | some span =>
      rw [hgroup] at h
      obtain ⟨hstands, hdone⟩ := Option.ite_none_right_eq_some.mp h
      exact ⟨_, Nat.le_add_right _ _, position_le_of_standsAt hs hstands, hdone⟩
  | conditional index present absent ihPresent ihAbsent =>
    intro onward s t hs h
    rw [Node.run] at h
    split at h
    · exact ihPresent _ s t hs h
    · exact ihAbsent _ s t hs h
  | anchor a =>
    intro onward s t hs h
    obtain ⟨-, hdone⟩ := Option.ite_none_right_eq_some.mp h
    exact .here hs hdone

/-! ## Matches -/

/-- **A match takes up a part of the text from where it was looked for, and some of it if it must move.** -/
theorem matchAt?_bounds {p : Pattern} {start : Nat} {moving : Bool} {m : PatternMatch} (hstart : start ≤ text.size)
    (h : matchAt? p text start moving = some m) :
    m.whole.start = start ∧ start ≤ m.whole.stop ∧ m.whole.stop ≤ text.size ∧
      (moving = true → m.whole.stop ≠ start) := by
  obtain ⟨t, hrun, rfl⟩ := Option.map_eq_some_iff.mp h
  obtain ⟨u, hle, hle', hanswer⟩ := p.root.advances text _ ⟨start, []⟩ t hstart hrun
  obtain ⟨hmoved, hsame⟩ := Option.ite_none_left_eq_some.mp hanswer
  cases hsame
  refine ⟨rfl, hle, hle', ?_⟩
  rintro rfl hstop
  apply hmoved
  simpa using hstop

end Reckon.Pattern
