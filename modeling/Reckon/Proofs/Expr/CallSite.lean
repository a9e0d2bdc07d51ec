import Reckon.Expr.Basic

/-!
# `Proofs.Expr.CallSite` — where the calls of an expression stand

A `Spot` is a place in an expression: which child to go into at each step on the way down. `callSites` lists
the calls in post-order, those in the children from left to right and then the expression itself, each with
its place.

Two statements say that this is the list it should be: it has exactly the calls that stand somewhere in the
expression (`mem_callSites_iff`), and each comes before those after it in post-order, which is an order of
places and knows nothing of the list (`callSites_ordered`).
-/

namespace Reckon

/-- A place in an expression: the numbers of the children to go into, one inside the other. -/
abbrev Spot := List Nat

/-- The first place comes before the second in post-order: what is further left comes first, and what is
inside a child comes before the whole. -/
def Spot.Before : Spot → Spot → Prop
  | [], _ => False
  | _ :: _, [] => True
  | i :: p, j :: q => i < j ∨ i = j ∧ Before p q

theorem Spot.not_before_self (p : Spot) : ¬ Before p p := by
  induction p with
  | nil => exact id
  | cons i p ih =>
    rintro (hless | ⟨-, hbefore⟩)
    · exact Nat.lt_irrefl i hless
    · exact ih hbefore

/-- A call in an expression: its place, the name it is written with, and the number of its parameters. -/
structure CallSite where
  spot : Spot
  name : String
  count : Nat

namespace CallSite

/-- The call as seen from an expression whose child of that number it is in. -/
def under (i : Nat) (site : CallSite) : CallSite :=
  { site with spot := i :: site.spot }

/-- The first call comes before the second in post-order. -/
def Before (s t : CallSite) : Prop :=
  Spot.Before s.spot t.spot

theorem Before.under {s t : CallSite} (h : s.Before t) (i : Nat) :
    (s.under i).Before (t.under i) :=
  Or.inr ⟨rfl, h⟩

end CallSite

namespace Expr

/-- The children of an expression, from left to right. -/
def children : Expr → List Expr
  | literal _ | .variable _ => []
  | call _ params => params
  | unary _ operand => [operand]
  | binary _ left right => [left, right]
  | array elements => elements
  | ternary _ condition thenBranch elseBranch => [condition, thenBranch, elseBranch]

theorem sizeOf_child {e child : Expr} (h : child ∈ e.children) : sizeOf child < sizeOf e := by
  cases e with
  | literal _ | «variable» _ => cases h
  | call name params =>
    have hlt : sizeOf child < sizeOf params := List.sizeOf_lt_of_mem h
    simp only [call.sizeOf_spec]
    omega
  | array elements =>
    have hlt : sizeOf child < sizeOf elements := List.sizeOf_lt_of_mem h
    simp only [array.sizeOf_spec]
    omega
  | unary op operand =>
    simp only [children, List.mem_singleton] at h
    subst h
    simp only [unary.sizeOf_spec]
    omega
  | binary op left right =>
    simp only [children, List.mem_cons, List.not_mem_nil, or_false] at h
    rcases h with rfl | rfl <;> simp only [binary.sizeOf_spec] <;> omega
  | ternary op condition thenBranch elseBranch =>
    simp only [children, List.mem_cons, List.not_mem_nil, or_false] at h
    rcases h with rfl | rfl | rfl <;> simp only [ternary.sizeOf_spec] <;> omega

/-- Induction over expressions: what holds of the children holds of the whole. -/
theorem children_induction {motive : Expr → Prop}
    (h : ∀ e, (∀ child ∈ e.children, motive child) → motive e) (e : Expr) : motive e := by
  refine h e ?_
  intro child hchild
  exact children_induction h child
termination_by sizeOf e
decreasing_by exact sizeOf_child hchild

/-- What stands at a place. -/
def at? : Expr → Spot → Option Expr
  | e, [] => some e
  | e, i :: spot => e.children[i]?.bind fun child => child.at? spot

mutual

/-- The calls of an expression in post-order. -/
def callSites : Expr → List CallSite
  | literal _ | .variable _ => []
  | call name params => callSitesFrom 0 params ++ [⟨[], name, params.length⟩]
  | unary _ operand => operand.callSites.map (.under 0)
  | binary _ left right => left.callSites.map (.under 0) ++ right.callSites.map (.under 1)
  | array elements => callSitesFrom 0 elements
  | ternary _ condition thenBranch elseBranch =>
    condition.callSites.map (.under 0) ++
      (thenBranch.callSites.map (.under 1) ++ elseBranch.callSites.map (.under 2))

/-- The calls of children that are numbered from `i` on, from left to right. -/
def callSitesFrom (i : Nat) : List Expr → List CallSite
  | [] => []
  | e :: rest => e.callSites.map (.under i) ++ callSitesFrom (i + 1) rest

end

/-- The expression itself, if it is a call. -/
def ownSite : Expr → List CallSite
  | call name params => [⟨[], name, params.length⟩]
  | _ => []

/-- The children come first, then the expression itself. -/
theorem callSites_eq (e : Expr) : e.callSites = callSitesFrom 0 e.children ++ e.ownSite := by
  cases e <;> simp [callSites, callSitesFrom, children, ownSite]

theorem mem_callSitesFrom_iff {i : Nat} {es : List Expr} {site : CallSite} :
    site ∈ callSitesFrom i es ↔
      ∃ (k : Nat) (e : Expr) (inner : CallSite),
        es[k]? = some e ∧ inner ∈ e.callSites ∧ site = inner.under (i + k) := by
  induction es generalizing i with
  | nil => simp [callSitesFrom]
  | cons e rest ih =>
    rw [callSitesFrom, List.mem_append, List.mem_map, ih]
    constructor
    · rintro (⟨inner, hinner, rfl⟩ | ⟨k, e', inner, he', hinner, rfl⟩)
      · exact ⟨0, e, inner, rfl, hinner, rfl⟩
      · refine ⟨k + 1, e', inner, he', hinner, ?_⟩
        rw [Nat.add_right_comm, Nat.add_assoc]
    · rintro ⟨k, e', inner, he', hinner, rfl⟩
      cases k with
      | zero =>
        cases he'
        exact Or.inl ⟨inner, hinner, rfl⟩
      | succ k =>
        refine Or.inr ⟨k, e', inner, he', hinner, ?_⟩
        rw [Nat.add_right_comm, Nat.add_assoc]

/-- The places in numbered children start with the number of a child. -/
theorem spot_of_mem_callSitesFrom {i : Nat} {es : List Expr} {site : CallSite}
    (h : site ∈ callSitesFrom i es) : ∃ j spot, i ≤ j ∧ site.spot = j :: spot := by
  obtain ⟨k, e, inner, -, -, rfl⟩ := mem_callSitesFrom_iff.mp h
  exact ⟨i + k, inner.spot, Nat.le_add_right i k, rfl⟩

theorem mem_ownSite_iff {e : Expr} {site : CallSite} :
    site ∈ e.ownSite ↔
      site.spot = [] ∧ ∃ params, e = call site.name params ∧ params.length = site.count := by
  obtain ⟨spot, name, count⟩ := site
  cases e with
  | call name' params =>
    simp only [ownSite, List.mem_singleton, CallSite.mk.injEq, call.injEq]
    constructor
    · rintro ⟨rfl, rfl, rfl⟩
      exact ⟨rfl, params, ⟨rfl, rfl⟩, rfl⟩
    · rintro ⟨rfl, params', ⟨rfl, rfl⟩, rfl⟩
      exact ⟨rfl, rfl, rfl⟩
  | _ => simp [ownSite]

/-- **The list has exactly the calls of the expression**, each with its place. -/
theorem mem_callSites_iff {e : Expr} {site : CallSite} :
    site ∈ e.callSites ↔
      ∃ params, e.at? site.spot = some (call site.name params) ∧ params.length = site.count := by
  obtain ⟨spot, name, count⟩ := site
  induction spot generalizing e with
  | nil =>
    rw [callSites_eq, List.mem_append, mem_ownSite_iff]
    constructor
    · rintro (h | ⟨-, params, rfl, hcount⟩)
      · obtain ⟨j, spot, -, hspot⟩ := spot_of_mem_callSitesFrom h
        cases hspot
      · exact ⟨params, rfl, hcount⟩
    · rintro ⟨params, hat, hcount⟩
      cases hat
      exact Or.inr ⟨rfl, params, rfl, hcount⟩
  | cons i spot ih =>
    rw [callSites_eq, List.mem_append, mem_ownSite_iff, mem_callSitesFrom_iff]
    constructor
    · rintro (⟨k, child, inner, hchild, hinner, hsite⟩ | ⟨hspot, -⟩)
      · obtain ⟨spot', name', count'⟩ := inner
        simp only [CallSite.under, CallSite.mk.injEq, List.cons.injEq, Nat.zero_add] at hsite
        obtain ⟨⟨rfl, rfl⟩, rfl, rfl⟩ := hsite
        obtain ⟨params, hat, hcount⟩ := ih.mp hinner
        refine ⟨params, ?_, hcount⟩
        rw [at?, hchild]
        exact hat
      · cases hspot
    · rintro ⟨params, hat, hcount⟩
      rw [at?] at hat
      obtain ⟨child, hchild, hat⟩ := Option.bind_eq_some_iff.mp hat
      refine Or.inl ⟨i, child, ⟨spot, name, count⟩, hchild, ih.mpr ⟨params, hat, hcount⟩, ?_⟩
      rw [Nat.zero_add]
      rfl

/-- What is in a child comes before what is in the children after it. -/
theorem before_of_mem {i : Nat} {inner site : CallSite} {rest : List Expr}
    (h : site ∈ callSitesFrom (i + 1) rest) : (inner.under i).Before site := by
  obtain ⟨j, spot, hj, hspot⟩ := spot_of_mem_callSitesFrom h
  show Spot.Before (i :: inner.spot) site.spot
  rw [hspot]
  exact Or.inl hj

/-- What is in a child comes before the whole. -/
theorem before_ownSite {e : Expr} {i : Nat} {es : List Expr} {s t : CallSite}
    (hs : s ∈ callSitesFrom i es) (ht : t ∈ e.ownSite) : s.Before t := by
  obtain ⟨j, spot, -, hspot⟩ := spot_of_mem_callSitesFrom hs
  obtain ⟨hwhole, -⟩ := mem_ownSite_iff.mp ht
  show Spot.Before s.spot t.spot
  rw [hspot, hwhole]
  trivial

theorem ownSite_ordered (e : Expr) : e.ownSite.Pairwise CallSite.Before := by
  cases e with
  | call name params => exact List.pairwise_singleton _ _
  | _ => exact List.Pairwise.nil

theorem callSitesFrom_ordered {i : Nat} {es : List Expr}
    (h : ∀ e ∈ es, e.callSites.Pairwise CallSite.Before) :
    (callSitesFrom i es).Pairwise CallSite.Before := by
  induction es generalizing i with
  | nil => exact .nil
  | cons e rest ih =>
    obtain ⟨he, hrest⟩ := List.forall_mem_cons.mp h
    rw [callSitesFrom, List.pairwise_append]
    refine ⟨?_, ih hrest, ?_⟩
    · rw [List.pairwise_map]
      exact he.imp fun hbefore => hbefore.under i
    · intro s hs t ht
      obtain ⟨inner, -, rfl⟩ := List.mem_map.mp hs
      exact before_of_mem ht

/-- **The list is in post-order.** -/
theorem callSites_ordered (e : Expr) : e.callSites.Pairwise CallSite.Before := by
  induction e using children_induction with
  | _ e ih =>
    rw [callSites_eq, List.pairwise_append]
    refine ⟨callSitesFrom_ordered ih, ownSite_ordered e, ?_⟩
    intro s hs t ht
    exact before_ownSite hs ht

end Expr

end Reckon
