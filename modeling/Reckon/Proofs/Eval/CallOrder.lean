import Reckon.Proofs.Eval.Following

/-!
# `Proofs.Eval.CallOrder` — calls are carried out in post-order, none twice

`Visits` compares the calls that an evaluation carries out with the calls of the expression in post-order:
they are some of these, in their order. Every step of an evaluation hands it on (`Visits.bind`), so it holds
of the whole (`follow_visits`).

Main statement: `calls_in_order`.
-/

namespace Reckon

namespace Following

variable {α β : Type} {scope : Scope} {w : Following α} {sites sites' : List CallSite}
  {whole whole' : Prop} {past : List (Callable × List Value)}

/-- The calls that are carried out are some of the calls at `sites`, in their order; they are all of them if
`whole` holds and the evaluation has a value. Each calls the function that its name stands for. -/
structure Visits (scope : Scope) (w : Following α) (sites : List CallSite) (whole : Prop) : Prop where
  sublist : ∀ past, ((w.after past).calls.map (·.site)).Sublist sites
  all : whole → ∀ past a, (w.after past).result = .ok a → (w.after past).calls.map (·.site) = sites
  resolved : ∀ past, ∀ call ∈ (w.after past).calls, call.Resolved scope

theorem Visits.still (t : Traced α) (whole : Prop) : Visits scope (still t) [] whole where
  sublist _ := .slnil
  all _ _ _ _ := rfl
  resolved _ _ h := by cases h

/-- A failure is no value, so there is nothing to be carried out before it. -/
theorem Visits.fail (err : EvalError) (sites : List CallSite) (whole : Prop) :
    Visits scope (Following.still (.fail err : Traced α)) sites whole where
  sublist _ := List.nil_sublist _
  all _ _ _ h := by cases h
  resolved _ _ h := by cases h

/-- What is carried out of fewer calls is carried out of more, though not all of these. -/
theorem Visits.among (h : Visits scope w sites whole) (hsites : sites.Sublist sites') :
    Visits scope w sites' False where
  sublist past := (h.sublist past).trans hsites
  all hfalse := hfalse.elim
  resolved := h.resolved

theorem Visits.weaken (h : Visits scope w sites whole) (hwhole : whole' → whole) :
    Visits scope w sites whole' where
  sublist := h.sublist
  all hw := h.all (hwhole hw)
  resolved := h.resolved

/-- What comes second is carried out after what comes first, and not at all if that fails. -/
theorem Visits.bind {next : α → Following β} (h : Visits scope w sites whole)
    (hn : ∀ past a, (w.after past).result = .ok a → Visits scope (next a) sites' whole') :
    Visits scope (w.bind next) (sites ++ sites') (whole ∧ whole') where
  sublist past := by
    cases hr : (w.after past).result with
    | error err =>
      rw [after_bind_of_error hr]
      exact (h.sublist past).trans (List.sublist_append_left _ _)
    | ok a =>
      rw [after_bind_of_ok hr, List.map_append]
      exact (h.sublist past).append ((hn past a hr).sublist _)
  all hw past b hb := by
    cases hr : (w.after past).result with
    | error err =>
      rw [after_bind_of_error hr] at hb
      cases hb
    | ok a =>
      rw [after_bind_of_ok hr] at hb ⊢
      rw [List.map_append, h.all hw.1 past a hr, (hn past a hr).all hw.2 _ b hb]
  resolved past call hcall := by
    cases hr : (w.after past).result with
    | error err =>
      rw [after_bind_of_error hr] at hcall
      exact h.resolved past call hcall
    | ok a =>
      rw [after_bind_of_ok hr] at hcall
      rcases List.mem_append.mp hcall with hcall | hcall
      · exact h.resolved past call hcall
      · exact (hn past a hr).resolved _ call hcall

/-- A step in which nothing is called adds nothing. -/
theorem Visits.bind_still {next : α → Traced β} (h : Visits scope w sites whole) :
    Visits scope (w.bind fun a => Following.still (next a)) sites whole := by
  have hbind : Visits scope (w.bind fun a => Following.still (next a)) (sites ++ []) (whole ∧ True) :=
    h.bind fun _ a _ => .still (next a) True
  rw [List.append_nil] at hbind
  exact hbind.weaken fun hw => ⟨hw, trivial⟩

/-- What comes second may leave calls out. -/
theorem Visits.bind_some {next : α → Following β} (h : Visits scope w sites whole)
    (hn : ∀ a, Visits scope (next a) sites' False) :
    Visits scope (w.bind next) (sites ++ sites') False :=
  (h.bind fun _ a _ => hn a).weaken False.elim

theorem Visits.map (h : Visits scope w sites whole) (f : α → β) : Visits scope (w.map f) sites whole :=
  h.bind_still

theorem sites_under (calls : List Invocation) (i : Nat) :
    (calls.map (·.under i)).map (·.site) = (calls.map (·.site)).map (.under i) := by
  simp only [List.map_map]
  rfl

theorem Visits.under (i : Nat) (h : Visits scope w sites whole) :
    Visits scope (w.under i) (sites.map (.under i)) whole where
  sublist past := by
    show (((w.after past).calls.map (·.under i)).map (·.site)).Sublist _
    rw [sites_under]
    exact (h.sublist past).map _
  all hw past a ha := by
    show ((w.after past).calls.map (·.under i)).map (·.site) = _
    rw [sites_under, h.all hw past a ha]
  resolved past call hcall := by
    obtain ⟨inner, hinner, rfl⟩ := List.mem_map.mp hcall
    have hr := h.resolved past inner hinner
    exact ⟨hr.callee, hr.count, hr.accepts⟩

theorem Visits.within {body : Allowance → Following α} (a : Allowance)
    (h : ∀ inner, Visits scope (body inner) sites whole) : Visits scope (.within a body) sites whole := by
  unfold Following.within
  cases a.descend with
  | none => exact .fail _ _ _
  | some inner => exact h inner

/-- In place of an unknown variable nothing is carried out, and it has no calls. -/
theorem Visits.tolerant {w : Following Value} {e : Expr} (h : Visits scope w sites whole)
    (hvariable : ∀ name, e = .variable name → sites = []) :
    Visits scope (w.tolerant scope e) sites whole := by
  cases e with
  | «variable» name =>
    rw [hvariable name rfl]
    exact .still _ _
  | _ => exact h.map some

theorem Visits.invoke {host : Host} {f : Callable} {name : String} {count : Nat} {params : List Value}
    (hf : scope.callable? name = some f) (hcount : params.length = count)
    (haccepts : f.arity.accepts count = true) :
    Visits scope (.invoke host f name count params) [⟨[], name, count⟩] True where
  sublist _ := List.Sublist.refl _
  all _ _ _ _ := rfl
  resolved past call hcall := by
    obtain rfl := List.mem_singleton.mp hcall
    subst hcount
    exact ⟨hf, rfl, haccepts⟩

end Following

namespace Expr

open Following (Visits)

variable {scope : Scope} {host : Host}

mutual

/-- Every child has to be evaluated for a value: none of `and` and `or` occurs, and no conditional. -/
def Unconditional : Expr → Prop
  | literal _ | .variable _ => True
  | call _ params => UnconditionalAll params
  | unary _ operand => operand.Unconditional
  | binary op left right => op ∉ [Operator.and, .or] ∧ left.Unconditional ∧ right.Unconditional
  | array elements => UnconditionalAll elements
  | ternary .. => False

def UnconditionalAll : List Expr → Prop
  | [] => True
  | e :: rest => e.Unconditional ∧ UnconditionalAll rest

end

/-- There are as many values as expressions. -/
theorem length_of_followFrom {a : Allowance} {i : Nat} {es : List Expr} {vs : List Value}
    {past : List (Callable × List Value)}
    (h : ((followFrom scope host a i es).after past).result = .ok vs) : vs.length = es.length := by
  induction es generalizing i vs past with
  | nil =>
    rw [followFrom] at h
    cases h
    rfl
  | cons e rest ih =>
    rw [followFrom] at h
    obtain ⟨v, past', -, h⟩ := Following.exists_of_bind_ok h
    obtain ⟨rest', past'', hrest, h⟩ := Following.exists_of_bind_ok h
    cases h
    rw [List.length_cons, List.length_cons, ih hrest]

mutual

/-- **Calls are carried out in post-order.** -/
theorem follow_visits : (e : Expr) → ∀ a,
    Visits scope (follow scope host a e) e.callSites e.Unconditional
  | literal v, a => by
    rw [follow_literal]
    exact .within a fun inner => .still _ _
  | .variable name, a => by
    rw [follow_variable]
    refine Visits.within a ?_
    intro inner
    cases scope.value? name with
    | none => exact .still _ _
    | some v => exact .still _ _
  | unary op operand, a => by
    rw [follow_unary, callSites]
    exact .within a fun inner => ((follow_visits operand inner).under 0).bind_still
  | .binary op left right, a => by
    rw [follow_binary, callSites]
    refine Visits.within a ?_
    intro inner
    have hl := (follow_visits left inner).under 0
    have hr := (follow_visits right inner).under 1
    cases hop : op.reading with
    | short decider =>
      -- the right operand may be left out, but then the expression is not unconditional
      refine Visits.weaken (hl.bind_still.bind_some ?_) ?_
      · intro holds
        split
        · exact (Visits.still _ True).among (List.nil_sublist _)
        · exact (hr.bind_still.map _).among (List.Sublist.refl _)
      · rintro ⟨hop', -⟩
        cases op with
        | and | or => simp at hop'
        | _ => cases hop
    | tolerant =>
      have hl' := hl.tolerant (e := left) fun name hname => by rw [hname]; rfl
      have hr' := hr.tolerant (e := right) fun name hname => by rw [hname]; rfl
      exact (hl'.bind fun _ _ _ => hr'.map _).weaken fun h => h.2
    | strict =>
      exact (hl.bind fun _ _ _ => hr.bind_still).weaken fun h => h.2
  | .ternary op condition thenBranch elseBranch, a => by
    cases op with
    | conditional =>
      rw [follow_conditional, callSites]
      refine Visits.within a ?_
      intro inner
      have hc := (follow_visits condition inner).under 0
      have ht := (follow_visits thenBranch inner).under 1
      have hf := (follow_visits elseBranch inner).under 2
      refine hc.bind_still.bind_some ?_
      intro holds
      cases holds with
      | true => exact ht.among (List.sublist_append_left _ _)
      | false => exact hf.among (List.sublist_append_right _ _)
    | _ =>
      rw [follow]
      exact .within a fun inner => .fail _ _ _
  | .array elements, a => by
    rw [follow_array, callSites]
    exact .within a fun inner => (followFrom_visits elements inner 0).map _
  | .call name params, a => by
    rw [follow_call, callSites]
    refine Visits.within a ?_
    intro inner
    have hparams := followFrom_visits params inner 0
    cases hf : scope.callable? name with
    | none => exact .fail _ _ _
    | some f =>
      dsimp only
      split
      · next haccepts =>
        exact (hparams.bind fun _ vs hvs => .invoke hf (length_of_followFrom hvs) haccepts).weaken
          fun h => ⟨h, trivial⟩
      · exact .fail _ _ _

theorem followFrom_visits : (es : List Expr) → ∀ a i,
    Visits scope (followFrom scope host a i es) (callSitesFrom i es) (UnconditionalAll es)
  | [], a, i => by
    rw [followFrom]
    exact .still _ _
  | e :: rest, a, i => by
    rw [followFrom, callSitesFrom]
    have he := (follow_visits e a).under i
    exact he.bind fun _ v _ => (followFrom_visits rest a (i + 1)).map _

end

/-- Calls in post-order stand at places of their own. -/
theorem spots_nodup {sites : List CallSite} (h : sites.Pairwise CallSite.Before) :
    (sites.map (·.spot)).Nodup := by
  rw [List.Nodup, List.pairwise_map]
  refine h.imp ?_
  intro s t hbefore hsame
  have hself : Spot.Before s.spot t.spot := hbefore
  rw [hsame] at hself
  exact Spot.not_before_self _ hself

/-- **Main theorem.** `callSites` lists the calls of an expression in post-order, parameters from left to
right before the call itself. Whatever the functions do, whatever was called before, and however deep
evaluation may go, the calls that are carried out are some of these in this order, none of them twice, each
to the function that its name stands for; and all of them, if the evaluation has a value and the expression
has no `and`, no `or` and no conditional. Evaluation is the case of functions that stand by their bodies,
with the places left out of its trace. -/
theorem calls_in_order (scope : Scope) (e : Expr) :
    e.callSites.Pairwise CallSite.Before ∧
      (∀ site : CallSite, site ∈ e.callSites ↔
        ∃ params, e.at? site.spot = some (call site.name params) ∧ params.length = site.count) ∧
      (∀ (host : Host) (a : Allowance) (past : List (Callable × List Value)),
        ∃ calls result, (follow scope host a e).after past = ⟨calls, result⟩ ∧
          (calls.map (·.site)).Sublist e.callSites ∧
          (calls.map (·.site.spot)).Nodup ∧
          (∀ call ∈ calls, call.Resolved scope) ∧
          ∀ v, result = .ok v → e.Unconditional → calls.map (·.site) = e.callSites) ∧
      ∀ a past, ((follow scope .standing a e).after past).traced = eval scope a e := by
  refine ⟨callSites_ordered e, fun site => mem_callSites_iff, ?_, fun a past => follow_standing e a past⟩
  intro host a past
  have hvisits : Visits scope (follow scope host a e) e.callSites e.Unconditional := follow_visits e a
  refine ⟨_, _, rfl, hvisits.sublist past, ?_, hvisits.resolved past, ?_⟩
  · have hordered := (callSites_ordered e).sublist (hvisits.sublist past)
    have hnodup := spots_nodup hordered
    rw [List.map_map] at hnodup
    exact hnodup
  · intro v hv hunconditional
    exact hvisits.all hunconditional past v hv

/-- `tick(tick()) = tick()` -/
def ticks : Expr :=
  binary .equal (call "tick" [call "tick" []]) (call "tick" [])

/-- `tick` takes any parameters. -/
def ticking : Scope :=
  Scope.empty.addFunction (.bare "tick" .any false fun _ => .ok (.string ""))

/-- The function gives `'a'` the first time and `'b'` from then on. -/
def changing : Host := fun past _ _ => .ok (.string (if past.isEmpty then "a" else "b"))

/-- All three are carried out: the inner one, the outer one, the one to the right. -/
theorem calls_in_order_ticks :
    ticks.Unconditional ∧
      ((follow ticking changing none ticks).after []).result = .ok (.boolean true) ∧
      ((follow ticking changing none ticks).after []).calls.map (·.site) =
        [⟨[0, 0], "tick", 0⟩, ⟨[0], "tick", 1⟩, ⟨[1], "tick", 0⟩] := by
  have hunconditional : ticks.Unconditional := by simp [ticks, Unconditional, UnconditionalAll]
  have hvalue : ((follow ticking changing none ticks).after []).result = .ok (.boolean true) := rfl
  obtain ⟨-, -, hcalls, -⟩ := calls_in_order ticking ticks
  obtain ⟨calls, result, hrun, -, -, -, hall⟩ := hcalls changing none []
  rw [hrun] at hvalue ⊢
  exact ⟨hunconditional, hvalue, hall _ hvalue hunconditional⟩

end Expr

end Reckon
