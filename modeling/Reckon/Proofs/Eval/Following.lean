import Reckon.Proofs.Eval.Outcome
import Reckon.Proofs.Expr.CallSite

/-!
# `Proofs.Eval.Following` — which calls of an expression are carried out, and when

The trace of an evaluation says which functions were called, but not by which of the calls in the expression.
And a function from outside need not do the same thing twice. `follow` is evaluation with both in view: it
notes the place of every call that is carried out, and asks a `Host` what the function does, which may depend
on everything that was called before.

Main statement: with functions that stand by their bodies it is evaluation, trace included
(`follow_standing`).
-/

namespace Reckon

/-- A call that is carried out: the call in the expression, the function, and the values of the parameters. -/
structure Invocation where
  site : CallSite
  callee : Callable
  params : List Value

namespace Invocation

/-- The call as seen from an expression whose child of that number it is in. -/
def under (i : Nat) (call : Invocation) : Invocation :=
  { call with site := call.site.under i }

/-- What the function gets to see of a call. -/
def step (call : Invocation) : Callable × List Value :=
  (call.callee, call.params)

/-- What a trace keeps of a call. -/
def event (call : Invocation) : Event :=
  .called call.callee.name call.params

/-- The function is the one that the scope has under the name as written, and it takes as many parameters as
the call is written with and the function is given. -/
structure Resolved (scope : Scope) (call : Invocation) : Prop where
  callee : scope.callable? call.site.name = some call.callee
  count : call.params.length = call.site.count
  accepts : call.callee.arity.accepts call.params.length = true

end Invocation

/-- What the functions do when they are called, after the calls that went before. -/
abbrev Host := List (Callable × List Value) → Callable → List Value → Except Failure Value

/-- Functions that do what their bodies say, whatever went before. -/
def Host.standing : Host := fun _ f params => f.body params

/-- A value or an error, with the calls that were carried out on the way. -/
structure Followed (α : Type) where
  calls : List Invocation
  result : Except EvalError α

/-- What is left of the calls in a trace. -/
def Followed.traced {α : Type} (r : Followed α) : Traced α :=
  ⟨r.calls.map Invocation.event, r.result⟩

/-- An evaluation that starts after some calls. -/
structure Following (α : Type) where
  after : List (Callable × List Value) → Followed α

namespace Following

variable {α β : Type}

/-- A step in which nothing is called. -/
def still (t : Traced α) : Following α :=
  ⟨fun _ => ⟨[], t.result⟩⟩

/-- One evaluation after another; the second does not start when the first fails. -/
def bind (w : Following α) (next : α → Following β) : Following β :=
  ⟨fun past =>
    match (w.after past).result with
    | .error err => ⟨(w.after past).calls, .error err⟩
    | .ok a =>
      let more := (next a).after (past ++ (w.after past).calls.map Invocation.step)
      ⟨(w.after past).calls ++ more.calls, more.result⟩⟩

/-- A function of the value. -/
def map (f : α → β) (w : Following α) : Following β :=
  w.bind fun a => still (.done (f a))

/-- An evaluation one level down, which fails when that level is not granted. -/
def within (a : Allowance) (body : Allowance → Following α) : Following α :=
  match a.descend with
  | none => still (.fail .nestedTooDeeply)
  | some inner => body inner

/-- The evaluation of the child of that number. -/
def under (i : Nat) (w : Following α) : Following α :=
  ⟨fun past => ⟨(w.after past).calls.map (·.under i), (w.after past).result⟩⟩

/-- A call of a function that is known under a name, carried out. -/
def invoke (host : Host) (f : Callable) (name : String) (count : Nat) (params : List Value) :
    Following Value :=
  ⟨fun past =>
    ⟨[⟨⟨[], name, count⟩, f, params⟩],
      match host past f params with
      | .ok v => .ok v
      | .error cause => .error (.callFailed name cause)⟩⟩

/-- An operand of `=` or `<>`: a variable may be unknown, all else is evaluated. -/
def tolerant (scope : Scope) (operand : Expr) (w : Following Value) : Following (Option Value) :=
  match operand with
  | .variable name => still (.done (scope.value? name))
  | _ => w.map some

end Following

namespace Expr

open Following (still)

mutual

/-- Evaluation with the calls that are carried out, on a host. -/
def follow (scope : Scope) (host : Host) (allowance : Allowance) (e : Expr) : Following Value :=
  match allowance.descend with
  | none => still (.fail .nestedTooDeeply)
  | some inner =>
    match e with
    | .literal value => still (.done value)
    | .variable name =>
      match scope.value? name with
      | some value => still (.done value)
      | none => still (.fail (.undefinedVariable name))
    | .unary op operand =>
      ((follow scope host inner operand).under 0).bind fun v => still (applyUnary op v)
    | .binary op left right =>
      match op.reading with
      | .short decider =>
        (((follow scope host inner left).under 0).bind fun v => still (requireTruth op v)).bind
          fun holds =>
            if holds = decider then still (.done (.boolean decider))
            else
              (((follow scope host inner right).under 1).bind fun v =>
                still (requireTruth op v)).map .boolean
      | .tolerant =>
        (((follow scope host inner left).under 0).tolerant scope left).bind fun x =>
          (((follow scope host inner right).under 1).tolerant scope right).map fun y =>
            .boolean (if op = .equal then operandsEqual x y else !operandsEqual x y)
      | .strict =>
        ((follow scope host inner left).under 0).bind fun v =>
          ((follow scope host inner right).under 1).bind fun w => still (applyBinary op v w)
    | .ternary .conditional condition thenBranch elseBranch =>
      (((follow scope host inner condition).under 0).bind fun v =>
        still (requireTruth .conditional v)).bind fun holds =>
          if holds then (follow scope host inner thenBranch).under 1
          else (follow scope host inner elseBranch).under 2
    | .ternary op _ _ _ => still (.fail (.unfitOperator .ternary op))
    | .array elements => (followFrom scope host inner 0 elements).map .array
    | .call name params =>
      match scope.callable? name with
      | none => still (.fail (.unknownFunction name))
      | some f =>
        if f.arity.accepts params.length then
          (followFrom scope host inner 0 params).bind (.invoke host f name params.length)
        else still (.fail (.wrongCount name f.arity params.length))

/-- Evaluation of children that are numbered from `i` on, from left to right. -/
def followFrom (scope : Scope) (host : Host) (allowance : Allowance) (i : Nat) (es : List Expr) :
    Following (List Value) :=
  match es with
  | [] => still (.done [])
  | e :: rest =>
    ((follow scope host allowance e).under i).bind fun v =>
      (followFrom scope host allowance (i + 1) rest).map fun vs => v :: vs

end

variable {scope : Scope} {host : Host}

/-! ## Node by node -/

theorem follow_literal (a : Allowance) (value : Value) :
    follow scope host a (literal value) = .within a fun _ => still (.done value) := by
  rw [follow]
  rfl

theorem follow_variable (a : Allowance) (name : String) :
    follow scope host a (.variable name) =
      .within a fun _ =>
        match scope.value? name with
        | some value => still (.done value)
        | none => still (.fail (.undefinedVariable name)) := by
  rw [follow]
  rfl

theorem follow_unary (a : Allowance) (op : Operator) (operand : Expr) :
    follow scope host a (unary op operand) =
      .within a fun inner =>
        ((follow scope host inner operand).under 0).bind fun v => still (applyUnary op v) := by
  rw [follow]
  rfl

theorem follow_binary (a : Allowance) (op : Operator) (left right : Expr) :
    follow scope host a (binary op left right) =
      .within a fun inner =>
        match op.reading with
        | .short decider =>
          (((follow scope host inner left).under 0).bind fun v => still (requireTruth op v)).bind
            fun holds =>
              if holds = decider then still (.done (.boolean decider))
              else
                (((follow scope host inner right).under 1).bind fun v =>
                  still (requireTruth op v)).map .boolean
        | .tolerant =>
          (((follow scope host inner left).under 0).tolerant scope left).bind fun x =>
            (((follow scope host inner right).under 1).tolerant scope right).map fun y =>
              .boolean (if op = .equal then operandsEqual x y else !operandsEqual x y)
        | .strict =>
          ((follow scope host inner left).under 0).bind fun v =>
            ((follow scope host inner right).under 1).bind fun w => still (applyBinary op v w) := by
  rw [follow]
  rfl

theorem follow_conditional (a : Allowance) (condition thenBranch elseBranch : Expr) :
    follow scope host a (ternary .conditional condition thenBranch elseBranch) =
      .within a fun inner =>
        (((follow scope host inner condition).under 0).bind fun v =>
          still (requireTruth .conditional v)).bind fun holds =>
            if holds then (follow scope host inner thenBranch).under 1
            else (follow scope host inner elseBranch).under 2 := by
  rw [follow]
  rfl

theorem follow_unfit {op : Operator} (h : op ≠ .conditional) (a : Allowance)
    (condition thenBranch elseBranch : Expr) :
    follow scope host a (ternary op condition thenBranch elseBranch) =
      .within a fun _ => still (.fail (.unfitOperator .ternary op)) := by
  rw [follow]
  cases op with
  | conditional => exact absurd rfl h
  | _ => rfl

theorem follow_array (a : Allowance) (elements : List Expr) :
    follow scope host a (array elements) =
      .within a fun inner => (followFrom scope host inner 0 elements).map .array := by
  rw [follow]
  rfl

theorem follow_call (a : Allowance) (name : String) (params : List Expr) :
    follow scope host a (call name params) =
      .within a fun inner =>
        match scope.callable? name with
        | none => still (.fail (.unknownFunction name))
        | some f =>
          if f.arity.accepts params.length then
            (followFrom scope host inner 0 params).bind (.invoke host f name params.length)
          else still (.fail (.wrongCount name f.arity params.length)) := by
  rw [follow]
  rfl

theorem eval_binary (a : Allowance) (op : Operator) (left right : Expr) :
    eval scope a (binary op left right) =
      a.within fun inner =>
        match op.reading with
        | .short decider =>
          ((eval scope inner left).bind (requireTruth op)).bind fun holds =>
            if holds = decider then .done (.boolean decider)
            else ((eval scope inner right).bind (requireTruth op)).map .boolean
        | .tolerant =>
          (tolerant scope left (eval scope inner left)).bind fun x =>
            (tolerant scope right (eval scope inner right)).map fun y =>
              .boolean (if op = .equal then operandsEqual x y else !operandsEqual x y)
        | .strict =>
          (eval scope inner left).bind fun v => (eval scope inner right).bind (applyBinary op v) := by
  rw [eval]
  unfold Allowance.within
  cases a.descend with
  | none => rfl
  | some inner =>
    cases op with
    | and =>
      dsimp only [Operator.reading]
      congr 1
      funext holds
      cases holds <;> rfl
    | _ => rfl

end Expr

/-! ## Evaluation is followed -/

theorem requireTruth_trace (op : Operator) (v : Value) : (requireTruth op v).trace = [] := by
  cases v <;> rfl

theorem ofOperation_trace {α : Type} (r : Except Mismatch α) : (Traced.ofOperation r).trace = [] := by
  cases r <;> rfl

theorem applyUnary_trace (op : Operator) (v : Value) : (applyUnary op v).trace = [] := by
  cases op with
  | not | minus => exact ofOperation_trace _
  | _ => rfl

theorem applyBinary_trace (op : Operator) (v w : Value) : (applyBinary op v w).trace = [] := by
  cases op with
  | plus | minus | times | divide | div | mod | xor => exact ofOperation_trace _
  | _ => rfl

namespace Following

variable {α β : Type} {w : Following α} {t : Traced α} {past : List (Callable × List Value)}

theorem after_bind_of_error {err : EvalError} {next : α → Following β}
    (h : (w.after past).result = .error err) :
    (w.bind next).after past = ⟨(w.after past).calls, .error err⟩ := by
  unfold Following.bind
  dsimp only
  rw [h]

theorem after_bind_of_ok {a : α} {next : α → Following β} (h : (w.after past).result = .ok a) :
    (w.bind next).after past =
      ⟨(w.after past).calls ++
          ((next a).after (past ++ (w.after past).calls.map Invocation.step)).calls,
        ((next a).after (past ++ (w.after past).calls.map Invocation.step)).result⟩ := by
  unfold Following.bind
  dsimp only
  rw [h]

/-- What comes second starts after the calls of what comes first. -/
theorem bind_ok_iff {next : α → Following β} {y : β} :
    ((w.bind next).after past).result = .ok y ↔
      ∃ x, (w.after past).result = .ok x ∧
        ((next x).after (past ++ (w.after past).calls.map Invocation.step)).result = .ok y := by
  cases hr : (w.after past).result with
  | error err =>
    rw [after_bind_of_error hr]
    exact ⟨nofun, nofun⟩
  | ok x =>
    rw [after_bind_of_ok hr]
    constructor
    · intro h
      exact ⟨x, rfl, h⟩
    · rintro ⟨_, hx, h⟩
      cases hx
      exact h

/-- A sequence has a value only if its parts have. -/
theorem exists_of_bind_ok {next : α → Following β} {b : β}
    (h : ((w.bind next).after past).result = .ok b) :
    ∃ a past', (w.after past).result = .ok a ∧ ((next a).after past').result = .ok b := by
  obtain ⟨a, ha, hb⟩ := bind_ok_iff.mp h
  exact ⟨a, _, ha, hb⟩

theorem map_ok_iff {f : α → β} {y : β} :
    ((w.map f).after past).result = .ok y ↔ ∃ x, (w.after past).result = .ok x ∧ f x = y := by
  rw [Following.map, bind_ok_iff]
  simp only [still, Traced.done, Except.ok.injEq]

/-- A step in which nothing is called adds no calls. -/
theorem calls_bind_still {next : α → Traced β} :
    ((w.bind fun x => still (next x)).after past).calls = (w.after past).calls := by
  cases hr : (w.after past).result with
  | error err => rw [after_bind_of_error hr]
  | ok x =>
    rw [after_bind_of_ok hr]
    exact List.append_nil _

theorem within_ok_iff {a : Allowance} {body : Allowance → Following α} {y : α} :
    ((within a body).after past).result = .ok y ↔
      ∃ inner, a.descend = some inner ∧ ((body inner).after past).result = .ok y := by
  unfold Following.within
  cases a.descend with
  | none => exact ⟨nofun, nofun⟩
  | some inner =>
    constructor
    · intro h
      exact ⟨inner, rfl, h⟩
    · rintro ⟨_, ha, h⟩
      cases ha
      exact h

/-- The calls of a child are calls of the same functions wherever the child stands. -/
theorem steps_under (i : Nat) :
    ((w.under i).after past).calls.map Invocation.step = (w.after past).calls.map Invocation.step := by
  show ((w.after past).calls.map (·.under i)).map Invocation.step = _
  rw [List.map_map]
  rfl

/-- The evaluation with its calls placed is `t`, whatever went before. -/
def Follows (w : Following α) (t : Traced α) : Prop :=
  ∀ past, (w.after past).traced = t

theorem Follows.still (h : t.trace = []) : Follows (still t) t := by
  intro past
  show Traced.mk [] t.result = t
  rw [← h]

theorem Follows.done (a : α) : Follows (Following.still (.done a)) (.done a) :=
  .still rfl

theorem Follows.fail (err : EvalError) : Follows (Following.still (.fail err : Traced α)) (.fail err) :=
  .still rfl

theorem Follows.bind {next : α → Following β} {next' : α → Traced β} (h : Follows w t)
    (hn : ∀ a, Follows (next a) (next' a)) : Follows (w.bind next) (t.bind next') := by
  intro past
  have ht := h past
  subst ht
  cases hr : (w.after past).result with
  | error err =>
    rw [after_bind_of_error hr]
    simp only [Traced.bind, Followed.traced, hr]
  | ok a =>
    have hmore := hn a (past ++ (w.after past).calls.map Invocation.step)
    rw [after_bind_of_ok hr]
    simp only [Traced.bind, Followed.traced, hr, ← hmore, List.map_append]

theorem Follows.map (f : α → β) (h : Follows w t) : Follows (w.map f) (t.map f) :=
  h.bind fun a => .done (f a)

theorem Follows.under (i : Nat) (h : Follows w t) : Follows (w.under i) t := by
  intro past
  have hsame : (Invocation.event ∘ fun call => call.under i) = Invocation.event := rfl
  rw [← h past]
  simp only [Following.under, Followed.traced, List.map_map, hsame]

theorem Follows.within {body : Allowance → Following α} {body' : Allowance → Traced α} (a : Allowance)
    (h : ∀ inner, Follows (body inner) (body' inner)) : Follows (.within a body) (a.within body') := by
  unfold Following.within Allowance.within
  cases a.descend with
  | none => exact .fail _
  | some inner => exact h inner

theorem Follows.tolerant {scope : Scope} {w : Following Value} {t : Traced Value} (h : Follows w t)
    (e : Expr) : Follows (w.tolerant scope e) (Reckon.tolerant scope e t) := by
  cases e with
  | «variable» name => exact .done _
  | _ => exact h.map some

theorem Follows.invoke (f : Callable) (name : String) (count : Nat) (params : List Value) :
    Follows (.invoke .standing f name count params) (Reckon.invoke f name params) :=
  fun _ => rfl

end Following

namespace Expr

open Following (Follows)

variable {scope : Scope}

mutual

/-- **On functions that stand by their bodies, following is evaluation.** -/
theorem follow_standing : (e : Expr) → ∀ a, Follows (follow scope .standing a e) (eval scope a e)
  | literal v, a => by
    rw [follow_literal, eval_literal]
    exact .within a fun inner => .done v
  | .variable name, a => by
    rw [follow_variable, eval_variable]
    refine Follows.within a ?_
    intro inner
    cases scope.value? name with
    | none => exact .fail _
    | some v => exact .done v
  | unary op operand, a => by
    rw [follow_unary, eval_unary]
    refine Follows.within a ?_
    intro inner
    have ho := (follow_standing operand inner).under 0
    exact ho.bind fun v => .still (applyUnary_trace op v)
  | .binary op left right, a => by
    rw [follow_binary, eval_binary]
    refine Follows.within a ?_
    intro inner
    have hl := (follow_standing left inner).under 0
    have hr := (follow_standing right inner).under 1
    cases op.reading with
    | short decider =>
      refine (hl.bind fun v => .still (requireTruth_trace op v)).bind ?_
      intro holds
      split
      · exact .done _
      · exact (hr.bind fun v => .still (requireTruth_trace op v)).map _
    | tolerant => exact (hl.tolerant left).bind fun x => (hr.tolerant right).map _
    | strict => exact hl.bind fun v => hr.bind fun w => .still (applyBinary_trace op v w)
  | .ternary op condition thenBranch elseBranch, a => by
    cases op with
    | conditional =>
      rw [follow_conditional, eval_conditional]
      refine Follows.within a ?_
      intro inner
      have hc := (follow_standing condition inner).under 0
      refine (hc.bind fun v => .still (requireTruth_trace _ v)).bind ?_
      intro holds
      cases holds with
      | true => exact (follow_standing thenBranch inner).under 1
      | false => exact (follow_standing elseBranch inner).under 2
    | _ =>
      rw [follow, eval]
      exact .within a fun inner => .fail _
  | .array elements, a => by
    rw [follow_array, eval_array]
    exact .within a fun inner => (followFrom_standing elements inner 0).map _
  | .call name params, a => by
    rw [follow_call, eval_call]
    refine Follows.within a ?_
    intro inner
    cases scope.callable? name with
    | none => exact .fail _
    | some f =>
      dsimp only
      split
      · exact (followFrom_standing params inner 0).bind (.invoke f name params.length)
      · exact .fail _

theorem followFrom_standing : (es : List Expr) → ∀ a i,
    Follows (followFrom scope .standing a i es) (evalAll scope a es)
  | [], a, i => by
    rw [followFrom, evalAll]
    exact .done []
  | e :: rest, a, i => by
    rw [followFrom, evalAll]
    have he := (follow_standing e a).under i
    exact he.bind fun v => (followFrom_standing rest a (i + 1)).map _

end

end Expr

end Reckon
