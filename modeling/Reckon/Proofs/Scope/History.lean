import Reckon.Proofs.Scope.Writes
import Reckon.Scope

/-!
# `Proofs.Scope.History` — what a scope shows after a history of operations

A scope is changed by eight operations, some of which can fail. Each of them amounts to writes to one of two
registries that know nothing of one another (`Operation.valueWrites`, `Operation.functionWrites`), all under
lower-case names (`apply_eq`). So whatever the history, a name is looked up as its last write says
(`value?_after`, `callable?_after`), and the listings and the documentation show each entry once
(`mem_functionList_iff`, `documentation_documents`).

Main statement: `history_shown`.
-/

namespace Reckon

namespace Scope

/-- An operation on a scope. -/
inductive Operation where
  | addVariable (name : String) (datum : Plain)
  | addVariables (entries : List (String × Plain))
  | removeVariable (name : String)
  | clearVariables
  | addFunction (f : Callable)
  | addFunctions (fs : List Callable)
  | addNative (name : String) (arity : Arity) (pure : Bool)
      (body : List Value → Except Failure Value)
  | removeFunction (name : String)

/-- The scope after an operation, and why the operation failed if it did. -/
def apply (scope : Scope) : Operation → Scope × Option ConversionError
  | .addVariable name datum =>
    match scope.addPlain? name datum with
    | .ok scope' => (scope', none)
    | .error err => (scope, some err)
  | .addVariables entries => scope.addPlains entries
  | .removeVariable name => (scope.removeVariable name, none)
  | .clearVariables => (scope.clearVariables, none)
  | .addFunction f => (scope.addFunction f, none)
  | .addFunctions fs => (scope.addFunctions fs, none)
  | .addNative name arity pure body => (scope.addFunction (.bare name arity pure body), none)
  | .removeFunction name => (scope.removeFunction name, none)

/-- The scope after operations on an empty one, whether they failed or not. -/
def after (history : List Operation) : Scope :=
  history.foldl (fun scope op => (scope.apply op).1) .empty

/-! ## Operations as writes -/

/-- The entries up to the first whose datum has no value, with their values. -/
def accepted : List (String × Plain) → List (String × Value)
  | [] => []
  | (name, datum) :: rest =>
    match datum.toValue? with
    | .ok value => (name, value) :: accepted rest
    | .error _ => []

/-- A variable is written under the lower case of its name. -/
def valueWrite (entry : String × Value) : Write Value :=
  .put (Text.lower entry.1) entry.2

/-- So is a function. -/
def functionWrite (f : Callable) : Write Callable :=
  .put (Text.lower f.name) f

namespace Operation

/-- What an operation writes to the variables. -/
def valueWrites : Operation → List (Write Value)
  | addVariable name datum => (accepted [(name, datum)]).map valueWrite
  | addVariables entries => (accepted entries).map valueWrite
  | removeVariable name => [.drop (Text.lower name)]
  | clearVariables => [.clear]
  | addFunction _ | addFunctions _ | addNative .. | removeFunction _ => []

/-- What an operation writes to the functions. -/
def functionWrites : Operation → List (Write Callable)
  | addFunction f => [functionWrite f]
  | addFunctions fs => fs.map functionWrite
  | addNative name arity pure body => [functionWrite (.bare name arity pure body)]
  | removeFunction name => [.drop (Text.lower name)]
  | addVariable .. | addVariables _ | removeVariable _ | clearVariables => []

end Operation

/-- What a history writes to the variables. -/
def valueWrites (history : List Operation) : List (Write Value) :=
  history.flatMap Operation.valueWrites

/-- What a history writes to the functions. -/
def functionWrites (history : List Operation) : List (Write Callable) :=
  history.flatMap Operation.functionWrites

theorem addPlains_eq (scope : Scope) (entries : List (String × Plain)) :
    (scope.addPlains entries).1 =
      { scope with values := scope.values.writeAll ((accepted entries).map valueWrite) } := by
  induction entries generalizing scope with
  | nil => rfl
  | cons entry rest ih =>
    obtain ⟨name, datum⟩ := entry
    unfold addPlains addPlain? accepted
    cases datum.toValue? with
    | ok value => exact ih (scope.addVariable name value)
    | error err => rfl

theorem addFunctions_eq (scope : Scope) (fs : List Callable) :
    scope.addFunctions fs =
      { scope with functions := scope.functions.writeAll (fs.map functionWrite) } := by
  induction fs generalizing scope with
  | nil => rfl
  | cons f rest ih => exact ih (scope.addFunction f)

/-- Adding a variable is adding a list of one. -/
theorem apply_addVariable (scope : Scope) (name : String) (datum : Plain) :
    scope.apply (.addVariable name datum) = scope.addPlains [(name, datum)] := by
  rw [apply, addPlains]
  cases scope.addPlain? name datum <;> rfl

/-- An operation writes to each of the two registries what it writes there, and nothing else. -/
theorem apply_eq (scope : Scope) (op : Operation) :
    (scope.apply op).1 =
      ⟨scope.values.writeAll op.valueWrites, scope.functions.writeAll op.functionWrites⟩ := by
  cases op with
  | addVariable name datum =>
    rw [apply_addVariable]
    exact addPlains_eq scope [(name, datum)]
  | addVariables entries => exact addPlains_eq scope entries
  | addFunctions fs => exact addFunctions_eq scope fs
  | removeVariable | clearVariables | addFunction | addNative | removeFunction => rfl

theorem after_eq (history : List Operation) :
    after history =
      ⟨.writeAll .empty (valueWrites history), .writeAll .empty (functionWrites history)⟩ := by
  induction history using List.reverseRecOn with
  | nil => rfl
  | append_singleton history op ih =>
    unfold after at ih ⊢
    rw [List.foldl_append, List.foldl_cons, List.foldl_nil, ih, apply_eq]
    unfold valueWrites functionWrites Registry.writeAll
    rw [List.flatMap_append, List.flatMap_append, List.foldl_append, List.foldl_append,
      List.flatMap_singleton, List.flatMap_singleton]

theorem value?_after (history : List Operation) (name : String) :
    (after history).value? name = Write.latest (valueWrites history) (Text.lower name) := by
  rw [after_eq]
  exact Registry.get?_writeAll _ _

theorem callable?_after (history : List Operation) (name : String) :
    (after history).callable? name = Write.latest (functionWrites history) (Text.lower name) := by
  rw [after_eq]
  exact Registry.get?_writeAll _ _

/-! ## Listings -/

theorem variableNames_increasing (history : List Operation) :
    (after history).variableNames.Pairwise (· < ·) := by
  rw [after_eq]
  unfold variableNames Registry.keys
  refine pairwise_lt_mergeSort id ?_
  rw [List.map_id]
  exact Registry.distinct_writeAll _

theorem mem_variableNames_iff (history : List Operation) (key : String) :
    key ∈ (after history).variableNames ↔
      (Write.latest (valueWrites history) key).isSome = true := by
  rw [after_eq]
  unfold variableNames
  rw [Registry.mem_keys_iff, Registry.get?_writeAll]

/-- A function stands under the lower case of its name. -/
theorem key_of_latest {history : List Operation} {key : String} {f : Callable}
    (h : Write.latest (functionWrites history) key = some f) : key = Text.lower f.name := by
  obtain ⟨op, -, hput⟩ := List.mem_flatMap.mp (Write.put_mem_of_latest h)
  cases op with
  | addFunction g | addNative =>
    cases List.mem_singleton.mp hput
    rfl
  | addFunctions fs =>
    obtain ⟨g, -, hg⟩ := List.mem_map.mp hput
    cases hg
    rfl
  | removeFunction name => cases List.mem_singleton.mp hput
  | addVariable | addVariables | removeVariable | clearVariables => cases hput

theorem functions_distinct (history : List Operation) : (after history).functions.Distinct := by
  rw [after_eq]
  exact Registry.distinct_writeAll _

/-- A function that stands in the scope stands under the lower case of its name, once. -/
theorem key_of_mem_functions {history : List Operation} {key : String} {f : Callable}
    (h : (key, f) ∈ (after history).functions.entries) :
    (after history).functions.get? key = some f ∧ key = Text.lower f.name := by
  have hget := (functions_distinct history).mem_entries_iff.mp h
  refine ⟨hget, ?_⟩
  rw [after_eq, Registry.get?_writeAll] at hget
  exact key_of_latest hget

/-- The scope knows the function under some name. -/
def Knows (scope : Scope) (f : Callable) : Prop :=
  ∃ name, scope.callable? name = some f

theorem mem_functionList_iff (history : List Operation) (f : Callable) :
    f ∈ (after history).functionList ↔ (after history).Knows f := by
  unfold functionList Registry.values
  rw [List.mem_mergeSort, List.mem_map]
  constructor
  · rintro ⟨⟨key, g⟩, hentry, rfl⟩
    obtain ⟨hget, hkey⟩ := key_of_mem_functions hentry
    refine ⟨g.name, ?_⟩
    rw [callable?, ← hkey]
    exact hget
  · rintro ⟨name, hname⟩
    exact ⟨(Text.lower name, f), (functions_distinct history).mem_entries_iff.mpr hname, rfl⟩

theorem functionList_increasing (history : List Operation) :
    (after history).functionList.Pairwise fun f g => f.name < g.name := by
  refine pairwise_lt_mergeSort Callable.name ?_
  -- names that differ in lower case differ
  refine List.Nodup.of_map Text.lower ?_
  have hkeys : (((after history).functions.values.map (·.name)).map Text.lower) =
      (after history).functions.entries.map (·.1) := by
    unfold Registry.values
    rw [List.map_map, List.map_map]
    refine List.map_congr_left ?_
    rintro ⟨key, f⟩ hentry
    exact (key_of_mem_functions hentry).2.symm
  rw [hkeys]
  exact functions_distinct history

/-! ## The documentation -/

theorem categoriesOf_concat (fs : List Callable) (f : Callable) :
    categoriesOf (fs ++ [f]) =
      if (categoriesOf fs).contains f.category then categoriesOf fs
      else categoriesOf fs ++ [f.category] := by
  unfold categoriesOf
  rw [List.map_append, List.foldl_append]
  rfl

theorem categoriesOf_nodup (fs : List Callable) : (categoriesOf fs).Nodup := by
  induction fs using List.reverseRecOn with
  | nil => exact List.nodup_nil
  | append_singleton fs f ih =>
    rw [categoriesOf_concat]
    split
    · exact ih
    · next hnew =>
      refine List.nodup_append'.mpr ⟨ih, List.nodup_singleton _, ?_⟩
      intro c hc hlast
      rw [List.mem_singleton.mp hlast] at hc
      exact hnew (List.contains_iff_mem.mpr hc)

theorem mem_categoriesOf_iff (fs : List Callable) (c : Category) :
    c ∈ categoriesOf fs ↔ ∃ f ∈ fs, f.category = c := by
  rw [← List.mem_map]
  induction fs using List.reverseRecOn with
  | nil => rfl
  | append_singleton fs f ih =>
    rw [categoriesOf_concat, List.map_append, List.mem_append, ← ih, List.map_singleton,
      List.mem_singleton]
    split
    · next hold =>
      refine ⟨.inl, ?_⟩
      rintro (hc | rfl)
      · exact hc
      · exact List.contains_iff_mem.mp hold
    · rw [List.mem_append, List.mem_singleton]

/-- `functions` and `byCategory` hold each of the functions once. -/
structure Documents (known : Callable → Prop) (functions byCategory : List (String × Json)) :
    Prop where
  names_nodup : (functions.map (·.1)).Nodup
  mem_functions : ∀ name doc,
    (name, doc) ∈ functions ↔ ∃ f, known f ∧ name = f.name ∧ doc = f.toJson
  categories_nodup : (byCategory.map (·.1)).Nodup
  category_listed : ∀ f, known f → ∃ docs, (f.category.name, docs) ∈ byCategory
  mem_category : ∀ name docs, (name, docs) ∈ byCategory →
    ∃ listed, docs = .list listed ∧ listed.Nodup ∧
      ∀ doc, doc ∈ listed ↔ ∃ f, known f ∧ f.category.name = name ∧ doc = f.toJson

end Scope

theorem Category.name_injective : Function.Injective Category.name := by
  intro c d h
  cases c <;> cases d <;> first | rfl | exact absurd h (by decide)

theorem Callable.name_of_toJson {f g : Callable} (h : f.toJson = g.toJson) : f.name = g.name := by
  injection h with hfields
  injection hfields with hname
  injection hname with _ hjson
  injection hjson

namespace Scope

theorem documentation_documents (history : List Operation) :
    ∃ functions byCategory,
      (after history).documentation =
        .object [("functions", .object functions), ("byCategory", .object byCategory)] ∧
      Documents (after history).Knows functions byCategory := by
  refine ⟨_, _, rfl, ?_⟩
  have hnames : (after history).functionList.Pairwise fun f g => f.name ≠ g.name :=
    (functionList_increasing history).imp String.ne_of_lt
  constructor
  case names_nodup =>
    rw [List.map_map]
    exact List.pairwise_map.mpr hnames
  case mem_functions =>
    intro name doc
    rw [List.mem_map]
    constructor
    · rintro ⟨f, hf, hentry⟩
      cases hentry
      exact ⟨f, (mem_functionList_iff history f).mp hf, rfl, rfl⟩
    · rintro ⟨f, hf, rfl, rfl⟩
      exact ⟨f, (mem_functionList_iff history f).mpr hf, rfl⟩
  case categories_nodup =>
    rw [List.map_map]
    exact (categoriesOf_nodup _).map Category.name_injective
  case category_listed =>
    intro f hf
    have hmem := (mem_functionList_iff history f).mpr hf
    have hcategory := (mem_categoriesOf_iff _ f.category).mpr ⟨f, hmem, rfl⟩
    exact ⟨_, List.mem_map.mpr ⟨f.category, hcategory, rfl⟩⟩
  case mem_category =>
    intro name docs hentry
    obtain ⟨c, -, hc⟩ := List.mem_map.mp hentry
    cases hc
    refine ⟨_, rfl, ?_, ?_⟩
    · -- two functions that are documented alike have the same name
      refine List.pairwise_map.mpr ((hnames.filter _).imp ?_)
      intro f g hne hjson
      exact hne (Callable.name_of_toJson hjson)
    · intro doc
      rw [List.mem_map]
      constructor
      · rintro ⟨f, hf, rfl⟩
        obtain ⟨hmem, hcategory⟩ := List.mem_filter.mp hf
        refine ⟨f, (mem_functionList_iff history f).mp hmem, ?_, rfl⟩
        rw [beq_iff_eq.mp hcategory]
      · rintro ⟨f, hf, hcategory, rfl⟩
        refine ⟨f, List.mem_filter.mpr ⟨(mem_functionList_iff history f).mpr hf, ?_⟩, rfl⟩
        exact beq_iff_eq.mpr (Category.name_injective hcategory)

/-! ## Failing operations -/

/-- An entry that adds a variable. -/
def additions (entries : List (String × Plain)) : List Operation :=
  entries.map fun entry => .addVariable entry.1 entry.2

/-- Adding variables fails at the first datum without a value, and has added the variables before it. -/
theorem addPlains_failed {scope : Scope} {entries : List (String × Plain)} {err : ConversionError}
    (h : (scope.addPlains entries).2 = some err) :
    ∃ before name datum rest, entries = before ++ (name, datum) :: rest ∧
      (∀ entry ∈ before, ∃ value, entry.2.toValue? = .ok value) ∧
      datum.toValue? = .error err ∧
      (scope.addPlains entries).1 =
        (additions before).foldl (fun scope op => (scope.apply op).1) scope := by
  induction entries generalizing scope with
  | nil => cases h
  | cons entry rest ih =>
    obtain ⟨name, datum⟩ := entry
    cases hdatum : datum.toValue? with
    | error e =>
      have hstop : scope.addPlains ((name, datum) :: rest) = (scope, some e) := by
        rw [addPlains, addPlain?, hdatum]
      rw [hstop] at h ⊢
      cases h
      exact ⟨[], name, datum, rest, rfl, by simp, hdatum, rfl⟩
    | ok value =>
      have hadd : scope.addPlain? name datum = .ok (scope.addVariable name value) := by
        rw [addPlain?, hdatum]
      rw [addPlains, hadd] at h ⊢
      obtain ⟨before, name', datum', rest', hentries, hbefore, hfails, hscope⟩ := ih h
      refine ⟨(name, datum) :: before, name', datum', rest', ?_, ?_, hfails, ?_⟩
      · rw [hentries, List.cons_append]
      · rintro entry (_ | ⟨_, hentry⟩)
        · exact ⟨value, hdatum⟩
        · exact hbefore entry hentry
      · rw [hscope]
        unfold additions
        rw [List.map_cons, List.foldl_cons, apply, hadd]

theorem additions_after (history : List Operation) (entries : List (String × Plain)) :
    after (history ++ additions entries) =
      (additions entries).foldl (fun scope op => (scope.apply op).1) (after history) := by
  unfold after
  rw [List.foldl_append]

/-! ## All together -/

/-- `scope` is what a history of operations should leave: its lookups, its listings and its documentation
go by the last writes, and operations that fail on it leave no more than they must. -/
structure Shows (history : List Operation) (scope : Scope) : Prop where
  value : ∀ name, scope.value? name = Write.latest (valueWrites history) (Text.lower name)
  callable : ∀ name, scope.callable? name = Write.latest (functionWrites history) (Text.lower name)
  names_increasing : scope.variableNames.Pairwise (· < ·)
  mem_names : ∀ key,
    key ∈ scope.variableNames ↔ (Write.latest (valueWrites history) key).isSome = true
  functions_increasing : scope.functionList.Pairwise fun f g => f.name < g.name
  mem_functions : ∀ f, f ∈ scope.functionList ↔ scope.Knows f
  category_sublist : ∀ c, (scope.functionsOf c).Sublist scope.functionList
  mem_category : ∀ c f, f ∈ scope.functionsOf c ↔ f ∈ scope.functionList ∧ f.category = c
  documented : ∃ functions byCategory,
    scope.documentation =
      .object [("functions", .object functions), ("byCategory", .object byCategory)] ∧
    Documents scope.Knows functions byCategory
  addition_failed : ∀ name datum err,
    (scope.apply (.addVariable name datum)).2 = some err →
      (scope.apply (.addVariable name datum)).1 = scope
  additions_failed : ∀ entries err,
    (scope.apply (.addVariables entries)).2 = some err →
      ∃ before name datum rest, entries = before ++ (name, datum) :: rest ∧
        (∀ entry ∈ before, ∃ value, entry.2.toValue? = .ok value) ∧
        datum.toValue? = .error err ∧
        (scope.apply (.addVariables entries)).1 = after (history ++ additions before)

/-- **The last writes are what a scope shows, after any history.** -/
theorem history_shown (history : List Operation) : Shows history (after history) := by
  constructor
  case value => exact value?_after history
  case callable => exact callable?_after history
  case names_increasing => exact variableNames_increasing history
  case mem_names => exact mem_variableNames_iff history
  case functions_increasing => exact functionList_increasing history
  case mem_functions => exact mem_functionList_iff history
  case category_sublist =>
    intro c
    exact List.filter_sublist
  case mem_category =>
    intro c f
    unfold functionsOf
    rw [List.mem_filter, beq_iff_eq]
  case documented => exact documentation_documents history
  case addition_failed =>
    intro name datum err hfails
    rw [apply] at hfails ⊢
    cases hadd : (after history).addPlain? name datum with
    | ok scope =>
      rw [hadd] at hfails
      cases hfails
    | error e => rfl
  case additions_failed =>
    intro entries err hfails
    obtain ⟨before, name, datum, rest, hentries, hbefore, hdatum, hscope⟩ := addPlains_failed hfails
    refine ⟨before, name, datum, rest, hentries, hbefore, hdatum, ?_⟩
    rw [additions_after]
    exact hscope

/-- A name in another letter case counts as the same, and a list of additions stops at a datum without a
value. -/
example :
    let scope := after [.addVariable "Rate" (.text "low"), .addVariable "RATE" (.foreign "NoneType"),
      .addVariables [("rate", .text "high"), ("x", .foreign "dict"), ("y", .text "")]]
    scope.value? "rATE" = some (.string "high") ∧ scope.value? "y" = none := by
  refine ⟨?_, ?_⟩ <;> rfl

end Scope

end Reckon
