import Mathlib
import Reckon.Command.Answer
import Reckon.Proofs.Json.Agree

/-!
# `Proofs.Command.Bindings` — what the variables of a command line are

The entries of a file and the assignments behind them give data to names, one after the other. They go
through two tables. In the first, letter case counts: a spelling that is there keeps its place and takes
the new datum. In the second, the scope, it does not: of the spellings of a name, the last in the first
table wins.

So a variable has the datum that its *newest* spelling was given last, where a spelling is as old as its
first entry (`newest?`, `value?_of_addTo`). That is the last entry in any spelling (`lastAlike?`), unless
that entry takes up an older spelling again. Then an assignment can leave the variable as it was.

Main statement: `variables_answer`.
-/

namespace Reckon.Command

/-! ## Entries and their spellings -/

/-- The last entry whose name is the same but for letter case. -/
def lastAlike? (n : String) (entries : List (String × Yaml.Datum)) : Option (String × Yaml.Datum) :=
  entries.reverse.find? fun entry => Text.lower entry.1 == Text.lower n

/-- The datum of the last entry under a name in this spelling. -/
def lastExact? (s : String) (entries : List (String × Yaml.Datum)) : Option Yaml.Datum :=
  entries.reverse.lookup s

/-- The spelling of a name that came up last. Spellings are ordered by their first entries. -/
def newest? (n : String) (entries : List (String × Yaml.Datum)) : Option String :=
  (entries.map (·.1)).eraseDups.reverse.find? fun s => Text.lower s == Text.lower n

/-- The value of a datum, if it has one. -/
def valueOf? (datum : Yaml.Datum) : Option Value :=
  datum.toPlain?.bind fun plain => plain.toValue?.toOption

theorem lastAlike?_append (n : String) (entries more : List (String × Yaml.Datum)) :
    lastAlike? n (entries ++ more) = (lastAlike? n more).or (lastAlike? n entries) := by
  unfold lastAlike?
  rw [List.reverse_append, List.find?_append]

/-- What sources give: the entries of the file and those of the assignments, each in their order. -/
structure Sources.Give (sources : Sources) (yaml : DatumReader) (read : String → Option String)
    (entries assigned : List (String × Yaml.Datum)) : Prop where
  file : match sources.file with
    | .none => entries = []
    | some path => ∃ text, read path = some text ∧ readFile yaml path text = .ok entries
  assignments :
    List.Forall₂ (fun text entry => readAssignment yaml text = .ok entry) sources.assignments assigned

/-! ## The table in which letter case counts -/

namespace Bindings

/-- A name is new to the table, or its spelling stands in it already. -/
theorem names_bind (name : String) (datum : Yaml.Datum) (bindings : Bindings) :
    (bindings.bind name datum).map (·.1) =
      if name ∈ bindings.map (·.1) then bindings.map (·.1) else bindings.map (·.1) ++ [name] := by
  induction bindings with
  | nil => rfl
  | cons entry rest ih =>
    obtain ⟨n, d⟩ := entry
    rw [bind]
    by_cases h : n = name
    · subst h
      rw [if_pos rfl, if_pos (by simp)]
      rfl
    · have hmem : name ∈ ((n, d) :: rest).map (·.1) ↔ name ∈ rest.map (·.1) := by
        simp [Ne.symm h]
      rw [if_neg h, List.map_cons, ih]
      by_cases hrest : name ∈ rest.map (·.1)
      · rw [if_pos hrest, if_pos (hmem.mpr hrest), List.map_cons]
      · rw [if_neg hrest, if_neg (mt hmem.mp hrest), List.map_cons, List.cons_append]

theorem bindAll_concat (entries : List (String × Yaml.Datum)) (name : String) (datum : Yaml.Datum) :
    bindAll [] (entries ++ [(name, datum)]) = (bindAll [] entries).bind name datum := by
  unfold bindAll
  rw [List.foldl_append]
  rfl

/-- The table has the spellings in the order of their first entries. -/
theorem names_bindAll (entries : List (String × Yaml.Datum)) :
    (bindAll [] entries).map (·.1) = (entries.map (·.1)).eraseDups := by
  induction entries using List.reverseRecOn with
  | nil => rfl
  | append_singleton entries entry ih =>
    obtain ⟨name, datum⟩ := entry
    rw [bindAll_concat, names_bind, ih, List.map_append, List.eraseDups_append, List.map_singleton]
    simp only [List.mem_eraseDups, List.removeAll, List.filter_singleton]
    by_cases h : name ∈ entries.map (·.1)
    · simp [h]
    · have hone : [name].eraseDups = [name] := rfl
      simp [h, hone]

/-- Each spelling is in it once. -/
theorem nodup_names_bindAll (entries : List (String × Yaml.Datum)) :
    ((bindAll [] entries).map (·.1)).Nodup := by
  induction entries using List.reverseRecOn with
  | nil => exact List.nodup_nil
  | append_singleton entries entry ih =>
    rw [bindAll_concat, names_bind]
    split
    · exact ih
    · next hnew =>
      refine List.nodup_append'.mpr ⟨ih, List.nodup_singleton _, ?_⟩
      exact List.disjoint_singleton.mpr hnew

/-- Under a spelling stands the datum of its last entry. -/
theorem lookup_bindAll (s : String) (entries : List (String × Yaml.Datum)) :
    (bindAll [] entries).lookup s = lastExact? s entries := by
  induction entries using List.reverseRecOn with
  | nil => rfl
  | append_singleton entries entry ih =>
    obtain ⟨name, datum⟩ := entry
    rw [bindAll_concat, lookup_bind, ih]
    unfold lastExact?
    rw [List.reverse_concat]
    split
    · next h => rw [h, List.lookup_cons_self]
    · next h => rw [Json.lookup_cons_of_ne h]

/-- The last spelling of a name in the table is the newest, with its last datum. -/
theorem lastAlike?_bindAll (n : String) (entries : List (String × Yaml.Datum)) :
    (lastAlike? n (bindAll [] entries)).map (·.2) =
      (newest? n entries).bind fun s => lastExact? s entries := by
  have hspelling : (lastAlike? n (bindAll [] entries)).map (·.1) = newest? n entries := by
    unfold lastAlike? newest?
    rw [← names_bindAll, ← List.map_reverse, List.find?_map]
    rfl
  rw [← hspelling]
  cases hfound : lastAlike? n (bindAll [] entries) with
  | none => rfl
  | some entry =>
    have hmem : entry ∈ bindAll [] entries :=
      List.mem_reverse.mp (List.mem_of_find?_eq_some hfound)
    have hlookup : (bindAll [] entries).lookup entry.1 = some entry.2 :=
      Json.lookup_of_mem (nodup_names_bindAll entries) hmem
    rw [lookup_bindAll] at hlookup
    exact hlookup.symm

end Bindings

/-- The newest spelling is given last when the last entry in any spelling uses it. -/
theorem lastExact?_of_lastAlike? {n s : String} {datum : Yaml.Datum}
    {entries : List (String × Yaml.Datum)} (h : lastAlike? n entries = some (s, datum)) :
    lastExact? s entries = some datum := by
  -- the entries behind the last one alike are not alike, so none of them has its spelling
  unfold lastAlike? at h
  obtain ⟨hs, before, after, hentries, hbefore⟩ := List.find?_eq_some_iff_append.mp h
  unfold lastExact?
  rw [hentries, List.lookup_eq_some_iff]
  refine ⟨before, after, rfl, ?_⟩
  intro entry hentry
  have hunlike := hbefore entry hentry
  rw [bne_iff_ne]
  rintro rfl
  rw [hs] at hunlike
  cases hunlike

/-! ## Reading the sources -/

theorem bindAssignments_eq {yaml : DatumReader} {texts : List String} {assigned : List (String × Yaml.Datum)}
    (h : List.Forall₂ (fun text entry => readAssignment yaml text = .ok entry) texts assigned)
    (bindings : Bindings) :
    bindAssignments yaml bindings texts = .ok (bindings.bindAll assigned) := by
  induction h generalizing bindings with
  | nil => rfl
  | cons hread _ ih =>
    rw [bindAssignments, hread]
    exact ih _

/-- The sources bind all that they give, the file before the assignments. -/
theorem Sources.Give.bindings_eq {sources : Sources} {yaml : DatumReader} {read : String → Option String}
    {entries assigned : List (String × Yaml.Datum)} (h : sources.Give yaml read entries assigned) :
    sources.bindings yaml read = .ok (Bindings.bindAll [] (entries ++ assigned)) := by
  have hassigned := bindAssignments_eq h.assignments (Bindings.bindAll [] entries)
  have happend : Bindings.bindAll [] (entries ++ assigned) =
      (Bindings.bindAll [] entries).bindAll assigned := by
    unfold Bindings.bindAll
    rw [List.foldl_append]
  have hfile := h.file
  unfold Sources.bindings
  rw [happend, ← hassigned]
  cases hpath : sources.file with
  | none =>
    rw [hpath] at hfile
    rw [hfile]
    rfl
  | some path =>
    rw [hpath] at hfile
    obtain ⟨text, hread, hentries⟩ := hfile
    dsimp only
    rw [hread]
    dsimp only
    rw [hentries]

/-! ## The scope -/

/-- A datum with a value is added under its name. -/
theorem addDatum_of_value {datum : Yaml.Datum} {v : Value} (h : valueOf? datum = some v)
    (scope : Scope) (name : String) : addDatum scope name datum = .ok (scope.addVariable name v) := by
  unfold valueOf? at h
  unfold addDatum
  cases hplain : datum.toPlain? with
  | none =>
    rw [hplain] at h
    cases h
  | some plain =>
    rw [hplain] at h
    have hv : plain.toValue?.toOption = some v := h
    dsimp only
    rw [Scope.addPlain?]
    cases hvalue : plain.toValue? with
    | error err =>
      rw [hvalue] at hv
      cases hv
    | ok w =>
      rw [hvalue] at hv
      cases hv
      rfl

/-- Bindings whose data have values can be added; then a name is answered by the last of them that is
alike. -/
theorem exists_addTo {bindings : Bindings} (h : ∀ entry ∈ bindings, (valueOf? entry.2).isSome = true)
    (scope : Scope) :
    ∃ scope', bindings.addTo scope = .ok scope' ∧
      ∀ n, scope'.value? n =
        ((lastAlike? n bindings).bind (valueOf? ·.2)).or (scope.value? n) := by
  induction bindings generalizing scope with
  | nil => exact ⟨scope, rfl, fun _ => rfl⟩
  | cons entry rest ih =>
    obtain ⟨name, datum⟩ := entry
    obtain ⟨v, hv⟩ := Option.isSome_iff_exists.mp (h (name, datum) List.mem_cons_self)
    have hrest : ∀ e ∈ rest, (valueOf? e.2).isSome = true :=
      fun e he => h e (List.mem_cons_of_mem _ he)
    obtain ⟨scope', hadd, hanswers⟩ := ih hrest (scope.addVariable name v)
    refine ⟨scope', ?_, ?_⟩
    · rw [Bindings.addTo, addDatum_of_value hv]
      exact hadd
    · intro n
      have hsplit : lastAlike? n ((name, datum) :: rest) =
          (lastAlike? n rest).or (lastAlike? n [(name, datum)]) :=
        lastAlike?_append n [(name, datum)] rest
      rw [hanswers n, hsplit, Scope.value?_addVariable]
      cases hfound : lastAlike? n rest with
      | some found =>
        -- a later entry decides, and has a value
        have hmem : found ∈ rest := List.mem_reverse.mp (List.mem_of_find?_eq_some hfound)
        obtain ⟨w, hw⟩ := Option.isSome_iff_exists.mp (hrest found hmem)
        show Option.or (valueOf? found.2) _ = Option.or (valueOf? found.2) _
        rw [hw]
        rfl
      | none =>
        unfold lastAlike?
        rw [List.reverse_singleton, List.find?_singleton]
        dsimp only
        by_cases hname : (Text.lower name == Text.lower n) = true
        · rw [if_pos hname, if_pos (beq_iff_eq.mp hname).symm]
          show some v = Option.or (valueOf? datum) _
          rw [hv]
          rfl
        · rw [if_neg hname, if_neg (fun hlower => hname (beq_iff_eq.mpr hlower.symm))]
          rfl

/-- The library has functions only. -/
theorem value?_extend_empty (settings : Settings) (world : Library.World) (n : String) :
    (Scope.empty.extend settings world).value? n = none := by
  have hvalues : ∀ (fs : List Callable) (scope : Scope),
      (scope.addFunctions fs).values = scope.values := by
    intro fs
    induction fs with
    | nil => exact fun _ => rfl
    | cons f rest ih => exact fun scope => ih (scope.addFunction f)
  unfold Scope.extend Scope.value?
  rw [hvalues]
  rfl

/-- The scope of a command answers a name with the last datum of its newest spelling. -/
theorem exists_scope {around : Surroundings} {sources : Sources}
    {entries assigned : List (String × Yaml.Datum)}
    (given : sources.Give around.yaml around.file? entries assigned)
    (valued : ∀ entry ∈ entries ++ assigned, (valueOf? entry.2).isSome = true)
    (settings : Settings) :
    ∃ scope count, around.scope settings sources = .ok (scope, count) ∧
      ∀ n, scope.value? n =
        ((newest? n (entries ++ assigned)).bind fun s =>
          lastExact? s (entries ++ assigned)).bind valueOf? := by
  have hvalued : ∀ entry ∈ Bindings.bindAll [] (entries ++ assigned),
      (valueOf? entry.2).isSome = true := by
    rintro ⟨s, datum⟩ hentry
    have hlookup := Json.lookup_of_mem (Bindings.nodup_names_bindAll _) hentry
    rw [Bindings.lookup_bindAll] at hlookup
    exact valued _ (List.mem_reverse.mp (Json.mem_of_lookup hlookup))
  obtain ⟨scope, hadd, hanswers⟩ :=
    exists_addTo hvalued (Scope.empty.extend settings around.world)
  refine ⟨scope, (Bindings.bindAll [] (entries ++ assigned)).length, ?_, ?_⟩
  · unfold Surroundings.scope
    rw [given.bindings_eq]
    dsimp only
    rw [hadd]
  · intro n
    rw [hanswers n, value?_extend_empty, Option.or_none, ← Bindings.lastAlike?_bindAll]
    cases lastAlike? n (Bindings.bindAll [] (entries ++ assigned)) <;> rfl

/-- **Main theorem.** When all data that the sources give have values, whatever makes data of texts, the
command has its scope, and a variable there has the last value that its newest spelling was given. If the
last entry in any spelling uses the newest one, this is the value of that entry: of the last assignment to
the name in any letter case, or else of the last such entry of the file. -/
theorem variables_answer {around : Surroundings} {sources : Sources}
    {entries assigned : List (String × Yaml.Datum)}
    (given : sources.Give around.yaml around.file? entries assigned)
    (valued : ∀ entry ∈ entries ++ assigned, (valueOf? entry.2).isSome = true)
    (settings : Settings) :
    ∃ scope count, around.scope settings sources = .ok (scope, count) ∧
      ∀ n, scope.value? n =
          ((newest? n (entries ++ assigned)).bind fun s =>
            lastExact? s (entries ++ assigned)).bind valueOf? ∧
        ((lastAlike? n (entries ++ assigned)).map (·.1) = newest? n (entries ++ assigned) →
          scope.value? n =
            ((lastAlike? n assigned).or (lastAlike? n entries)).bind (valueOf? ·.2)) := by
  obtain ⟨scope, count, hscope, hanswers⟩ := exists_scope given valued settings
  refine ⟨scope, count, hscope, fun n => ⟨hanswers n, ?_⟩⟩
  intro hspelling
  rw [hanswers n, ← hspelling, ← lastAlike?_append]
  cases hlast : lastAlike? n (entries ++ assigned) with
  | none => rfl
  | some entry =>
    show (lastExact? entry.1 _).bind valueOf? = valueOf? entry.2
    rw [lastExact?_of_lastAlike? hlast]
    rfl

/-! ## A name in two spellings -/

/-- The variables are those of a file and of one assignment. -/
def oneAssignment (text : String) : Sources := ⟨some "vars.yaml", [text]⟩

/-- Surroundings in which a file gives a name in two spellings. -/
def twoSpellings : Surroundings where
  environment? := fun _ => none
  file? := fun _ => some "x: 1\nX: 2\n"
  world := ⟨⟨0.0⟩, 0⟩
  nesting := .standard

theorem oneAssignment_gives {text : String} {entry : String × Yaml.Datum}
    (h : readAssignment Yaml.read text = .ok entry) :
    (oneAssignment text).Give twoSpellings.yaml twoSpellings.file?
      [("x", .integer 1), ("X", .integer 2)] [entry] where
  file := by
    have hread : readFile Yaml.read "vars.yaml" "x: 1\nX: 2\n" =
        .ok [("x", .integer 1), ("X", .integer 2)] := by cbv
    exact ⟨_, rfl, hread⟩
  assignments := .cons h .nil

/-- An assignment to the spelling that came up last overrides the file. -/
theorem variables_answer_newest :
    (oneAssignment "X=").Give twoSpellings.yaml twoSpellings.file?
        [("x", .integer 1), ("X", .integer 2)] [("X", .text "")] ∧
      (∀ entry ∈ [("x", Yaml.Datum.integer 1), ("X", .integer 2), ("X", .text "")],
        (valueOf? entry.2).isSome = true) ∧
      ∃ scope count, twoSpellings.scope .standard (oneAssignment "X=") = .ok (scope, count) ∧
        scope.value? "x" = some (.string "") := by
  have hassigned : readAssignment Yaml.read "X=" = .ok ("X", .text "") := by cbv
  have hgiven := oneAssignment_gives hassigned
  have hvalued : ∀ entry ∈ [("x", Yaml.Datum.integer 1), ("X", .integer 2), ("X", .text "")],
      (valueOf? entry.2).isSome = true := by decide +kernel
  obtain ⟨scope, count, hscope, hanswers⟩ := variables_answer hgiven hvalued .standard
  exact ⟨hgiven, hvalued, scope, count, hscope, (hanswers "x").2 rfl⟩

/-- An assignment to the other spelling does not: `x` is assigned `3`, and still is `2` as in the file. -/
theorem assignment_overridden :
    ∃ scope count, twoSpellings.scope .standard (oneAssignment "x=3") = .ok (scope, count) ∧
      (oneAssignment "x=3").Give twoSpellings.yaml twoSpellings.file?
        [("x", .integer 1), ("X", .integer 2)] [("x", .integer 3)] ∧
      (lastAlike? "x" [("x", .integer 3)]).bind (valueOf? ·.2) = some (.number 3.0) ∧
      scope.value? "x" = some (.number 2.0) := by
  have hassigned : readAssignment Yaml.read "x=3" = .ok ("x", .integer 3) := by cbv
  have hgiven := oneAssignment_gives hassigned
  have hvalued : ∀ entry ∈ [("x", Yaml.Datum.integer 1), ("X", .integer 2), ("x", .integer 3)],
      (valueOf? entry.2).isSome = true := by decide +kernel
  obtain ⟨scope, count, hscope, hanswers⟩ := exists_scope hgiven hvalued .standard
  exact ⟨scope, count, hscope, hgiven, rfl, (hanswers "x").trans rfl⟩

end Reckon.Command
