import Reckon.Command.Report
import Reckon.Command.Request
import Reckon.Text.Search
import Reckon.Yaml.Datum

/-!
# `Command.Bindings` — the variables that a command line gives

Names are bound to data first by the file, then by the assignments in their order. A name that is bound
again keeps its place and takes the new datum; here letter case counts. Then the data become values of
a scope, where it does not. What makes data of texts is given (`DatumReader`).

  * `Sources.bindings` — names with data
  * `Bindings.addTo` — a scope with their values
-/

namespace Reckon.Command

/-- Names with data, each name once. -/
abbrev Bindings := List (String × Yaml.Datum)

namespace Bindings

/-- With a datum under a name, in the place of the name if it is there. -/
def bind (name : String) (datum : Yaml.Datum) : Bindings → Bindings
  | [] => [(name, datum)]
  | (n, d) :: rest => if n = name then (n, datum) :: rest else (n, d) :: bind name datum rest

/-- The datum under a name is the one that it was bound to last. -/
@[simp] theorem lookup_bind (name other : String) (datum : Yaml.Datum) (bindings : Bindings) :
    (bindings.bind name datum).lookup other =
      if other = name then some datum else bindings.lookup other := by
  induction bindings with
  | nil => by_cases h : other = name <;> simp [bind, h]
  | cons entry rest ih =>
    obtain ⟨n, d⟩ := entry
    by_cases hn : n = name
    · subst hn
      by_cases h : other = n
      · simp [bind, h]
      · have hne : (other == n) = false := by simpa using h
        simp [bind, List.lookup_cons, hne, h]
    · by_cases h : other = n
      · subst h
        simp [bind, hn]
      · have hne : (other == n) = false := by simpa using h
        simp [bind, List.lookup_cons, hn, hne, ih]

/-- With data under names, one after the other. -/
def bindAll (bindings : Bindings) (entries : List (String × Yaml.Datum)) : Bindings :=
  entries.foldl (fun all entry => bind entry.1 entry.2 all) bindings

end Bindings

/-- What makes data of texts; in use it is `Yaml.read`. -/
abbrev DatumReader := String → Except Yaml.ReadError Yaml.Datum

/-- The datum of a text, where `malformed` says that it has none. -/
def readDatum (yaml : DatumReader) (malformed : Trouble) (text : String) : Except Trouble Yaml.Datum :=
  match yaml text with
  | .ok datum => .ok datum
  | .error .malformed => .error malformed
  | .error .tooDeep => .error .exhausted
  | .error .integerTooLarge => .error .integerTooLarge
  | .error (.flawed flaw) => .error (.flawed flaw)

/-- The name and the text of the value of an assignment. The name is trimmed, and may not be blank. -/
def splitAssignment? (text : String) : Option (String × String) :=
  match Text.cut? ['='] text.toList with
  | none => none
  | some (before, after) =>
    let name := Text.trim before
    if name.isEmpty then none else some (String.ofList name, String.ofList after)

/-- The name and the datum of an assignment. A blank value is the empty text. -/
def readAssignment (yaml : DatumReader) (text : String) : Except Trouble (String × Yaml.Datum) :=
  match splitAssignment? text with
  | none => .error (.noAssignment text)
  | some (name, value) =>
    if (Text.trim value.toList).isEmpty then .ok (name, .text "")
    else
      match readDatum yaml (.malformedValue name) value with
      | .ok datum => .ok (name, datum)
      | .error e => .error e

/-- A path without empty parts and without parts that stay where they are. Slashes in front stay: two
as they are, more as one. -/
def shownPath (path : String) : String :=
  let parts := (Text.splitOn ['/'] path.toList).filter fun part => part ≠ [] && part ≠ ['.']
  let start : List Char :=
    match path.toList with
    | '/' :: '/' :: '/' :: _ => ['/']
    | '/' :: '/' :: _ => ['/', '/']
    | '/' :: _ => ['/']
    | _ => []
  match start ++ (parts.intersperse ['/']).flatten with
  | [] => "."
  | shown => String.ofList shown

/-- The names and data of the text of a file. -/
def readFile (yaml : DatumReader) (path text : String) :
    Except Trouble (List (String × Yaml.Datum)) :=
  match readDatum yaml (.malformedFile (shownPath path)) text with
  | .error e => .error e
  | .ok datum =>
    match datum.entries? with
    | some entries => if datum.hasWritableKeys then .ok entries else .error (.flawed .notWritable)
    | none => .error (.noMapping (shownPath path))

/-- Names with the data of assignments. -/
def bindAssignments (yaml : DatumReader) (bindings : Bindings) :
    List String → Except Trouble Bindings
  | [] => .ok bindings
  | text :: rest =>
    match readAssignment yaml text with
    | .error e => .error e
    | .ok (name, datum) => bindAssignments yaml (bindings.bind name datum) rest

/-- Names with the data that the file and the assignments give. `read` knows the texts of files. -/
def Sources.bindings (sources : Sources) (yaml : DatumReader) (read : String → Option String) :
    Except Trouble Bindings :=
  match sources.file with
  | .none => bindAssignments yaml [] sources.assignments
  | some path =>
    match read path with
    | .none => .error .misuse
    | some text =>
      match readFile yaml path text with
      | .error e => .error e
      | .ok entries => bindAssignments yaml (Bindings.bindAll [] entries) sources.assignments

/-- A scope with the value of a datum under a name. -/
def addDatum (scope : Scope) (name : String) (datum : Yaml.Datum) : Except Trouble Scope :=
  match datum.toPlain? with
  | none => .error .exhausted
  | some plain =>
    match scope.addPlain? name plain with
    | .ok scope => .ok scope
    | .error (.noCounterpart kindName) => .error (.noValue name kindName)
    | .error .integerTooLarge => .error .integerTooLarge

/-- A scope with the values of data under their names. -/
def Bindings.addTo (scope : Scope) : Bindings → Except Trouble Scope
  | [] => .ok scope
  | (name, datum) :: rest =>
    match addDatum scope name datum with
    | .ok scope => addTo scope rest
    | .error e => .error e

end Reckon.Command
