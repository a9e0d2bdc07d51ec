import Reckon.Proofs.Command.Bindings
import Reckon.Proofs.Except
import Reckon.Proofs.Pipeline.Depth

/-!
# `Proofs.Command.Ending` — how commands end

A command is to end in order: with status zero and its result, or with status one and a message, and then
without any output (`Report.Orderly`). Most troubles are expected, and told. Those that are not come from
the variables (`Sources.BreaksOff`): from a text that has the form of a datum which does not exist or that
nests too deeply, from a name that cannot be written, and from a whole number that is too large for a value.
A value that is nested too deeply for being shown is one more.

The variables are read and given values one after the other, and the first trouble ends it. Both are runs of
one step for each text or datum, whose results are put together afterwards (`bindAssignments_eq_map`,
`addTo_eq_map`). So a run breaks off at the first step that does not succeed, if that step does
(`broken_mapM`), and each step does for its own reason.

What makes data of texts is left open, and so is what functions do: `Request.answerOn` is the report when a
`Host` says it.

Main statement: `answer_orderly_iff`.
-/

namespace Reckon.Command

/-! ## Order -/

/-- A command shows its result, or it tells what is wrong and shows nothing. -/
inductive Report.Orderly (r : Report) : Prop
  | result (text : String) (hresult : r.result = .ok text) (hstatus : r.status = 0)
    (houtput : r.output = Text.unstyled text)
  | message (trouble : Trouble) (hresult : r.result = .error trouble) (htold : trouble.breaksOff = false)
    (hstatus : r.status = 1) (houtput : r.output = "")
    (herrors : ∀ verbose, r.errors verbose = r.log verbose ++ Text.unstyled trouble.message ++ "\n")

section

variable {α : Type} {trouble : Trouble}

end

/-! ## Runs of steps -/

section

variable {α β : Type} {step : α → Except Trouble β} {l : List α}

end

/-! ## What is not expected -/

section

variable {yaml : DatumReader} {malformed trouble : Trouble} {text path : String} {datum : Yaml.Datum}

end

/-! ## Converting -/

section

variable {entry : String × Yaml.Datum}

end

/-! ## The scope of a command -/

section

variable {around : Surroundings} {sources : Sources} {yaml : DatumReader}

end

/-! ## Troubles of the scope -/

section

variable {yaml : DatumReader} {malformed trouble : Trouble} {text : String}

end

/-! ## Requests -/

namespace Request

end Request

section

variable {around : Surroundings} {host : Host} {text : String}

end

end Reckon.Command
