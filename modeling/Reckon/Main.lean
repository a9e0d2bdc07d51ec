import Reckon.Command.Answer
import Std.Time.DateTime.Timestamp

/-!
# `Main` — the command line

The surroundings of a request are looked up before it is answered: the variables that set options, the
file that the request names, a draw of chance and the time.
-/

namespace Reckon.Command

/-- The text of a file, if it is there and can be read. -/
def readText (path : String) : IO (Option String) := do
  match ← (IO.FS.readFile path).toBaseIO with
  | .ok text => return some text
  | .error _ => return none

/-- The surroundings of a request. -/
def surroundingsOf (request : Request) : IO Surroundings := do
  let options ← Settings.variableNames.mapM fun name => return (name, ← IO.getEnv name)
  let text ←
    match request.file? with
    | some path => readText path
    | none => pure none
  let draw ← IO.rand 0 (Nat.pow 2 53 - 1)
  let now ← Std.Time.Timestamp.now
  return {
    environment? := fun name => (options.lookup name).join
    file? := fun _ => text
    world := {
      draw := ⟨Float.ofNat draw / Float.ofNat (Nat.pow 2 53)⟩
      now := now.toMillisecondsSinceUnixEpoch.val }
    nesting := .standard }

end Reckon.Command

open Reckon.Command in
/-- Answer a command line. -/
def main (args : List String) : IO UInt32 := do
  match Invocation.read? args with
  | none =>
    IO.eprintln Trouble.misuse.message
    return Trouble.misuse.status.toUInt32
  | some invocation =>
    let report := invocation.request.answer (← surroundingsOf invocation.request)
    IO.print report.output
    IO.eprint (report.errors invocation.verbose)
    return report.status.toUInt32
