/-!
# `Command.Arguments` — options among the arguments of a command

An option begins with a hyphen and has more characters. Its value, if it takes one, follows an equals
sign or is the next argument, whatever that looks like. After two hyphens that stand alone nothing is
an option any more. Each option changes the request that is being read, so where an option may be
given once only the last counts.
-/

namespace Reckon.Command

/-- How an option is written, and what it changes in a request. -/
inductive Spelling (ρ : Type) where
  /-- the name alone -/
  | flag (change : ρ → ρ)
  /-- the name and a value -/
  | valued (change : String → ρ → ρ)

/-- An argument has the form of an option. -/
def isOption (arg : String) : Bool :=
  match arg.toList with
  | '-' :: _ :: _ => true
  | _ => false

/-- The name of an option, and the value that is written into the same argument. -/
def nameAndValue (arg : String) : String × Option String :=
  let name := arg.toList.takeWhile (· != '=')
  match arg.toList.drop name.length with
  | [] => (arg, none)
  | _ :: value => (String.ofList name, some (String.ofList value))

/-- The request that the options change, and the other arguments in order. There is none if an option
is not known, has a value against its spelling, or lacks one. -/
def readArguments? {ρ : Type} (spellings : List (String × Spelling ρ)) (request : ρ) :
    List String → Option (ρ × List String)
  | [] => some (request, [])
  | arg :: rest =>
    if arg = "--" then some (request, rest)
    else if isOption arg then
      let (name, value) := nameAndValue arg
      match spellings.lookup name, value, rest with
      | some (.flag change), none, rest => readArguments? spellings (change request) rest
      | some (.valued change), some value, rest =>
        readArguments? spellings (change value request) rest
      | some (.valued change), none, value :: rest =>
        readArguments? spellings (change value request) rest
      | _, _, _ => none
    else (readArguments? spellings request rest).map fun (request, others) =>
      (request, arg :: others)
termination_by args => args.length

/-- The request that the options change, and the only other argument. -/
def readSingle? {ρ : Type} (spellings : List (String × Spelling ρ)) (request : ρ)
    (args : List String) : Option (ρ × String) :=
  match readArguments? spellings request args with
  | some (request, [arg]) => some (request, arg)
  | _ => none

end Reckon.Command
