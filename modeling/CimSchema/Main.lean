import CimSchema.CommandLine.Program

/-!
# The command line

## Main definitions

* `main` - runs the program on the files and variables of the machine.
-/

namespace CimSchema

/-- The result of an action, or the words of the error that it ends with. -/
def outcomeOf {α : Type} (action : IO α) : IO (Except String α) := do
  try return .ok (← action)
  catch e => return .error (toString e)

/-- The result of an action, unless it ends with an error. -/
def result? {α : Type} (action : IO α) : IO (Option α) :=
  return (← outcomeOf action).toOption

instance : Host IO where
  kind? p := result? do
    let found ← IO.FS.realPath p.text
    return if ← found.isDir then .directory else .file
  names p := do
    let entries ← result? do (← IO.FS.realPath p.text).readDir
    return ((entries.getD #[]).map (·.fileName)).toList
  read p := outcomeOf (IO.FS.readFile p.text)
  makeDirectories p :=
    if p.text.isEmpty then return .ok () else outcomeOf (IO.FS.createDirAll p.text)
  write p text := outcomeOf (IO.FS.writeFile p.text text)
  valuesOf names := do
    let values ← names.filterMapM fun name => return (← IO.getEnv name).map (name, ·)
    return .ofList values

end CimSchema

open CimSchema in
/-- Runs the program on the files and variables of the machine. -/
def main (words : List String) : IO UInt32 := do
  let output ← IO.getStdout
  let values : NameMap String ← Host.valuesOf colorVariables
  let outcome : Outcome ← runProgram (wantsColor values.get? (← output.isTty)) words
  output.putStr outcome.output
  (← IO.getStderr).putStr outcome.errors
  return outcome.code.toUInt32
