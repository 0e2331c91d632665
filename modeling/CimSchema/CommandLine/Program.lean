import CimSchema.CommandLine.Arguments
import CimSchema.Config.File
import CimSchema.Files.Search
import CimSchema.Generation.Run

/-!
# The program

## Main definitions

* `Invocation.run` - the generation run that an invocation asks for.
* `Outcome` - what a program prints, and how it ends.
* `runProgram` - the outcome of a command line.
-/

namespace CimSchema

variable {m : Type → Type} [Monad m] [Host m]

/-- The configuration with what an invocation puts in the place of its settings. -/
def Invocation.adjust (i : Invocation) (c : Config) : Config :=
  { c with
    patterns := if i.patterns.isEmpty then c.patterns else i.patterns
    directory := i.output.getD c.directory
    parallel := c.parallel && !i.isSequential }

/-- The configuration of an invocation. -/
def Invocation.configuration (i : Invocation) : Step m Config := do
  match i.config with
  | some p => return i.adjust (← Config.load p)
  | none => return i.adjust {}

/-- The generation run that an invocation asks for. -/
def Invocation.run (i : Invocation) : Step m Report := do
  let c ← i.configuration
  let language ← Step.ofExcept id (Language.ofName i.language)
  let profile ← Profile.ofIdentifier c i.profile
  let files ← schemaFiles c.patterns
  c.generate { schemaFiles := files, profile, language, dump := i.dumpModel }

/-- What a program prints, and how it ends. -/
structure Outcome where
  /-- The number that it ends with; zero stands for success. -/
  code : Nat
  output : String := ""
  errors : String := ""
  deriving DecidableEq, Repr

/-- A text in a style of the terminal, if styles are wanted. -/
def styled (useColor : Bool) (style text : String) : String :=
  if useColor then "\x1b[" ++ style ++ "m" ++ text ++ "\x1b[0m" else text

/-- The variables that tell whether styles are wanted. -/
def colorVariables : List String :=
  ["CLICOLOR", "CLICOLOR_FORCE", "NO_COLOR"]

/-- Whether styles are wanted. They can be forced and turned off; otherwise a terminal has them. -/
def wantsColor (value? : String → Option String) (isTerminal : Bool) : Bool :=
  if (value? "CLICOLOR_FORCE").any (· ≠ "0") then true
  else if (value? "NO_COLOR").isSome then false
  else isTerminal && (value? "CLICOLOR").all (· ≠ "0")

/-- What is printed of a run that worked. -/
def Report.summary (r : Report) (useColor : Bool) : String :=
  styled useColor "32" "✓" ++ s!" Generated {r.files.length} files for {r.classCount} classes\n"

/-- What is printed of an error: its single errors, and their number if there are several. -/
def Error.report (e : Error) (useColor : Bool) : String :=
  let lines := e.leaves.map fun e => styled useColor "1;31" "error:" ++ " " ++ e.message
  let count := if 1 < e.leaves.length then
      [styled useColor "31" s!"{e.leaves.length} errors"]
    else []
  linesText (lines ++ count)

/-- The name and version of the program. -/
def versionText : String := "cimgen 0.1.0"

/-- How the program is used. -/
def usageText : String :=
  "Usage: cimgen [OPTIONS] <PROFILE> <LANGUAGE>"

/-- What is printed when help is asked for. -/
def helpText : String :=
  linesText [
    "Generate source code from CIM/CGMES RDF schemas",
    "",
    usageText,
    "",
    "Arguments:",
    "  <PROFILE>   Profile file, configured profile name, `all`, or schema keyword such as `EQ`",
    "  <LANGUAGE>  Target language: python, java or cpp",
    "",
    "Options:",
    "  -s, --schema <GLOB>      Schema files (glob patterns, repeatable)",
    "  -o, --output <DIR>       Output directory",
    "  -c, --config <FILE>      Configuration file",
    "      --dump-model <FILE>  Write the filtered model as JSON",
    "      --sequential         Render classes on a single thread",
    "  -v, --verbose            Enable verbose output",
    "  -q, --quiet              Only print errors",
    "  -h, --help               Print help",
    "  -V, --version            Print version"]

/-- The rejection as it is put to the user. -/
def Rejection.message : Rejection → String
  | missingArgument => "a required argument was not provided"
  | unknownArgument => "unexpected argument found"
  | conflict => "an argument cannot be used with one of the other arguments, or several times"
  | invalidValue => "a value is required for an option but none was supplied"
  | tooManyValues => "an unexpected value was found"
  | version => versionText
  | help => helpText

/-- The outcome of a command line that asks for nothing that can be run. -/
def Rejection.outcome (r : Rejection) : Outcome :=
  match r with
  | version => { code := 0, output := versionText ++ "\n" }
  | help => { code := 0, output := helpText }
  | r => { code := 2, errors := linesText ["error: " ++ r.message, "", usageText] }

/-- The outcome of a run. -/
def Invocation.outcome (i : Invocation) (useColor : Bool) : Except Error Report → Outcome
  | .ok r => { code := 0, output := if i.isQuiet then "" else r.summary useColor }
  | .error e => { code := 1, errors := e.report useColor }

/-- The outcome of a command line. -/
def runProgram (useColor : Bool) (words : List String) : m Outcome := do
  match Invocation.ofArguments words with
  | .error r => return r.outcome
  | .ok i => return i.outcome useColor (← i.run.run)

end CimSchema
