import CimSchema.Files.Path

/-!
# Arguments of the command line

An argument is a flag, an option with a value, or one of the two positional ones, the profile and the
language. The value of an option may be the argument after it; then the option counts only once the
next argument is read.

## Main definitions

* `Invocation` - what a command line asks for.
* `Rejection` - why a command line asks for nothing that can be run.
* `Invocation.ofArguments` - the reading of a command line.
-/

namespace CimSchema

/-- An option with a value. -/
inductive ValueOption where
  | schema
  | output
  | config
  | dumpModel
  deriving DecidableEq, Repr

/-- A flag. -/
inductive Flag where
  | sequential
  | verbose
  | quiet
  | help
  | version
  deriving DecidableEq, Repr

/-- A switch is an option or a flag. -/
inductive Switch where
  | option (o : ValueOption)
  | flag (f : Flag)
  deriving DecidableEq, Repr

/-- Why a command line asks for nothing that can be run. -/
inductive Rejection where
  | missingArgument
  | unknownArgument
  /-- Two arguments exclude each other, or one is given twice. -/
  | conflict
  /-- An option has no value, or one that is empty where it cannot be. -/
  | invalidValue
  /-- A flag has a value. -/
  | tooManyValues
  /-- The command line asks for the version. -/
  | version
  /-- The command line asks for help. -/
  | help
  deriving DecidableEq, Repr

/-- What a command line asks for. -/
structure Invocation where
  profile : String
  language : String
  /-- Patterns of schema files, in place of those of the configuration. -/
  patterns : List String := []
  /-- The directory of the output, in place of that of the configuration. -/
  output : Option Path := none
  /-- The file of the configuration. -/
  config : Option Path := none
  /-- Where the pruned model is written. -/
  dumpModel : Option Path := none
  isSequential : Bool := false
  isVerbose : Bool := false
  isQuiet : Bool := false
  deriving DecidableEq, Repr

namespace Switch

/-- The switch that two hyphens and a word stand for. -/
def ofLong? (word : String) : Option Switch :=
  match word with
  | "schema" => some (option .schema)
  | "output" => some (option .output)
  | "config" => some (option .config)
  | "dump-model" => some (option .dumpModel)
  | "sequential" => some (flag .sequential)
  | "verbose" => some (flag .verbose)
  | "quiet" => some (flag .quiet)
  | "help" => some (flag .help)
  | "version" => some (flag .version)
  | _ => none

/-- The switch that a hyphen and a letter stand for. -/
def ofShort? (letter : Char) : Option Switch :=
  match letter with
  | 's' => some (option .schema)
  | 'o' => some (option .output)
  | 'c' => some (option .config)
  | 'v' => some (flag .verbose)
  | 'q' => some (flag .quiet)
  | 'h' => some (flag .help)
  | 'V' => some (flag .version)
  | _ => none

end Switch

/-- What has been read of a command line. -/
structure Arguments where
  positional : List String := []
  values : List (ValueOption × String) := []
  flags : List Flag := []
  /-- The last option, with its value if that is read already. -/
  pending : Option (ValueOption × Option String) := none

namespace Arguments

/-- The greatest number of positional arguments. -/
def mostPositional : Nat := 2

/-- The first value of an option. -/
def value? (a : Arguments) (o : ValueOption) : Option String :=
  a.values.lookup o

/-- Takes an option with its value. Only patterns may be given several times, and only they may be
empty. -/
def addValue (a : Arguments) (o : ValueOption) (value : String) : Except Rejection Arguments :=
  if o ≠ .schema && (a.value? o).isSome then .error .conflict
  else if o ≠ .schema && value.isEmpty then .error .invalidValue
  else .ok { a with values := a.values ++ [(o, value)] }

/-- Takes the last option, if it is still to be taken. -/
def settle (a : Arguments) : Except Rejection Arguments :=
  match a.pending with
  | none => .ok a
  | some (_, none) => .error .invalidValue
  | some (o, some value) => { a with pending := none }.addValue o value

/-- Takes a flag. -/
def addFlag (a : Arguments) (f : Flag) : Except Rejection Arguments := do
  let a ← a.settle
  match f with
  | .help => .error .help
  | .version => .error .version
  | f => if a.flags.contains f then .error .conflict else .ok { a with flags := a.flags ++ [f] }

/-- Takes an option, with its value or without. -/
def addOption (a : Arguments) (o : ValueOption) (value : Option String) :
    Except Rejection Arguments := do
  let a ← a.settle
  match value with
  | some value => a.addValue o value
  | none => .ok { a with pending := some (o, none) }

/-- Takes a positional argument. -/
def addPositional (a : Arguments) (word : String) : Except Rejection Arguments := do
  if mostPositional ≤ a.positional.length then throw .unknownArgument
  let a ← a.settle
  return { a with positional := a.positional ++ [word] }

/-- Takes what follows two hyphens: a word, and a value after an equals sign. -/
def addLong (a : Arguments) (cs : List Char) : Except Rejection Arguments :=
  let (word, value) := Text.cutOff '=' cs
  match Switch.ofLong? (String.ofList word), value with
  | none, _ => .error .unknownArgument
  | some (.option o), value => a.addOption o (value.map String.ofList)
  | some (.flag f), none => a.addFlag f
  | some (.flag _), some _ => .error .tooManyValues

/-- Takes what follows one hyphen: letters of flags, and at their end one of an option, which its
value may follow, with an equals sign between them or without. -/
def addShort (a : Arguments) : List Char → Except Rejection Arguments
  | [] => .ok a
  | c :: cs =>
    match Switch.ofShort? c with
    | none => .error .unknownArgument
    | some (.flag f) => do (← a.addFlag f).addShort cs
    | some (.option o) =>
      match cs with
      | [] => a.addOption o none
      | '=' :: value => a.addOption o (some (String.ofList value))
      | value => a.addOption o (some (String.ofList value))

/-- Takes an argument that may be a switch. -/
def add (a : Arguments) (word : String) : Except Rejection Arguments :=
  match word.toList with
  | '-' :: '-' :: cs => a.addLong cs
  | '-' :: c :: cs => a.addShort (c :: cs)
  | _ =>
    match a.pending with
    | some (o, none) => .ok { a with pending := some (o, some word) }
    | _ => a.addPositional word

/-- Takes all arguments. After two hyphens alone, all are positional. -/
def addAll (a : Arguments) : List String → Except Rejection Arguments
  | [] => a.settle
  | word :: words => do
    if word = "--" then (← words.foldlM addPositional a).settle else (← a.add word).addAll words

end Arguments

/-- The invocation that a command line asks for. -/
def Invocation.ofArguments (words : List String) : Except Rejection Invocation := do
  let a ← Arguments.addAll {} words
  if a.flags.contains .verbose && a.flags.contains .quiet then throw .conflict
  match a.positional with
  | [profile, language] =>
    return {
      profile, language
      patterns := (a.values.filter (·.1 = .schema)).map Prod.snd
      output := (a.value? .output).map Path.mk
      config := (a.value? .config).map Path.mk
      dumpModel := (a.value? .dumpModel).map Path.mk
      isSequential := a.flags.contains .sequential
      isVerbose := a.flags.contains .verbose
      isQuiet := a.flags.contains .quiet }
  | _ => throw .missingArgument

end CimSchema
