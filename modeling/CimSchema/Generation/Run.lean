import CimSchema.Files.Host
import CimSchema.Generation.Output
import CimSchema.Load.Files
import CimSchema.Model.Json
import CimSchema.Profile.Prune
import CimSchema.Resolve.Model

/-!
# Generation runs

A run loads schema files, resolves them to a model, prunes the model to a profile and writes source
text for what is left. Nothing is written before there is a model with classes. A class that cannot be
written does not keep the others from being written.

## Main definitions

* `Request` - what is to be generated, and `Report` - what was.
* `Request.model` - the model that source text is written for.
* `Config.generate` - the run.
-/

namespace CimSchema

/-- What is to be generated. -/
structure Request where
  schemaFiles : List Path
  profile : Profile
  language : Language
  /-- Where the pruned model is written as JSON, if anywhere. -/
  dump : Option Path := none

/-- What a run that worked has written. -/
structure Report where
  language : Language
  /-- The name of the profile. -/
  profile : String
  /-- The number of classes that are left after pruning. -/
  classCount : Nat
  /-- The files that were written, in the order of their paths. -/
  files : List Path
  deriving DecidableEq, Repr

variable {m : Type → Type} [Monad m] [Host m]

/-- The pruned model of a request, which has to have a class. -/
def Request.model (r : Request) : Step m Model := do
  Step.ofExcept ProfileFault.toError r.profile.check
  let documents ← (loadFiles (m := m) r.schemaFiles).adapt LoadError.toError
  let model ← Step.ofExcept id (Model.ofDocuments .inferring documents)
  let pruned := r.profile.prune model
  if pruned.isEmpty then throw (ProfileFault.selectsNothing r.profile.name).toError
  else return pruned

/-- Makes the directories that a path leads through. -/
def makeAround (p : Path) : Step m Unit :=
  match p.parent? with
  | some around => Step.requireFile (Host.makeDirectories around)
  | none => pure ()

/-- Writes a file, after making the directories that it is in. -/
def writeFile (p : Path) (content : String) : Step m Unit := do
  makeAround p
  Step.requireFile (Host.write p content)

/-- Writes a model as JSON where a request wants it. -/
def Request.writeDump (r : Request) (model : Model) : Step m Unit :=
  match r.dump with
  | some p => writeFile p model.toJson.pretty
  | none => pure ()

/-- Writes a file of source text into a directory, and gives its path. -/
def writeSource (directory : Path) (f : SourceFile) : Step m Path := do
  let p := directory.join ⟨f.filename⟩
  writeFile p f.content
  return p

namespace Config

/-- Writes the source text of a model: the files of each class, and then the file that lists them.
Gives the paths in the order of writing. -/
def writeOutputs (c : Config) (language : Language) (outputs : List ClassOutput) :
    Step m (List Path) := do
  let directory := c.languageDirectory language
  Step.requireFile (Host.makeDirectories directory)
  (outputs.flatMap (·.files) ++ [c.indexFile language outputs]).mapM (writeSource directory)

/-- Generates what is requested. -/
def generate (c : Config) (r : Request) : Step m Report := do
  let model ← r.model
  r.writeDump model
  let written ← c.writeOutputs r.language (c.outputs r.language model)
  Step.ofExcept id (Error.ofList (c.outputErrors r.language model))
  return {
    language := r.language
    profile := r.profile.name
    classCount := model.size
    files := Path.sort written }

end Config

end CimSchema
