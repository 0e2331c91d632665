import CimSchema.Config.Basic
import CimSchema.Model.Basic

/-!
# The source text of a model

## Main definitions

* `ClassOutput` - the files of one class.
* `Config.classOutput` - the files of a class, or why it has none.
* `Config.outputs`, `Config.outputErrors` - the same for all classes of a model.
* `Config.indexFile` - the file that lists the classes.
-/

namespace CimSchema

/-- The files of one class. -/
structure ClassOutput where
  name : String
  shape : Shape
  files : List SourceFile
  deriving DecidableEq

namespace Config

/-- The files of a class in a language. -/
def classOutput (c : Config) (language : Language) (r : ClassRecord) :
    Except RenderError ClassOutput := do
  let view ← ClassView.ofRecord (c.types language) r
  return ⟨r.name, view.shape, language.classFiles view c.options⟩

/-- The files of the classes that can be written, in the order of the model. -/
def outputs (c : Config) (language : Language) (model : Model) : List ClassOutput :=
  model.classes.filterMap fun r => (c.classOutput language r).toOption

/-- The single errors of the classes that cannot be written, in the order of the model. -/
def outputErrors (c : Config) (language : Language) (model : Model) : List Error :=
  model.classes.flatMap fun r =>
    match c.classOutput language r with
    | .ok _ => []
    | .error e => e.toError.leaves

/-- The file that lists the classes that have files. -/
def indexFile (c : Config) (language : Language) (outputs : List ClassOutput) : SourceFile :=
  let listed := outputs.filter (!·.files.isEmpty)
  language.indexFile (listed.map fun o => (o.name, o.shape)) c.options

end Config

end CimSchema
