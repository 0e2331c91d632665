import CimSchema.Files.Host
import CimSchema.Load.Text

/-!
# Documents of files

## Main definitions

* `loadFile`, `loadFiles` - the documents that schema files make up.
-/

namespace CimSchema

variable {m : Type → Type} [Monad m] [Host m]

/-- The document that a schema file makes up. -/
def loadFile (p : Path) : ExceptT LoadError m Document := do
  let content ← Host.read p
  liftExcept do Document.ofText {} p.text (← content.mapError (.io p.text))
where
  /-- The outcome of a step that needs no files. -/
  liftExcept (outcome : Except LoadError Document) : ExceptT LoadError m Document :=
    ExceptT.mk (pure outcome)

/-- The documents of schema files in the order of their paths, each once. The first file that cannot
be loaded stops it. -/
def loadFiles (ps : List Path) : ExceptT LoadError m (List Document) :=
  (Path.sortDistinct ps).mapM loadFile

end CimSchema
