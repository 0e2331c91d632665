import CimSchema.Target.Cpp
import CimSchema.Target.Java
import CimSchema.Target.Python

/-!
# Source text in each language

## Main definitions

* `Language.classFiles` - the files of a class.
* `Language.indexFile` - the file that lists all classes.
-/

namespace CimSchema.Language

/-- The files of a class. -/
def classFiles (language : Language) (v : ClassView) (o : Options) : List SourceFile :=
  match language with
  | python => [Python.classFile v o]
  | java => Java.classFiles v o
  | cpp => Cpp.classFiles v o

/-- The file that lists all classes. -/
def indexFile (language : Language) (classes : List (String × Shape)) (o : Options) : SourceFile :=
  match language with
  | python => Python.indexFile (classes.map Prod.fst)
  | java => Java.indexFile classes o
  | cpp => Cpp.indexFile (classes.map Prod.fst)

end CimSchema.Language
