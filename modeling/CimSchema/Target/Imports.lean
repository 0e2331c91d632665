import CimSchema.Name.Map
import CimSchema.Name.Set
import CimSchema.Text.Segment

/-!
# Imports

## Main definitions

* `Imports` - items by module, and direct imports.
* `Imports.add`, `Imports.addDirect` - one more import.
* `Imports.pythonLines`, `Imports.javaLines`, `Imports.cppLines` - the import lines, and
  `Imports.python`, `Imports.java`, `Imports.cpp`, the same as a block.
-/

namespace CimSchema

/-- Items by module, and direct imports. -/
structure Imports where
  modules : NameMap NameSet := .empty
  direct : NameSet := .empty

namespace Imports

/-- Adds an item of a module. -/
def add (i : Imports) (module item : String) : Imports :=
  { i with modules := i.modules.insert module (((i.modules.get? module).getD .empty).insert item) }

/-- Adds a direct import. -/
def addDirect (i : Imports) (item : String) : Imports :=
  { i with direct := i.direct.insert item }

/-- Whether nothing is imported. -/
def isEmpty (i : Imports) : Bool :=
  i.modules.isEmpty && i.direct.isEmpty

/-- Whether a module is found relative to the package. -/
def isRelative (module : String) : Bool :=
  (Text.stripStart? "." module).isSome

/-- One line for each module, those of the package last, then the direct imports. -/
def pythonLines (i : Imports) : List String :=
  let line (e : String × NameSet) : String :=
    "from " ++ e.1 ++ " import " ++ ", ".intercalate e.2.toList
  let outside := i.modules.toList.filter fun e => !isRelative e.1
  let inside := i.modules.toList.filter fun e => isRelative e.1
  (outside ++ inside).map line ++ i.direct.toList

/-- The block of a Python module. -/
def python (i : Imports) : String :=
  "\n".intercalate i.pythonLines

/-- One line for each item, then the direct imports. -/
def javaLines (i : Imports) : List String :=
  i.modules.toList.flatMap (fun e => e.2.toList.map fun item => "import " ++ e.1 ++ "." ++ item ++ ";")
    ++ i.direct.toList

/-- The block of a Java file. -/
def java (i : Imports) : String :=
  "\n".intercalate i.javaLines

/-- The system headers, which are the direct imports, and then the modules. -/
def cppLines (i : Imports) : List String :=
  i.direct.toList.map (fun header => "#include <" ++ header ++ ">")
    ++ i.modules.keys.map fun header => "#include \"" ++ header ++ "\""

/-- The block of a C++ file. -/
def cpp (i : Imports) : String :=
  "\n".intercalate i.cppLines

end Imports

end CimSchema
