import CimSchema.Target.ClassView
import CimSchema.Target.Imports
import CimSchema.Target.Layout

/-!
# Python source

Each class has a module of its own. Classes are dataclasses, enumerations derive from `str` and
`Enum`, and primitives are aliases.

## Main definitions

* `Python.classFile` - the module of a class.
* `Python.indexFile` - the package file that imports every class.
-/

namespace CimSchema.Python

/-- Three double quotes. -/
def tripleQuote : String := "\"\"\""

/-- A line inside a docstring, where three double quotes in a row are escaped. -/
def docstringLine (line : String) : String :=
  Text.replace tripleQuote "\\\"\\\"\\\"" line

/-- The docstring of a class, if it has documentation to write. -/
def docstring (o : Options) (text : Option String) : List String :=
  match text with
  | none => []
  | some text =>
    if o.includeDocs && !Text.isBlankText text then
      let quotes := o.indent.level 1 ++ tripleQuote
      [quotes] ++ (documentation text "" o.indent 1 o.lineWidth).map docstringLine ++ [quotes, ""]
    else []

/-- The name of a field. -/
def fieldName (name : String) : String :=
  Language.python.enumerator name

/-- One entry of a field's metadata. -/
def metadataEntry (entry : String × String) : String :=
  "\"" ++ entry.1 ++ "\": " ++ Text.quote entry.2

/-- The value of a field: its default, or a call of `field` where it has metadata. -/
def fieldValue (default : Option String) (metadata : List (String × String)) : String :=
  let value := default.getD "None"
  if metadata.isEmpty then value
  else
    let data := "metadata=\x7b" ++ ", ".intercalate (metadata.map metadataEntry) ++ "\x7d"
    match (Text.stripStart? "field(" value).bind (Text.stripEnd? ")") with
    | some arguments => "field(" ++ arguments ++ ", " ++ data ++ ")"
    | none => "field(default=" ++ value ++ ", " ++ data ++ ")"

/-- The line of an attribute. -/
def attributeLine (a : AttributeView) : String :=
  let metadata := (a.unit.map (("unit", ·))).toList ++ (a.multiplier.map (("multiplier", ·))).toList
  fieldName a.name ++ ": " ++ a.targetType ++ " = " ++ fieldValue a.default metadata

/-- The line of an association. -/
def associationLine (a : AssociationView) : String :=
  let metadata := ("type", a.target) :: (a.inverse.map (("inverse", ·))).toList
  fieldName a.name ++ ": " ++ a.targetType ++ " = " ++ fieldValue a.default metadata

/-- The lines of all fields. -/
def fieldLines (v : ClassView) : List String :=
  v.attributes.map attributeLine ++ v.associations.map associationLine

/-- The imports of the base and of the classes that attributes name. -/
def classImports (v : ClassView) : Imports :=
  let imports : Imports := ({} : Imports).add "dataclasses" "dataclass"
  let imports := v.base.toList.foldl (fun i base => i.add ("." ++ base) base) imports
  v.attributes.foldl
    (fun i a =>
      if a.isEnumeration || a.itemType = a.schemaType then
        i.add ("." ++ a.schemaType) a.schemaType
      else i)
    imports

/-- Adds the imports that the text of a field needs. -/
def addLineImports (i : Imports) (line : String) : Imports :=
  let i := if Text.holds "field(" line then i.add "dataclasses" "field" else i
  let i := if Text.holds "List[" line then i.add "typing" "List" else i
  if Text.holds "Optional[" line then i.add "typing" "Optional" else i

/-- The imports of a class. -/
def imports (v : ClassView) : Imports :=
  (fieldLines v).foldl addLineImports (classImports v)

/-- A class with fields. -/
def classLines (v : ClassView) (o : Options) : List String :=
  let bases := match v.base with
    | some base => "(" ++ base ++ ")"
    | none => ""
  let fields := match fieldLines v with
    | [] => ["pass"]
    | lines => lines
  (imports v).pythonLines
    ++ ["", "", "@dataclass", "class " ++ v.className ++ bases ++ ":"]
    ++ docstring o v.documentation
    ++ fields.map (o.indent.level 1 ++ ·)

/-- The line of a value: its identifier, and its name as a string. -/
def enumeratorLine (value : EnumValue) : String :=
  Language.python.enumerator value.name ++ " = " ++ Text.quote value.name

/-- An enumeration. -/
def enumerationLines (v : ClassView) (o : Options) : List String :=
  let values := match v.enumValues with
    | [] => ["pass"]
    | values => values.map enumeratorLine
  ["from enum import Enum", "", "", "class " ++ v.className ++ "(str, Enum):"]
    ++ docstring o v.documentation
    ++ values.map (o.indent.level 1 ++ ·)

/-- The line that makes the class of a primitive an alias of its type. -/
def aliasLine (v : ClassView) : String :=
  v.className ++ " = " ++ v.primitiveType.getD "str"

/-- An alias of a primitive. -/
def primitiveLines (v : ClassView) (o : Options) : List String :=
  let docs := match v.documentation with
    | some text => if o.includeDocs then documentation text "# " o.indent 0 o.lineWidth else []
    | none => []
  docs ++ [aliasLine v]

/-- A field that may have a fixed text. -/
def fixedLine (name : String) (fixed : Option String) : String :=
  match fixed with
  | some text => name ++ ": str = " ++ Text.quote text
  | none => name ++ ": Optional[str] = None"

/-- A measured quantity. -/
def datatypeLines (v : ClassView) (o : Options) : List String :=
  let imports := (({} : Imports).add "dataclasses" "dataclass").add "typing" "Optional"
  let value := "value: Optional[" ++ v.primitiveType.getD "float" ++ "] = None"
  imports.pythonLines
    ++ ["", "", "@dataclass", "class " ++ v.className ++ ":"]
    ++ docstring o v.documentation
    ++ [value, fixedLine "unit" v.unit, fixedLine "multiplier" v.multiplier].map
        (o.indent.level 1 ++ ·)

/-- The lines of the module of a class. -/
def moduleLines (v : ClassView) (o : Options) : List String :=
  match v.shape with
  | .rootClass | .derivedClass => classLines v o
  | .enumeration => enumerationLines v o
  | .primitive => primitiveLines v o
  | .datatype => datatypeLines v o

/-- The module of a class. -/
def classFile (v : ClassView) (o : Options) : SourceFile :=
  ⟨v.className ++ ".py", linesText (moduleLines v o)⟩

/-- The package file that imports every class. -/
def indexFile (names : List String) : SourceFile :=
  ⟨"__init__.py", linesText (names.map fun name => "from ." ++ name ++ " import " ++ name)⟩

end CimSchema.Python
