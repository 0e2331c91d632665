import CimSchema.Declaration
import CimSchema.FirstSeen
import CimSchema.Model.Record

/-!
# Merging class declarations

A class may be declared in several files. The declarations of one name are merged in the order of
the files: what an earlier one states is kept, and what it leaves open is taken from a later one.

## Main definitions

* `MergedClass` - what the declarations of a class say together.
* `ClassTable` - the classes of some files, in order of first appearance.
* `ClassTable.ofDocuments` - the table of some files.
-/

namespace CimSchema

/-- The primitives that need no declaration. -/
def builtinPrimitives : List String :=
  ["String", "Integer", "Boolean", "Float", "Decimal", "Date", "DateTime", "Time", "MonthDay",
    "Duration"]

/-- What the declarations of a class say together. -/
structure MergedClass where
  base : Option String := none
  stereotypes : List String := []
  documentation : Option String := none
  package : Option String := none
  /-- The keywords of the declaring files. -/
  origins : List String := []
  declared : Bool := false
  /-- Whether the class is a built-in primitive that is only referred to. -/
  inferred : Bool := false
  /-- Whether some enumeration value belongs to the class. -/
  hasValues : Bool := false
  deriving DecidableEq, Repr

namespace MergedClass

/-- Appends a stereotype unless it is there already, in any case of ASCII letters. -/
def addStereotype (stereotypes : List String) (s : String) : List String :=
  if hasStereotype stereotypes s then stereotypes else stereotypes ++ [s]

/-- Merges a declaration from a file with the keyword `origin`. -/
def declare (c : MergedClass) (origin : Option String) (d : ClassDeclaration) : MergedClass :=
  { c with
    base := c.base <|> d.superClass
    stereotypes := d.stereotypes.foldl addStereotype c.stereotypes
    documentation := c.documentation <|> d.comment
    package := c.package <|> d.package
    origins := origin.toList.foldl addNew c.origins
    declared := true }

/-- The shape of the class. Stereotypes come before inference, and a class with values is an
enumeration unless it is a primitive or a measured quantity. -/
def kind (c : MergedClass) : ClassKind :=
  if hasStereotype c.stereotypes "Primitive" then .primitive
  else if hasStereotype c.stereotypes "CIMDatatype" then .datatype
  else if hasStereotype c.stereotypes "enumeration" || c.hasValues then .enumeration
  else if hasStereotype c.stereotypes "Compound" then .compound
  else if c.inferred then .primitive
  else .regular

end MergedClass

/-- The classes of some files, in order of first appearance. -/
abbrev ClassTable := FirstSeen String MergedClass

namespace ClassTable

/-- Adds the class declarations of a file. -/
def addClasses (t : ClassTable) (d : Document) : ClassTable :=
  d.classes.foldl (fun t c => t.upsert c.id {} (·.declare d.keyword c)) t

/-- Adds the enumerations that values of a file belong to. -/
def addEnumerations (t : ClassTable) (d : Document) : ClassTable :=
  d.values.foldl (fun t v => t.upsert v.enumeration {} ({ · with hasValues := true })) t

/-- Adds a built-in primitive that the table does not hold. -/
def inferPrimitive (t : ClassTable) (name : String) : ClassTable :=
  if t.contains name || !builtinPrimitives.contains name then t
  else t.upsert name {} ({ · with inferred := true })

/-- Adds the built-in primitives that properties of a file have as type. -/
def addPrimitives (t : ClassTable) (d : Document) : ClassTable :=
  d.properties.foldl (fun t p => p.valueType.toList.foldl inferPrimitive t) t

/-- The classes of some files; built-in primitives need no declaration if `infer` holds. -/
def ofDocuments (infer : Bool) (documents : List Document) : ClassTable :=
  let declared := documents.foldl addClasses {}
  let owned := documents.foldl addEnumerations declared
  if infer then documents.foldl addPrimitives owned else owned

/-- The shape of the class `name`. -/
def kind? (t : ClassTable) (name : String) : Option ClassKind :=
  (t.get? name).map (·.kind)

end ClassTable

end CimSchema
