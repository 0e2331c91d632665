import CimSchema.Target.ClassView
import CimSchema.Target.Imports
import CimSchema.Target.Layout

/-!
# Java source

Classes and enumerations have a file each. Primitives and measured quantities are spelled as
library types and have none.

## Main definitions

* `Java.classFiles` - the file of a class, if it has one.
* `Java.indexFile` - the map from names to constructors.
-/

namespace CimSchema.Java

/-- The package of generated classes. -/
def packageName (o : Options) : String :=
  o.package.getD "cim"

/-- The variable of a member. It is neither reserved nor the name of its class. -/
def variableName (className label : String) : String :=
  if label = className || Language.java.reserved.contains label then label ++ "_" else label

/-- The part of a member's accessors after `get` and `set`. The label `Name` has an underscore in
front, apart from the label `name`. -/
def accessorName (label : String) : String :=
  match label.toList with
  | c :: _ =>
    if Text.isLowerLetter c then Text.capitalize label
    else if label = "Name" then "_" ++ label
    else label
  | [] => label

/-- A documentation comment of some paragraphs. -/
def javadoc (o : Options) (level : Nat) (paragraphs : List String) : List String :=
  if o.includeDocs && !paragraphs.isEmpty then
    let pad := o.indent.level level
    [pad ++ "/**"]
      ++ paragraphs.flatMap (fun text => documentation text " * " o.indent level o.lineWidth)
      ++ [pad ++ " */"]
  else []

/-- A member as it is written. -/
structure Field where
  variableName : String
  accessor : String
  type : String
  default : Option String
  documentation : List String
  deriving DecidableEq, Repr

/-- The field of an attribute. -/
def attributeField (className : String) (a : AttributeView) : Field where
  variableName := variableName className a.name
  accessor := accessorName a.name
  type := a.targetType
  default := a.default
  documentation := a.documentation.toList ++ (a.unit.map fun unit =>
    a.schemaType ++ " in " ++ unit ++ " (multiplier " ++ a.multiplier.getD "none" ++ ").").toList

/-- The field of an association. -/
def associationField (className : String) (a : AssociationView) : Field where
  variableName := variableName className a.name
  accessor := accessorName a.name
  type := a.targetType
  default := a.default
  documentation := a.documentation.toList
    ++ (a.inverse.map fun inverse => "Inverse of " ++ inverse ++ ".").toList

/-- The fields of a class. -/
def fields (v : ClassView) : List Field :=
  v.attributes.map (attributeField v.className) ++ v.associations.map (associationField v.className)

/-- The declaration of a field. -/
def declarationLines (o : Options) (f : Field) : List String :=
  let initial := match f.default with
    | some value => " = " ++ value
    | none => ""
  [""] ++ javadoc o 1 f.documentation
    ++ [o.indent.level 1 ++ "private " ++ f.type ++ " " ++ f.variableName ++ initial ++ ";"]

/-- The two accessors of a field. -/
def accessorLines (o : Options) (f : Field) : List String :=
  let one := o.indent.level 1
  let two := o.indent.level 2
  ["", one ++ "public " ++ f.type ++ " get" ++ f.accessor ++ "() \x7b",
    two ++ "return " ++ f.variableName ++ ";", one ++ "\x7d",
    "", one ++ "public void set" ++ f.accessor ++ "(" ++ f.type ++ " value) \x7b",
    two ++ "this." ++ f.variableName ++ " = value;", one ++ "\x7d"]

/-- The imports of a class. -/
def imports (v : ClassView) : Imports :=
  if (fields v).any fun f => (Text.stripStart? "List<" f.type).isSome then
    (({} : Imports).add "java.util" "ArrayList").add "java.util" "List"
  else {}

/-- A class. -/
def classLines (v : ClassView) (o : Options) : List String :=
  let imports := imports v
  let extending := match v.base with
    | some base => " extends " ++ base
    | none => ""
  let one := o.indent.level 1
  ["package " ++ packageName o ++ ";", ""]
    ++ (if imports.isEmpty then [] else imports.javaLines ++ [""])
    ++ javadoc o 0 v.documentation.toList
    ++ ["public class " ++ v.className ++ extending ++ " \x7b"]
    ++ (fields v).flatMap (declarationLines o)
    ++ ["", one ++ "public " ++ v.className ++ "() \x7b", one ++ "\x7d"]
    ++ (fields v).flatMap (accessorLines o)
    ++ ["\x7d"]

/-- The values of an enumeration, a comma after each but the last, which has a semicolon. -/
def valueLines (o : Options) : List EnumValue → List String
  | [] => []
  | value :: rest =>
    javadoc o 1 value.documentation.toList
      ++ [o.indent.level 1 ++ Language.java.enumerator value.name
          ++ (if rest.isEmpty then ";" else ",")]
      ++ valueLines o rest

/-- An enumeration. -/
def enumerationLines (v : ClassView) (o : Options) : List String :=
  ["package " ++ packageName o ++ ";", ""]
    ++ javadoc o 0 v.documentation.toList
    ++ ["public enum " ++ v.className ++ " \x7b"]
    ++ valueLines o v.enumValues
    ++ ["\x7d"]

/-- The file of a class, if it has one. -/
def classFiles (v : ClassView) (o : Options) : List SourceFile :=
  match v.shape with
  | .primitive | .datatype => []
  | .enumeration => [⟨v.className ++ ".java", linesText (enumerationLines v o)⟩]
  | .rootClass | .derivedClass => [⟨v.className ++ ".java", linesText (classLines v o)⟩]

/-- The map from the names of classes that can be constructed to their constructors. -/
def indexFile (classes : List (String × Shape)) (o : Options) : SourceFile :=
  let one := o.indent.level 1
  let two := o.indent.level 2
  let entries := (classes.filter (·.2 ≠ .enumeration)).map fun (name, _) =>
    two ++ "CLASSES.put(\"" ++ name ++ "\", " ++ name ++ "::new);"
  ⟨"CimClassMap.java", linesText
    (["package " ++ packageName o ++ ";", "", "import java.util.Map;", "import java.util.TreeMap;",
        "import java.util.function.Supplier;", "", "public final class CimClassMap \x7b",
        one ++ "public static final Map<String, Supplier<Object>> CLASSES = new TreeMap<>();",
        "", one ++ "static \x7b"]
      ++ entries
      ++ [one ++ "\x7d", "", one ++ "private CimClassMap() \x7b", one ++ "\x7d", "\x7d"])⟩

end CimSchema.Java
