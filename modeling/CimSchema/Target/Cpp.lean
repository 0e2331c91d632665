import CimSchema.Target.ClassView
import CimSchema.Target.Imports
import CimSchema.Target.Layout

/-!
# C++ source

Classes have a header and a source file in the namespace `CIMPP`. Enumerations, primitives and
measured quantities have a header only.

## Main definitions

* `Cpp.classFiles` - the files of a class.
* `Cpp.indexFile` - the header that includes every other.
-/

namespace CimSchema.Cpp

/-- The namespace of generated classes. -/
def namespaceName : String := "CIMPP"

/-- The name of a member, with an underscore in front of reserved words. -/
def memberName (label : String) : String :=
  Text.avoidWords Language.cpp.reserved label

/-- The lines that open a header. -/
def guardLines (className : String) : List String :=
  let guard := namespaceName ++ "_" ++ Text.upperSnake className ++ "_HPP"
  ["#ifndef " ++ guard, "#define " ++ guard, ""]

/-- A comment, if there is documentation to write. -/
def docBlock (o : Options) (level : Nat) (text : Option String) : List String :=
  match text with
  | none => []
  | some text =>
    if o.includeDocs && !Text.isBlankText text then
      let pad := o.indent.level level
      [pad ++ "/*"] ++ documentation text "" o.indent level o.lineWidth ++ [pad ++ "*/"]
    else []

/-- A member as it is written. -/
structure Field where
  name : String
  type : String
  default : Option String
  comment : Option String
  deriving DecidableEq, Repr

/-- The field of an attribute. -/
def attributeField (a : AttributeView) : Field where
  name := memberName a.name
  type := a.targetType
  default := a.default
  comment := a.unit.map fun unit =>
    "Unit: " ++ unit ++ ", multiplier: " ++ a.multiplier.getD "none"

/-- The field of an association. -/
def associationField (a : AssociationView) : Field where
  name := memberName a.name
  type := a.targetType
  default := a.default
  comment := a.inverse.map ("Inverse: " ++ ·)

/-- The fields of a class. -/
def fields (v : ClassView) : List Field :=
  v.attributes.map attributeField ++ v.associations.map associationField

/-- Adds the system headers that a type needs. -/
def addTypeHeaders (i : Imports) (type : String) : Imports :=
  let i := if Text.holds "std::list" type then i.addDirect "list" else i
  if Text.holds "std::string" type then i.addDirect "string" else i

/-- What the header of a class includes. -/
def headerIncludes (v : ClassView) : Imports :=
  let includes := v.base.toList.foldl (fun i base => i.add (base ++ ".hpp") base) ({} : Imports)
  let includes := v.attributes.foldl
    (fun i a =>
      if (Text.stripStart? namespaceName a.itemType).isSome then
        i.add (a.schemaType ++ ".hpp") a.schemaType
      else i)
    includes
  let types := v.attributes.map (·.targetType) ++ v.associations.map (·.targetType)
  types.foldl addTypeHeaders includes

/-- The other classes that associations lead to, in increasing order. -/
def targets (v : ClassView) : List String :=
  (NameSet.ofList ((v.associations.map (·.target)).filter (· ≠ v.className))).toList

/-- The line of a field in its class. -/
def fieldLine (pad : String) (f : Field) : String :=
  let comment := match f.comment with
    | some text => "  /* " ++ text ++ " */"
    | none => ""
  pad ++ f.type ++ " " ++ f.name ++ ";" ++ comment

/-- The header of a class. -/
def headerLines (v : ClassView) (o : Options) : List String :=
  let one := o.indent.level 1
  let two := o.indent.level 2
  let includes := headerIncludes v
  let forward := (targets v).map fun target => one ++ "class " ++ target ++ ";"
  let inherits := match v.base with
    | some base => " : public " ++ base
    | none => ""
  let virtualWord := if v.base.isSome then "" else "virtual "
  let overrideWord := if v.base.isSome then " override" else ""
  let members := (fields v).map (fieldLine two)
  guardLines v.className
    ++ (if includes.isEmpty then [] else includes.cppLines ++ [""])
    ++ ["namespace " ++ namespaceName, "\x7b"]
    ++ (if forward.isEmpty then [] else forward ++ [""])
    ++ docBlock o 1 v.documentation
    ++ [one ++ "class " ++ v.className ++ inherits, one ++ "\x7b", one ++ "public:",
        two ++ v.className ++ "();",
        two ++ virtualWord ++ "~" ++ v.className ++ "()" ++ overrideWord ++ ";"]
    ++ (if members.isEmpty then [] else "" :: members)
    ++ ["", two ++ "static const char debugName[];",
        two ++ virtualWord ++ "const char* debugString() const" ++ overrideWord ++ ";",
        one ++ "\x7d;", "\x7d", "#endif"]

/-- What the constructor of a class sets, the base first. -/
def initializers (v : ClassView) : List String :=
  v.base.toList.map (· ++ "()")
    ++ (fields v).filterMap fun f => f.default.map fun value => f.name ++ "(" ++ value ++ ")"

/-- The source file of a class. -/
def sourceLines (v : ClassView) (o : Options) : List String :=
  let name := v.className
  let includes := (targets v).map fun target => "#include \"" ++ target ++ ".hpp\""
  let initial := initializers v
  ["#include \"" ++ name ++ ".hpp\""]
    ++ (if includes.isEmpty then [] else "" :: includes)
    ++ ["", "using namespace " ++ namespaceName ++ ";", "",
        name ++ "::" ++ name ++ "()"
          ++ (if initial.isEmpty then "" else " : " ++ ", ".intercalate initial) ++ " \x7b\x7d",
        name ++ "::~" ++ name ++ "() \x7b\x7d", "",
        "const char " ++ name ++ "::debugName[] = \"" ++ name ++ "\";",
        "const char* " ++ name ++ "::debugString() const", "\x7b",
        o.indent.level 1 ++ "return " ++ name ++ "::debugName;", "\x7d"]

/-- The values of an enumeration. -/
def valueLines (o : Options) (value : EnumValue) : List String :=
  docBlock o 2 value.documentation
    ++ [o.indent.level 2 ++ Language.cpp.enumerator value.name ++ ","]

/-- The header of an enumeration. -/
def enumerationLines (v : ClassView) (o : Options) : List String :=
  let one := o.indent.level 1
  guardLines v.className
    ++ ["namespace " ++ namespaceName, "\x7b"]
    ++ docBlock o 1 v.documentation
    ++ [one ++ "enum class " ++ v.className, one ++ "\x7b"]
    ++ v.enumValues.flatMap (valueLines o)
    ++ [one ++ "\x7d;", "\x7d", "#endif"]

/-- The header of a primitive. -/
def primitiveLines (v : ClassView) (o : Options) : List String :=
  let type := v.primitiveType.getD "std::string"
  guardLines v.className
    ++ (if Text.holds "std::string" type then ["#include <string>", ""] else [])
    ++ ["namespace " ++ namespaceName, "\x7b"]
    ++ docBlock o 1 v.documentation
    ++ [o.indent.level 1 ++ "using " ++ v.className ++ " = " ++ type ++ ";", "\x7d", "#endif"]

/-- A constant that may have a fixed text. -/
def constantLine (pad name : String) (fixed : Option String) : String :=
  let value := match fixed with
    | some text => Text.quote text
    | none => "nullptr"
  pad ++ "static constexpr const char* " ++ name ++ " = " ++ value ++ ";"

/-- The header of a measured quantity. -/
def datatypeLines (v : ClassView) (o : Options) : List String :=
  let one := o.indent.level 1
  let two := o.indent.level 2
  let name := v.className
  let type := v.primitiveType.getD "double"
  guardLines name
    ++ ["namespace " ++ namespaceName, "\x7b"]
    ++ docBlock o 1 v.documentation
    ++ [one ++ "class " ++ name, one ++ "\x7b", one ++ "public:",
        two ++ name ++ "() = default;",
        two ++ name ++ "(" ++ type ++ " value) : value(value), initialized(true) \x7b\x7d", "",
        constantLine two "unit" v.unit, constantLine two "multiplier" v.multiplier, "",
        two ++ type ++ " value\x7b\x7d;", two ++ "bool initialized = false;", "",
        two ++ "operator " ++ type ++ "() const \x7b return value; \x7d",
        one ++ "\x7d;", "\x7d", "#endif"]

/-- The files of a class. -/
def classFiles (v : ClassView) (o : Options) : List SourceFile :=
  let header (lines : List String) : SourceFile := ⟨v.className ++ ".hpp", linesText lines⟩
  match v.shape with
  | .rootClass | .derivedClass =>
    [header (headerLines v o), ⟨v.className ++ ".cpp", linesText (sourceLines v o)⟩]
  | .enumeration => [header (enumerationLines v o)]
  | .primitive => [header (primitiveLines v o)]
  | .datatype => [header (datatypeLines v o)]

/-- The header that includes every other. -/
def indexFile (names : List String) : SourceFile :=
  ⟨"CIMClassList.hpp", linesText
    (["#ifndef CIMCLASSLIST_H", "#define CIMCLASSLIST_H", ""]
      ++ names.map (fun name => "#include \"" ++ name ++ ".hpp\"")
      ++ ["", "#endif"])⟩

end CimSchema.Cpp
