import CimSchema.Model.Record
import CimSchema.Name.Map
import CimSchema.Target.RenderError
import CimSchema.Text.Blank
import CimSchema.Text.Segment
import CimSchema.Text.StringLiteral

/-!
# How types and values are spelled in a language

A table gives the type and the default value of each primitive, and patterns for all other types.
In a pattern `{name}` stands for a class, `{value}` for the type or value in it, and `{item}` for
the type that is wrapped.

## Main definitions

* `TypeTable` - the table of a language, and `Language.types`, the built-in tables.
* `Overrides` - what a configuration puts on top of a table.
* `TypeTable.valueType`, `TypeTable.reference`, `TypeTable.wrap` - types.
* `TypeTable.attributeDefault`, `TypeTable.associationDefault` - default values.
-/

namespace CimSchema

/-- What a configuration puts on top of a table. -/
structure Overrides where
  /-- The types of primitives. -/
  primitives : NameMap String := .empty
  /-- The default values of primitives. -/
  defaults : NameMap String := .empty

/-- How types and values are spelled in a language. -/
structure TypeTable where
  language : Language
  /-- The types of primitives. -/
  primitives : NameMap String
  /-- The default values of primitives. -/
  defaults : NameMap String
  /-- Types of measured quantities. -/
  measuredPattern : String
  enumerationPattern : String
  compoundPattern : String
  /-- Types of association ends that hold one object. -/
  referencePattern : String
  listPattern : String
  optionalPattern : String
  /-- The value of an association end that is not set. -/
  referenceDefault : String
  /-- The value of an attribute of an enumeration or compound type that is not set. -/
  valueDefault : String
  listDefault : String
  /-- A fixed value of an enumeration. -/
  enumDefaultPattern : String

/-- The place of a class in a pattern. -/
def namePlace : String := "\x7bname\x7d"

/-- The place of a value or its type in a pattern. -/
def valuePlace : String := "\x7bvalue\x7d"

/-- The place of a wrapped type in a pattern. -/
def itemPlace : String := "\x7bitem\x7d"

/-- The built-in table of a language. -/
def Language.types : Language → TypeTable
  | .python =>
    { language := .python
      primitives := .ofList
        [("String", "str"), ("Integer", "int"), ("Boolean", "bool"), ("Float", "float"),
          ("Decimal", "float"), ("Date", "str"), ("DateTime", "str"), ("Time", "str"),
          ("MonthDay", "str"), ("Duration", "str")]
      defaults := .ofList
        [("String", "\"\""), ("Integer", "0"), ("Boolean", "False"), ("Float", "0.0"),
          ("Decimal", "0.0"), ("Date", "\"\""), ("DateTime", "\"\""), ("Time", "\"\""),
          ("MonthDay", "\"\""), ("Duration", "\"\"")]
      measuredPattern := valuePlace
      enumerationPattern := namePlace
      compoundPattern := namePlace
      referencePattern := "str"
      listPattern := "List[" ++ itemPlace ++ "]"
      optionalPattern := "Optional[" ++ itemPlace ++ "]"
      referenceDefault := "None"
      valueDefault := "None"
      listDefault := "field(default_factory=list)"
      enumDefaultPattern := namePlace ++ "." ++ valuePlace }
  | .java =>
    { language := .java
      primitives := .ofList
        [("String", "String"), ("Integer", "Integer"), ("Boolean", "Boolean"),
          ("Float", "Double"), ("Decimal", "java.math.BigDecimal"), ("Date", "String"),
          ("DateTime", "String"), ("Time", "String"), ("MonthDay", "String"),
          ("Duration", "String")]
      defaults := .ofList [("Integer", "0"), ("Boolean", "false"), ("Float", "0.0")]
      measuredPattern := valuePlace
      enumerationPattern := namePlace
      compoundPattern := namePlace
      referencePattern := namePlace
      listPattern := "List<" ++ itemPlace ++ ">"
      optionalPattern := itemPlace
      referenceDefault := "null"
      valueDefault := "null"
      listDefault := "new ArrayList<>()"
      enumDefaultPattern := namePlace ++ "." ++ valuePlace }
  | .cpp =>
    { language := .cpp
      primitives := .ofList
        [("String", "std::string"), ("Integer", "int"), ("Boolean", "bool"), ("Float", "double"),
          ("Decimal", "double"), ("Date", "std::string"), ("DateTime", "std::string"),
          ("Time", "std::string"), ("MonthDay", "std::string"), ("Duration", "std::string")]
      defaults := .ofList
        [("Integer", "0"), ("Boolean", "false"), ("Float", "0.0"), ("Decimal", "0.0")]
      measuredPattern := "CIMPP::" ++ namePlace
      enumerationPattern := "CIMPP::" ++ namePlace
      compoundPattern := "CIMPP::" ++ namePlace
      referencePattern := "CIMPP::" ++ namePlace ++ "*"
      listPattern := "std::list<" ++ itemPlace ++ ">"
      optionalPattern := itemPlace
      referenceDefault := "nullptr"
      valueDefault := ""
      listDefault := ""
      enumDefaultPattern := "CIMPP::" ++ namePlace ++ "::" ++ valuePlace }

namespace TypeTable

/-- The table with overrides put on top. -/
def override (t : TypeTable) (overrides : Overrides) : TypeTable :=
  { t with
    primitives := t.primitives.union overrides.primitives
    defaults := t.defaults.union overrides.defaults }

/-- The type of a primitive. -/
def primitive? (t : TypeTable) (name : String) : Option String :=
  t.primitives.get? name

/-- The default value of a primitive. -/
def default? (t : TypeTable) (name : String) : Option String :=
  t.defaults.get? name

/-- The type of a primitive that `referrer` uses. -/
def primitiveFor (t : TypeTable) (name referrer : String) : Except RenderError String :=
  match t.primitive? name with
  | some type => .ok type
  | none => .error (.unmapped name t.language referrer)

/-- The type of a value that `referrer` uses, not yet wrapped. -/
def valueType (t : TypeTable) (type : ValueType) (referrer : String) :
    Except RenderError String :=
  match type with
  | .primitive name => t.primitiveFor name referrer
  | .enumeration name => .ok (Text.replace namePlace name t.enumerationPattern)
  | .compound name => .ok (Text.replace namePlace name t.compoundPattern)
  | .datatype measured =>
    (t.primitiveFor measured.value referrer).map fun value =>
      Text.replace valuePlace value (Text.replace namePlace measured.name t.measuredPattern)

/-- The type of an association end that holds one object of the class `target`. -/
def reference (t : TypeTable) (target : String) : String :=
  Text.replace namePlace target t.referencePattern

/-- The type of several or optional values of the type `item`. -/
def wrap (t : TypeTable) (item : String) : Multiplicity → String
  | .single => item
  | .optional => Text.replace itemPlace item t.optionalPattern
  | .list => Text.replace itemPlace item t.listPattern

/-- A text, unless it is empty. -/
def nonEmpty (s : String) : Option String :=
  if s.isEmpty then none else some s

/-- A fixed value as a literal of a primitive. -/
def literal (t : TypeTable) (primitive fixed : String) : String :=
  let text := Text.trim fixed
  match primitive with
  | "Integer" => text
  | "Float" | "Decimal" =>
    let type := (t.primitive? primitive).getD ""
    if t.language = .java && (Text.stripEnd? "BigDecimal" type).isSome then
      s!"new {type}(\"" ++ text ++ "\")"
    else if text.toList.any (fun c => c == '.' || c == 'e' || c == 'E') then text
    else text ++ ".0"
  | "Boolean" =>
    match t.language, Text.sameAscii text "true" with
    | .python, true => "True"
    | .python, false => "False"
    | _, true => "true"
    | _, false => "false"
  | _ => Text.quoteLine text

/-- The value that a fixed value such as `SwitchKind.breaker` means in its enumeration. -/
def fixedValue (enumeration fixed : String) : String :=
  (Text.stripStart? (enumeration ++ ".") fixed).getD fixed

/-- The default value of an attribute, if the language spells one. -/
def attributeDefault (t : TypeTable) (a : Attribute) : Option String :=
  if a.multiplicity.isList then nonEmpty t.listDefault
  else
    match a.valueType, a.default with
    | .primitive name, some fixed => some (t.literal name fixed)
    | .primitive name, none => t.default? name
    | .datatype measured, some fixed => some (t.literal measured.value fixed)
    | .datatype measured, none => t.default? measured.value
    | .enumeration name, some fixed =>
      some (Text.replace valuePlace (t.language.enumerator (fixedValue name fixed))
        (Text.replace namePlace name t.enumDefaultPattern))
    | .enumeration _, none => nonEmpty t.valueDefault
    | .compound _, _ => nonEmpty t.valueDefault

/-- The default value of an association end, if the language spells one. -/
def associationDefault (t : TypeTable) (multiplicity : Multiplicity) : Option String :=
  if multiplicity.isList then nonEmpty t.listDefault else nonEmpty t.referenceDefault

end TypeTable

end CimSchema
