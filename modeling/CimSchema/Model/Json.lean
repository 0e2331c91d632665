import CimSchema.Json
import CimSchema.Model.Basic

/-!
# The JSON form of a model

Every record has a form with its fields in a fixed order; alternatives are told apart by a field of
their own, `kind` for types and `state` for inverse ends.

## Main definitions

* `Model.toJson`, `Model.ofJson?` - writing and reading a model, and so for each record type.
-/

namespace CimSchema

open Json (ofOption ofStrings)

/-- The written name of a shape. -/
def ClassKind.label : ClassKind → String
  | regular => "regular"
  | enumeration => "enumeration"
  | primitive => "primitive"
  | datatype => "datatype"
  | compound => "compound"

/-- The shape with a written name. -/
def ClassKind.ofLabel? : String → Option ClassKind
  | "regular" => some regular
  | "enumeration" => some enumeration
  | "primitive" => some primitive
  | "datatype" => some datatype
  | "compound" => some compound
  | _ => none

/-- The written name of a multiplicity. -/
def Multiplicity.label : Multiplicity → String
  | single => "single"
  | optional => "optional"
  | list => "list"

/-- The multiplicity with a written name. -/
def Multiplicity.ofLabel? : String → Option Multiplicity
  | "single" => some single
  | "optional" => some optional
  | "list" => some list
  | _ => none

/-- The field `name` of an object, which must be a string. -/
def Json.text? (j : Json) (name : String) : Option String :=
  (j.field? name).bind Json.string?

/-- The field `name` of an object, which may be a string. -/
def Json.maybeText? (j : Json) (name : String) : Option (Option String) :=
  j.optional? Json.string? name

/-- The field `name` of an object, which must be a list of strings. -/
def Json.texts? (j : Json) (name : String) : Option (List String) :=
  (j.field? name).bind (Json.list? Json.string?)

/-- The field `name` of an object, which must be a multiplicity. -/
def Json.multiplicity? (j : Json) (name : String) : Option Multiplicity :=
  (j.text? name).bind Multiplicity.ofLabel?

namespace Measured

/-- The fields of the JSON form. -/
def fields (m : Measured) : List (String × Json) :=
  [("name", .string m.name), ("value", .string m.value), ("unit", ofOption m.unit),
    ("multiplier", ofOption m.multiplier)]

/-- The JSON form. -/
def toJson (m : Measured) : Json :=
  .object m.fields

/-- Reads the JSON form. -/
def ofJson? (j : Json) : Option Measured := do
  return ⟨← j.text? "name", ← j.text? "value", ← j.maybeText? "unit", ← j.maybeText? "multiplier"⟩

end Measured

namespace ValueType

/-- The JSON form. -/
def toJson : ValueType → Json
  | primitive name => .object [("kind", .string "primitive"), ("name", .string name)]
  | enumeration name => .object [("kind", .string "enumeration"), ("name", .string name)]
  | datatype measured => .object (("kind", .string "datatype") :: measured.fields)
  | compound name => .object [("kind", .string "compound"), ("name", .string name)]

/-- Reads the JSON form. -/
def ofJson? (j : Json) : Option ValueType := do
  match ← j.text? "kind" with
  | "primitive" => return primitive (← j.text? "name")
  | "enumeration" => return enumeration (← j.text? "name")
  | "datatype" => return datatype (← Measured.ofJson? j)
  | "compound" => return compound (← j.text? "name")
  | _ => none

end ValueType

namespace Attribute

/-- The JSON form. -/
def toJson (a : Attribute) : Json :=
  .object
    [("name", .string a.name), ("declaring_class", .string a.declaringClass),
      ("value_type", a.valueType.toJson), ("multiplicity", .string a.multiplicity.label),
      ("documentation", ofOption a.documentation), ("default", ofOption a.default),
      ("origins", ofStrings a.origins)]

/-- Reads the JSON form. -/
def ofJson? (j : Json) : Option Attribute := do
  return {
    name := ← j.text? "name"
    declaringClass := ← j.text? "declaring_class"
    valueType := ← (j.field? "value_type").bind ValueType.ofJson?
    multiplicity := ← j.multiplicity? "multiplicity"
    documentation := ← j.maybeText? "documentation"
    default := ← j.maybeText? "default"
    origins := ← j.texts? "origins" }

end Attribute

namespace InverseLink

/-- The JSON form. -/
def toJson : InverseLink → Json
  | none => .object [("state", .string "none")]
  | resolved owner name multiplicity =>
    .object
      [("state", .string "resolved"), ("class", .string owner), ("name", .string name),
        ("multiplicity", .string multiplicity.label)]
  | inconsistent name => .object [("state", .string "inconsistent"), ("name", .string name)]

/-- Reads the JSON form. -/
def ofJson? (j : Json) : Option InverseLink := do
  match ← j.text? "state" with
  | "none" => return none
  | "resolved" =>
    return resolved (← j.text? "class") (← j.text? "name") (← j.multiplicity? "multiplicity")
  | "inconsistent" => return inconsistent (← j.text? "name")
  | _ => Option.none

end InverseLink

namespace Association

/-- The JSON form. -/
def toJson (a : Association) : Json :=
  .object
    [("name", .string a.name), ("declaring_class", .string a.declaringClass),
      ("target", .string a.target), ("multiplicity", .string a.multiplicity.label),
      ("inverse", a.inverse.toJson), ("used", .bool a.used),
      ("documentation", ofOption a.documentation), ("origins", ofStrings a.origins)]

/-- Reads the JSON form. -/
def ofJson? (j : Json) : Option Association := do
  return {
    name := ← j.text? "name"
    declaringClass := ← j.text? "declaring_class"
    target := ← j.text? "target"
    multiplicity := ← j.multiplicity? "multiplicity"
    inverse := ← (j.field? "inverse").bind InverseLink.ofJson?
    used := ← (j.field? "used").bind Json.bool?
    documentation := ← j.maybeText? "documentation"
    origins := ← j.texts? "origins" }

end Association

namespace EnumValue

/-- The JSON form. -/
def toJson (v : EnumValue) : Json :=
  .object [("name", .string v.name), ("documentation", ofOption v.documentation)]

/-- Reads the JSON form. -/
def ofJson? (j : Json) : Option EnumValue := do
  return ⟨← j.text? "name", ← j.maybeText? "documentation"⟩

end EnumValue

namespace ClassRecord

/-- The JSON form. -/
def toJson (c : ClassRecord) : Json :=
  .object
    [("name", .string c.name), ("base", ofOption c.base), ("kind", .string c.kind.label),
      ("documentation", ofOption c.documentation), ("package", ofOption c.package),
      ("attributes", .array (c.attributes.map Attribute.toJson)),
      ("associations", .array (c.associations.map Association.toJson)),
      ("enum_values", .array (c.enumValues.map EnumValue.toJson)),
      ("datatype", match c.datatype with
        | some m => m.toJson
        | none => .null),
      ("origins", ofStrings c.origins), ("declared", .bool c.declared)]

/-- Reads the JSON form. -/
def ofJson? (j : Json) : Option ClassRecord := do
  return {
    name := ← j.text? "name"
    base := ← j.maybeText? "base"
    kind := ← (j.text? "kind").bind ClassKind.ofLabel?
    documentation := ← j.maybeText? "documentation"
    package := ← j.maybeText? "package"
    attributes := ← (j.field? "attributes").bind (Json.list? Attribute.ofJson?)
    associations := ← (j.field? "associations").bind (Json.list? Association.ofJson?)
    enumValues := ← (j.field? "enum_values").bind (Json.list? EnumValue.ofJson?)
    datatype := ← j.optional? Measured.ofJson? "datatype"
    origins := ← j.texts? "origins"
    declared := ← (j.field? "declared").bind Json.bool? }

end ClassRecord

namespace Model

/-- The JSON form. -/
def toJson (m : Model) : Json :=
  .array (m.classes.map ClassRecord.toJson)

/-- Reads the JSON form. -/
def ofJson? (j : Json) : Option Model :=
  (j.list? ClassRecord.ofJson?).map ofList

end Model

end CimSchema
