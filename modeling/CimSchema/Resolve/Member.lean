import CimSchema.Error
import CimSchema.Merge.ClassTable
import CimSchema.Merge.PropertyTable

/-!
# Attributes and associations

A property is an attribute if its type is a value type, and else an association.

## Main definitions

* `Member` - a property whose class and type are known.
* `Member.ofProperty` - finds them, or says what is missing.
* `measured` - the unit and multiplier of a measured quantity, read off its members.
* `Member.attribute?`, `Member.association?` - the records.
-/

namespace CimSchema

/-- A property whose class and type are known. -/
structure Member where
  property : MergedProperty
  typeName : String
  /-- The shape of the type. -/
  kind : ClassKind
  deriving Repr

namespace Member

/-- The class that owns the member. -/
def domain (m : Member) : String :=
  m.property.declaration.domain

/-- The member's name. -/
def name (m : Member) : String :=
  m.property.declaration.name

/-- Finds the class and the type of a property. -/
def ofProperty (classes : ClassTable) (p : MergedProperty) : Except Error Member :=
  let d := p.declaration
  if classes.contains d.domain then
    match d.valueType with
    | none =>
      .error (.malformedSchema d.id "property has neither rdfs:range nor cims:dataType")
    | some typeName =>
      match classes.kind? typeName with
      | none => .error (.unresolvedReference typeName p.qualifiedName)
      | some kind => .ok ⟨p, typeName, kind⟩
  else .error (.unresolvedReference d.domain d.id)

end Member

/-- The measured quantity `name`: its value primitive is the type of the attribute `value`, its unit
and multiplier are the fixed values of the attributes of these names. -/
def measured (members : List Member) (name : String) : Measured :=
  let attribute? (member : String) : Option Member :=
    members.find? fun m => m.kind.isValueType && m.domain = name && m.name = member
  { name
    value := ((attribute? "value").map (·.typeName)).getD "Float"
    unit := (attribute? "unit").bind (·.property.declaration.fixed)
    multiplier := (attribute? "multiplier").bind (·.property.declaration.fixed) }

namespace Member

/-- The type of an attribute's values; `members` are the members of all classes. -/
def valueType (members : List Member) (m : Member) : ValueType :=
  match m.kind with
  | .enumeration => .enumeration m.typeName
  | .compound => .compound m.typeName
  | .datatype => .datatype (measured members m.typeName)
  | .primitive | .regular => .primitive m.typeName

/-- The attribute that a member with a value type is. -/
def attribute? (members : List Member) (m : Member) : Option Attribute :=
  if m.kind.isValueType then
    let d := m.property.declaration
    some
      { name := d.name
        declaringClass := d.domain
        valueType := m.valueType members
        multiplicity := .ofToken d.multiplicity
        documentation := d.comment
        default := d.fixed
        origins := m.property.origins }
  else none

/-- The association that any other member is, before its inverse is known. -/
def association? (m : Member) : Option Association :=
  if m.kind.isValueType then none
  else
    let d := m.property.declaration
    some
      { name := d.name
        declaringClass := d.domain
        target := m.typeName
        multiplicity := .ofToken d.multiplicity
        inverse := .none
        used := d.associationUsed.getD true
        documentation := d.comment
        origins := m.property.origins }

end Member

end CimSchema
