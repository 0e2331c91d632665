import CimSchema.Model.Multiplicity
import CimSchema.Name.Set

/-!
# Records of a resolved model

## Main definitions

* `ClassKind` - the shapes of classes.
* `Measured` - value, unit and multiplier of a measured quantity.
* `ValueType` - the type of an attribute's values.
* `Attribute`, `Association`, `EnumValue` - the members of a class.
* `InverseLink` - the other end of an association.
* `ClassRecord` - a class with its members.
-/

namespace CimSchema

/-- The shape of a class. -/
inductive ClassKind where
  /-- A class with attributes and associations. -/
  | regular
  /-- A class with an ordered set of values. -/
  | enumeration
  /-- A type of the schema itself, such as `Float`. -/
  | primitive
  /-- A measured quantity. -/
  | datatype
  /-- A structured value without identity. -/
  | compound
  deriving DecidableEq, Repr

/-- Whether classes of this kind are types of attributes. -/
def ClassKind.isValueType (kind : ClassKind) : Bool :=
  kind ≠ .regular

/-- A measured quantity: the primitive that holds its value, its unit and its multiplier. -/
structure Measured where
  /-- The class of the quantity, such as `Length`. -/
  name : String
  /-- The primitive that holds the number. -/
  value : String
  unit : Option String
  multiplier : Option String
  deriving DecidableEq, Repr

/-- The measured quantity `name` if the schema says nothing about it. -/
def Measured.plain (name : String) : Measured :=
  ⟨name, "Float", none, none⟩

/-- The type of an attribute's values. -/
inductive ValueType where
  | primitive (name : String)
  | enumeration (name : String)
  | datatype (measured : Measured)
  | compound (name : String)
  deriving DecidableEq, Repr

namespace ValueType

/-- The class that the type names. -/
def typeName : ValueType → String
  | primitive name => name
  | enumeration name => name
  | compound name => name
  | datatype measured => measured.name

/-- Every class that the type needs. -/
def referencedClasses : ValueType → List String
  | datatype measured => [measured.name, measured.value]
  | other => [other.typeName]

end ValueType

/-- An attribute of a class. -/
structure Attribute where
  name : String
  declaringClass : String
  valueType : ValueType
  multiplicity : Multiplicity
  documentation : Option String
  /-- The fixed value that the schema gives. -/
  default : Option String
  /-- The keywords of the files that declare the attribute. -/
  origins : List String
  deriving DecidableEq, Repr

/-- The other end of an association. -/
inductive InverseLink where
  /-- The association leads one way only. -/
  | none
  /-- The member `name` of class `owner` leads back. -/
  | resolved (owner name : String) (multiplicity : Multiplicity)
  /-- The schema names another end that is missing or does not lead back. -/
  | inconsistent (name : String)
  deriving DecidableEq, Repr

/-- One end of an association. -/
structure Association where
  name : String
  declaringClass : String
  target : String
  multiplicity : Multiplicity
  inverse : InverseLink
  /-- Whether files of data hold this end. -/
  used : Bool
  documentation : Option String
  origins : List String
  deriving DecidableEq, Repr

/-- A value of an enumeration. -/
structure EnumValue where
  name : String
  documentation : Option String
  deriving DecidableEq, Repr

/-- A class with its members. -/
structure ClassRecord where
  name : String
  base : Option String := none
  kind : ClassKind
  documentation : Option String := none
  package : Option String := none
  attributes : List Attribute := []
  associations : List Association := []
  /-- In the order of their declaration. -/
  enumValues : List EnumValue := []
  /-- Given for measured quantities. -/
  datatype : Option Measured := none
  origins : List String := []
  /-- False for a class that is only inferred from references. -/
  declared : Bool := false
  deriving DecidableEq, Repr

namespace ClassRecord

/-- The first attribute called `name`. -/
def attribute? (c : ClassRecord) (name : String) : Option Attribute :=
  c.attributes.find? (·.name = name)

/-- The first association called `name`. -/
def association? (c : ClassRecord) (name : String) : Option Association :=
  c.associations.find? (·.name = name)

/-- Whether one of `keywords` is among the origins of the class. -/
def hasAnyOrigin (c : ClassRecord) (keywords : NameSet) : Bool :=
  c.origins.any keywords.contains

end ClassRecord

end CimSchema
