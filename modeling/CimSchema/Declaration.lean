import CimSchema.Text.LetterCase
import CimSchema.Text.Segment

/-!
# Declarations of a schema file

A schema file declares classes, properties and values of enumerations. Names are local names: no
reference between declarations has been followed yet.

## Main definitions

* `ClassDeclaration`, `PropertyDeclaration`, `ValueDeclaration` - the three kinds.
* `Declaration` - one of them.
* `Document` - the declarations of one file, in file order.
-/

namespace CimSchema

/-- A class as a file declares it. -/
structure ClassDeclaration where
  id : String
  label : Option String := none
  comment : Option String := none
  superClass : Option String := none
  stereotypes : List String := []
  package : Option String := none
  deriving DecidableEq, Repr

/-- An attribute or association end as a file declares it. -/
structure PropertyDeclaration where
  /-- By convention the class and the member, joined by a point. -/
  id : String
  label : Option String := none
  comment : Option String := none
  /-- The class that owns the member. -/
  domain : String
  range : Option String := none
  dataType : Option String := none
  /-- The cardinality as it is written, such as `M:0..1`. -/
  multiplicity : Option String := none
  /-- The `id` of the property that leads back. -/
  inverseRole : Option String := none
  associationUsed : Option Bool := none
  fixed : Option String := none
  stereotypes : List String := []
  deriving DecidableEq, Repr

/-- A value of an enumeration as a file declares it. -/
structure ValueDeclaration where
  /-- By convention the enumeration and the value, joined by a point. -/
  id : String
  label : Option String := none
  comment : Option String := none
  enumeration : String
  deriving DecidableEq, Repr

/-- One declaration. -/
inductive Declaration where
  | cls (declaration : ClassDeclaration)
  | property (declaration : PropertyDeclaration)
  | value (declaration : ValueDeclaration)
  deriving DecidableEq, Repr

/-- The declarations of one schema file. -/
structure Document where
  /-- The path or name of the file. -/
  source : String
  /-- The keyword of the profile that the file belongs to, such as `EQ`. -/
  keyword : Option String := none
  version : Option String := none
  /-- In file order. -/
  declarations : List Declaration := []
  deriving DecidableEq, Repr

/-- Whether `stereotypes` holds `stereotype`, in any case of ASCII letters. -/
def hasStereotype (stereotypes : List String) (stereotype : String) : Bool :=
  stereotypes.any (Text.sameAscii · stereotype)

/-- A member's name: its label, or what follows the last point of its `id`. -/
def memberName (label : Option String) (id : String) : String :=
  match label with
  | some label => if label.isEmpty then Text.afterLast "." id else label
  | none => Text.afterLast "." id

namespace PropertyDeclaration

/-- The name of the member. -/
def name (p : PropertyDeclaration) : String :=
  memberName p.label p.id

/-- The type of the member's values: the data type, or else the range. -/
def valueType (p : PropertyDeclaration) : Option String :=
  p.dataType <|> p.range

end PropertyDeclaration

/-- The name of the value. -/
def ValueDeclaration.name (v : ValueDeclaration) : String :=
  memberName v.label v.id

namespace Document

/-- The class declarations, in file order. -/
def classes (d : Document) : List ClassDeclaration :=
  d.declarations.filterMap fun
    | .cls c => some c
    | _ => none

/-- The property declarations, in file order. -/
def properties (d : Document) : List PropertyDeclaration :=
  d.declarations.filterMap fun
    | .property p => some p
    | _ => none

/-- The declarations of enumeration values, in file order. -/
def values (d : Document) : List ValueDeclaration :=
  d.declarations.filterMap fun
    | .value v => some v
    | _ => none

end Document

end CimSchema
