import CimSchema.Target.TypeTable

/-!
# A class as a language sees it

A view is a class record with every type already spelled in one language. Writing a class looks at
its view and at nothing else.

## Main definitions

* `Shape` - the form of text that a class has.
* `ClassView`, `AttributeView`, `AssociationView` - a class and its members.
* `ClassView.ofRecord` - the view of a record, or every type that the language lacks.
-/

namespace CimSchema

/-- The form of text that a class has. -/
inductive Shape where
  | rootClass
  | derivedClass
  | enumeration
  | primitive
  | datatype
  deriving DecidableEq, Repr

/-- An attribute as a language sees it. -/
structure AttributeView where
  name : String
  /-- The class of the value. -/
  schemaType : String
  /-- The type of one value. -/
  itemType : String
  /-- The type of the attribute, wrapped. -/
  targetType : String
  multiplicity : Multiplicity
  default : Option String
  documentation : Option String
  unit : Option String
  multiplier : Option String
  isEnumeration : Bool
  deriving DecidableEq, Repr

/-- An association as a language sees it. -/
structure AssociationView where
  name : String
  target : String
  /-- The type of one object. -/
  itemType : String
  /-- The type of the association end, wrapped. -/
  targetType : String
  multiplicity : Multiplicity
  /-- The class and member that lead back, joined by a point. -/
  inverse : Option String
  default : Option String
  documentation : Option String
  deriving DecidableEq, Repr

/-- A class as a language sees it. -/
structure ClassView where
  language : Language
  className : String
  base : Option String
  shape : Shape
  documentation : Option String
  attributes : List AttributeView
  associations : List AssociationView
  enumValues : List EnumValue
  /-- The type of a primitive, or of the value of a measured quantity. -/
  primitiveType : Option String
  unit : Option String
  multiplier : Option String
  deriving DecidableEq, Repr

/-- The form of text that a class has. -/
def ClassRecord.shape (c : ClassRecord) : Shape :=
  match c.kind with
  | .enumeration => .enumeration
  | .primitive => .primitive
  | .datatype => .datatype
  | .regular | .compound => if c.base.isSome then .derivedClass else .rootClass

namespace AttributeView

/-- The view of an attribute of the class `className`. -/
def ofAttribute (t : TypeTable) (className : String) (a : Attribute) :
    Except RenderError AttributeView :=
  (t.valueType a.valueType (className ++ "." ++ a.name)).map fun itemType =>
    { name := a.name
      schemaType := a.valueType.typeName
      itemType
      targetType := t.wrap itemType a.multiplicity
      multiplicity := a.multiplicity
      default := t.attributeDefault a
      documentation := a.documentation
      unit := match a.valueType with
        | .datatype measured => measured.unit
        | _ => none
      multiplier := match a.valueType with
        | .datatype measured => measured.multiplier
        | _ => none
      isEnumeration := match a.valueType with
        | .enumeration _ => true
        | _ => false }

end AttributeView

namespace AssociationView

/-- The view of an association. -/
def ofAssociation (t : TypeTable) (a : Association) : AssociationView :=
  let itemType := t.reference a.target
  { name := a.name
    target := a.target
    itemType
    targetType := t.wrap itemType a.multiplicity
    multiplicity := a.multiplicity
    inverse := match a.inverse with
      | .resolved owner name _ => some (owner ++ "." ++ name)
      | _ => none
    default := t.associationDefault a.multiplicity
    documentation := a.documentation }

end AssociationView

namespace ClassView

/-- The primitive that a class of its own is spelled as: itself, or what holds the value of a
measured quantity. -/
def ownPrimitive (c : ClassRecord) : Option String :=
  match c.kind with
  | .primitive => some c.name
  | .datatype => some ((c.datatype.map (·.value)).getD "Float")
  | _ => none

/-- The type of the primitive that a class is spelled as, if it is. -/
def ownType (t : TypeTable) (c : ClassRecord) : Except RenderError (Option String) :=
  match ownPrimitive c with
  | none => .ok none
  | some name => (t.primitiveFor name c.name).map some

/-- The measured quantity that a class is, if it is one. -/
def ownQuantity (c : ClassRecord) : Option Measured :=
  if c.kind = .datatype then c.datatype else none

/-- The view of a class, or the types that the language lacks: that of the class itself, or else
those of all its attributes. Of the associations with many ends only the used ones are shown. -/
def ofRecord (t : TypeTable) (c : ClassRecord) : Except RenderError ClassView := do
  let primitiveType ← ownType t c
  let outcomes := c.attributes.map (AttributeView.ofAttribute t c.name)
  let errors := outcomes.filterMap fun
    | .ok _ => none
    | .error e => some e
  match RenderError.ofList errors with
  | some e => .error e
  | none =>
    return {
      language := t.language
      className := c.name
      base := c.base
      shape := c.shape
      documentation := c.documentation
      attributes := outcomes.filterMap fun
        | .ok a => some a
        | .error _ => none
      associations := (c.associations.filter fun a => a.used || !a.multiplicity.isList).map
        (AssociationView.ofAssociation t)
      enumValues := c.enumValues
      primitiveType
      unit := (ownQuantity c).bind (·.unit)
      multiplier := (ownQuantity c).bind (·.multiplier) }

end ClassView

end CimSchema
