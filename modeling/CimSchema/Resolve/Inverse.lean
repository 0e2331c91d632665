import CimSchema.Merge.PropertyTable
import CimSchema.Model.Basic

/-!
# Inverse ends of associations

The inverse of an association must be declared on its target or an ancestor of it, must lead back
to the declaring class or an ancestor of it, and must name this association if it names one.

## Main definitions

* `inverseOf` - the inverse end of an association.
* `Model.linkInverses` - a model with every inverse end filled in.
-/

namespace CimSchema

/-- The inverse end of an association. -/
def inverseOf (bases : Bases) (properties : PropertyTable) (a : Association) : InverseLink :=
  match properties.get? a.declaringClass a.name with
  | none => .none
  | some own =>
    match own.declaration.inverseRole with
    | none => .none
    | some role =>
      match properties.byId? role with
      | none => .inconsistent role
      | some other =>
        let back := other.declaration
        let onTarget := bases.leadsTo a.target back.domain
        let pointsBack := match back.range with
          | some range => bases.leadsTo a.declaringClass range
          | none => false
        let namesBack := match back.inverseRole with
          | some role => role = own.declaration.id
          | none => true
        if onTarget && pointsBack && namesBack then
          .resolved back.domain back.name (.ofToken back.multiplicity)
        else .inconsistent role

/-- A model with every inverse end filled in. -/
def Model.linkInverses (m : Model) (properties : PropertyTable) : Model :=
  let bases := m.bases
  .ofList (m.classes.map fun c =>
    { c with
      associations := c.associations.map fun a =>
        { a with inverse := inverseOf bases properties a } })

end CimSchema
