import CimSchema.Proofs.Merge.Reorder
import CimSchema.Proofs.Resolve.Coherent

/-!
# Resolving members in another order

Where the declarations of some files do not contradict each other, the order of the files and of
their declarations changes at most the order of members and of their origins.

## Main definitions

* `Member.Agrees`, `Attribute.Agrees`, `Association.Agrees` - the same up to the order of origins.

## Main results

* `find?_resolvedMembers` - a member with a value type is found under its class and its name.
* `Reordered.resolvedMember?_agrees` - what is found for a member agrees.
* `Reordered.measured_eq`, `Reordered.inverseOf_eq` - what is copied of a quantity, and what is
  found for the other end of an association.
* `Reordered.attribute?_agrees`, `Reordered.linkedAssociation?_agrees` - the records of a member.
-/

namespace CimSchema

variable {strictness : Strictness} {documents documents' : List Document}

/-! ### Members -/

/-- Two members are the same up to what no record shows and the order of origins. -/
structure Member.Agrees (x y : Member) : Prop where
  property : x.property.Agrees y.property
  typeName : y.typeName = x.typeName
  kind : y.kind = x.kind

namespace Reordered

variable (h : Reordered documents documents') (hc : Consistent documents)
include h

theorem contains_eq (infer : Bool) (name : String) :
    (ClassTable.ofDocuments infer documents').contains name =
      (ClassTable.ofDocuments infer documents).contains name := by
  rw [Bool.eq_iff_iff, contains_ofDocuments, contains_ofDocuments]
  exact (h.perm_knownClasses infer).mem_iff.symm

include hc

theorem kind?_eq (infer : Bool) (name : String) :
    (ClassTable.ofDocuments infer documents').kind? name =
      (ClassTable.ofDocuments infer documents).kind? name := by
  have hknown := (h.perm_knownClasses infer).mem_iff (a := name)
  rw [ClassTable.kind?, ClassTable.kind?, ClassTable.get?_ofDocuments, ClassTable.get?_ofDocuments]
  by_cases hname : name ∈ knownClasses infer documents
  · rw [if_pos hname, if_pos (hknown.1 hname), Option.map_some, Option.map_some,
      (h.mergedClass_agrees hc name).kind]
  · rw [if_neg hname, if_neg (mt hknown.2 hname)]

theorem ofProperty_agrees (infer : Bool) {p q : MergedProperty} (hpq : p.Agrees q) :
    Option.Rel Member.Agrees (Member.ofProperty (.ofDocuments infer documents) p).toOption
      (Member.ofProperty (.ofDocuments infer documents') q).toOption := by
  have htype : q.declaration.valueType = p.declaration.valueType := by
    rw [PropertyDeclaration.valueType, hpq.dataType, hpq.range, PropertyDeclaration.valueType]
  rw [Member.ofProperty, Member.ofProperty, hpq.domain, htype, h.contains_eq]
  split
  · cases p.declaration.valueType with
    | none => exact .none
    | some typeName =>
      dsimp only
      rw [h.kind?_eq hc]
      cases (ClassTable.ofDocuments infer documents).kind? typeName with
      | none => exact .none
      | some kind => exact .some ⟨hpq, rfl, rfl⟩
  · exact .none

/-- What is found for a member agrees. -/
theorem resolvedMember?_agrees (strictness : Strictness) (key : MemberKey) :
    Option.Rel Member.Agrees (resolvedMember? strictness documents key)
      (resolvedMember? strictness documents' key) :=
  rel_bind (h.mergedProperty?_agrees hc key) fun _ _ hpq => h.ofProperty_agrees hc _ hpq

end Reordered

theorem mem_resolvedMembers_iff {x : Member} :
    x ∈ resolvedMembers strictness documents ↔
      resolvedMember? strictness documents (x.domain, x.name) = some x := by
  rw [resolvedMembers, List.mem_filterMap]
  constructor
  · rintro ⟨key, -, hx⟩
    rw [key_of_resolvedMember? hx, hx]
  · intro hx
    obtain ⟨p, hp, -⟩ := Option.bind_eq_some_iff.1 hx
    exact ⟨(x.domain, x.name), mem_memberKeys_of_mergedProperty? hp, hx⟩

/-- The attribute of a class with a given name is looked for among the members of all classes, but
there is one member with the class and the name at most. -/
theorem find?_resolvedMembers (strictness : Strictness) (documents : List Document)
    (name member : String) :
    ((resolvedMembers strictness documents).find? fun x =>
        x.kind.isValueType && x.domain = name && x.name = member) =
      (resolvedMember? strictness documents (name, member)).filter (·.kind.isValueType) := by
  have hcondition (x : Member) :
      (x.kind.isValueType && decide (x.domain = name) && decide (x.name = member)) = true ↔
        x.kind.isValueType = true ∧ (x.domain, x.name) = (name, member) := by
    simp [and_assoc]
  ext x
  rw [Option.filter_eq_some_iff]
  constructor
  · intro hx
    have hx' := List.find?_some hx
    obtain ⟨hkind, hkey⟩ := (hcondition x).1 hx'
    have hmem := mem_resolvedMembers_iff.1 (List.mem_of_find?_eq_some hx)
    exact ⟨hkey ▸ hmem, hkind⟩
  · rintro ⟨hx, hkind⟩
    have hkey := key_of_resolvedMember? hx
    have hmem : x ∈ resolvedMembers strictness documents := by
      rw [mem_resolvedMembers_iff, hkey, hx]
    -- Something is found because of `x`, and it has the class and the name of `x`.
    cases hfound : (resolvedMembers strictness documents).find? (fun x =>
        x.kind.isValueType && x.domain = name && x.name = member) with
    | none => exact absurd ((hcondition x).2 ⟨hkind, hkey⟩) (List.find?_eq_none.1 hfound x hmem)
    | some y =>
      have hy' := List.find?_some hfound
      obtain ⟨-, hkey'⟩ := (hcondition y).1 hy'
      have hy := mem_resolvedMembers_iff.1 (List.mem_of_find?_eq_some hfound)
      rw [hkey', hx] at hy
      rw [Option.some.inj hy]

namespace Reordered

variable (h : Reordered documents documents') (hc : Consistent documents)
include h hc

/-- What is copied of a quantity is the same. -/
theorem measured_eq (strictness : Strictness) (name : String) :
    measured (resolvedMembers strictness documents') name =
      measured (resolvedMembers strictness documents) name := by
  have hfound (member : String) : Option.Rel Member.Agrees
      ((resolvedMember? strictness documents (name, member)).filter (·.kind.isValueType))
      ((resolvedMember? strictness documents' (name, member)).filter (·.kind.isValueType)) := by
    refine rel_filter (h.resolvedMember?_agrees hc strictness (name, member)) fun x y hxy => ?_
    rw [hxy.kind]
  have hfixed (x y : Member) (hxy : x.Agrees y) :
      x.property.declaration.fixed = y.property.declaration.fixed := hxy.property.fixed.symm
  rw [measured, measured]
  dsimp only
  simp only [find?_resolvedMembers]
  -- The three attributes are found by name, wherever they stand among the members.
  rw [map_eq_of_rel (hfound "value") fun _ _ hxy => hxy.typeName.symm,
    bind_eq_of_rel (hfound "unit") hfixed, bind_eq_of_rel (hfound "multiplier") hfixed]

end Reordered

/-! ### Attributes and associations -/

/-- Two attributes are the same up to the order of their origins. -/
structure Attribute.Agrees (a b : Attribute) : Prop where
  same : b = { a with origins := b.origins }
  origins : a.origins.Perm b.origins

/-- Two associations are the same up to the order of their origins. -/
structure Association.Agrees (a b : Association) : Prop where
  same : b = { a with origins := b.origins }
  origins : a.origins.Perm b.origins

/-- The association that a member is, with its inverse end. -/
def Member.linkedAssociation? (bases : Bases) (properties : PropertyTable) (x : Member) :
    Option Association :=
  x.association?.map fun a => { a with inverse := inverseOf bases properties a }

theorem Member.Agrees.association? {x y : Member} (hxy : x.Agrees y) :
    Option.Rel Association.Agrees x.association? y.association? := by
  rw [Member.association?, Member.association?, hxy.kind]
  split
  · exact .none
  · refine .some ⟨?_, hxy.property.origins⟩
    dsimp only
    rw [hxy.typeName, hxy.property.name, hxy.property.domain, hxy.property.multiplicity,
      hxy.property.comment, hxy.property.associationUsed]

namespace Reordered

variable (h : Reordered documents documents') (hc : Consistent documents)
include h

theorem knownNames_eq (strictness : Strictness) :
    knownNames strictness documents' = knownNames strictness documents := by
  apply NameSet.ext
  intro name
  rw [knownNames, knownNames, NameSet.mem_ofList, NameSet.mem_ofList]
  exact (h.perm_knownClasses _).mem_iff.symm

include hc

theorem bases_unlinked_eq (strictness : Strictness) :
    (Model.unlinked strictness documents').bases = (Model.unlinked strictness documents).bases := by
  simp only [Model.bases_unlinked, h.knownNames_eq, h.mergedBase?_eq hc]

theorem valueType_eq {x y : Member} (hxy : x.Agrees y) :
    y.valueType (resolvedMembers strictness documents') =
      x.valueType (resolvedMembers strictness documents) := by
  rw [Member.valueType, Member.valueType, hxy.kind, hxy.typeName, h.measured_eq hc]

theorem attribute?_agrees {x y : Member} (hxy : x.Agrees y) :
    Option.Rel Attribute.Agrees (x.attribute? (resolvedMembers strictness documents))
      (y.attribute? (resolvedMembers strictness documents')) := by
  rw [Member.attribute?, Member.attribute?, hxy.kind]
  split
  · refine .some ⟨?_, hxy.property.origins⟩
    dsimp only
    rw [h.valueType_eq hc hxy, hxy.property.name, hxy.property.domain, hxy.property.multiplicity,
      hxy.property.comment, hxy.property.fixed]
  · exact .none

/-- What is found for the other end of an association is the same. -/
theorem inverseOf_eq (bases : Bases) {a b : Association} (hab : a.Agrees b) :
    inverseOf bases (.ofDocuments documents') b = inverseOf bases (.ofDocuments documents) a := by
  rw [hab.same, inverseOf, inverseOf]
  dsimp only
  rw [PropertyTable.get?_ofDocuments, PropertyTable.get?_ofDocuments]
  have hown := h.mergedProperty?_agrees hc (a.declaringClass, a.name)
  generalize mergedProperty? documents (a.declaringClass, a.name) = own at hown ⊢
  generalize mergedProperty? documents' (a.declaringClass, a.name) = own' at hown ⊢
  cases hown with
  | none => rfl
  | some hpq =>
    dsimp only
    rw [hpq.inverseRole, hpq.id]
    -- The end leads one way only, or names the property that leads back.
    split
    · rfl
    · rename_i role _
      have hother := h.byId?_agrees hc role
      generalize (PropertyTable.ofDocuments documents).byId? role = other at hother ⊢
      generalize (PropertyTable.ofDocuments documents').byId? role = other' at hother ⊢
      cases hother with
      | none => rfl
      | some hxy =>
        dsimp only
        rw [hxy.inverseRole, hxy.domain, hxy.range, hxy.name, hxy.multiplicity]

theorem linkedAssociation?_agrees (bases : Bases) {x y : Member} (hxy : x.Agrees y) :
    Option.Rel Association.Agrees (x.linkedAssociation? bases (.ofDocuments documents))
      (y.linkedAssociation? bases (.ofDocuments documents')) := by
  refine rel_map (hxy.association?) fun a b hab => ⟨?_, hab.origins⟩
  rw [h.inverseOf_eq hc bases hab, hab.same]

end Reordered

end CimSchema
