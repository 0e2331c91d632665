import CimSchema.Proofs.Resolve.ReorderMembers
import CimSchema.Proofs.Resolve.Values

/-!
# Building a model from files in another order

Where the declarations of some files do not contradict each other, the order of the files and of
their declarations changes at most the order of members, values and origins in the records. If no
model is built, the same faults are found.

## Main definitions

* `ClassRecord.Agrees`, `Model.Agrees` - the same up to the order of members, values and origins.

## Main results

* `Reordered.builtRecord_agrees` - the record of a class agrees.
* `Reordered.perm_foundFaults` - the same faults are found.
* `Model.agrees_of_reordered` - the outcome for files in another order.
-/

namespace CimSchema

variable {documents documents' : List Document}

/-! ### Records -/

/-- Two records are the same up to the order of members, values and origins. -/
structure ClassRecord.Agrees (c d : ClassRecord) : Prop where
  same : d = { c with
    attributes := d.attributes
    associations := d.associations
    enumValues := d.enumValues
    origins := d.origins }
  attributes : PermUpTo Attribute.Agrees c.attributes d.attributes
  associations : PermUpTo Association.Agrees c.associations d.associations
  enumValues : c.enumValues.Perm d.enumValues
  origins : c.origins.Perm d.origins

namespace Reordered

variable (h : Reordered documents documents') (hc : Consistent documents)
include h hc

theorem permUpTo_own {α β : Type} {r : α → β → Prop} {f : Member → Option α}
    {g : Member → Option β} (hfg : ∀ x y, x.Agrees y → Option.Rel r (f x) (g y))
    (strictness : Strictness) (name : String) :
    PermUpTo r (((resolvedMembers strictness documents).filter (·.domain = name)).filterMap f)
      (((resolvedMembers strictness documents').filter (·.domain = name)).filterMap g) := by
  rw [filterMap_own, filterMap_own]
  refine permUpTo_filterMap h.perm_memberKeys fun key => ?_
  refine rel_bind (h.resolvedMember?_agrees hc strictness key) fun x y hxy => ?_
  have hdomain : y.domain = x.domain := hxy.property.domain
  rw [hdomain]
  split
  · exact hfg x y hxy
  · exact .none

theorem perm_enumValues (enumeration : String) :
    (enumValues documents enumeration).Perm (enumValues documents' enumeration) := by
  have hperm : (valuesOf documents enumeration).Perm (valuesOf documents' enumeration) :=
    h.perm_values.filter _
  have hcomment (name : String) :
      valueComment? documents enumeration name = valueComment? documents' enumeration name := by
    refine findSome?_perm (hperm.filter _) fun v hv w hw => ?_
    obtain ⟨hv, hvname⟩ := List.mem_filter.1 hv
    obtain ⟨hw, hwname⟩ := List.mem_filter.1 hw
    obtain ⟨hv, hvenum⟩ := List.mem_filter.1 hv
    obtain ⟨hw, hwenum⟩ := List.mem_filter.1 hw
    apply hc.values v hv w hw
    · rw [of_decide_eq_true hvenum, of_decide_eq_true hwenum]
    · rw [of_decide_eq_true hvname, of_decide_eq_true hwname]
  rw [enumValues_eq, enumValues_eq]
  simp only [hcomment]
  exact (perm_eraseDups (hperm.map _)).map _

/-- The record of a class agrees. -/
theorem builtRecord_agrees (strictness : Strictness) (name : String) :
    (builtRecord strictness documents name).Agrees (builtRecord strictness documents' name) := by
  have hclass := h.mergedClass_agrees hc name
  have hassociations (ds : List Document) : (builtRecord strictness ds name).associations =
      ((resolvedMembers strictness ds).filter (·.domain = name)).filterMap
        (·.linkedAssociation? (Model.unlinked strictness ds).bases (.ofDocuments ds)) :=
    List.map_filterMap ..
  constructor
  · simp only [builtRecord, unlinkedRecord, classRecord, ClassRecord.linkInverses, hclass.base,
      hclass.kind, hclass.documentation, hclass.package, hclass.declared, h.measured_eq hc]
  · exact h.permUpTo_own hc (fun _ _ hxy => h.attribute?_agrees hc hxy) strictness name
  · rw [hassociations, hassociations, h.bases_unlinked_eq hc]
    exact h.permUpTo_own hc (fun _ _ hxy => h.linkedAssociation?_agrees hc _ hxy) strictness name
  · exact h.perm_enumValues hc name
  · exact hclass.origins

/-! ### Faults -/

theorem perm_memberFaults (strictness : Strictness) :
    (memberFaults strictness documents).Perm (memberFaults strictness documents') := by
  have hknown (name : String) : name ∈ knownClasses (strictness = .inferring) documents ↔
      name ∈ knownClasses (strictness = .inferring) documents' :=
    (h.perm_knownClasses _).mem_iff
  -- Another declaration may come first, but it has the same fault.
  have hfault (key : MemberKey) :
      ((declarationsOf documents key).head?.bind fun e =>
        e.2.fault? (knownClasses (strictness = .inferring) documents)) =
      (declarationsOf documents' key).head?.bind fun e =>
        e.2.fault? (knownClasses (strictness = .inferring) documents') := by
    refine bind_eq_of_rel (h.rel_head?_declarationsOf hc key) fun e f hef => ?_
    obtain ⟨hkey, hef⟩ := hef
    obtain ⟨hdomain, hname⟩ := Prod.mk.inj hkey
    simp only [PropertyDeclaration.fault?, PropertyDeclaration.valueType, hknown, hdomain, hname,
      hef.id, hef.range, hef.dataType]
  rw [memberFaults, memberFaults, funext hfault]
  exact h.perm_memberKeys.filterMap _

theorem perm_baseFaults (strictness : Strictness) :
    (baseFaults strictness documents).Perm (baseFaults strictness documents') := by
  have hperm := h.perm_knownClasses (decide (strictness = .inferring))
  have hfault (name : String) :
      baseFault? (knownClasses (strictness = .inferring) documents) documents name =
        baseFault? (knownClasses (strictness = .inferring) documents') documents' name := by
    simp only [baseFault?, h.mergedBase?_eq hc, hperm.mem_iff]
  rw [baseFaults, baseFaults, funext hfault]
  refine (List.mergeSort_perm _ _).trans (List.Perm.trans ?_ (List.mergeSort_perm _ _).symm)
  exact hperm.filterMap _

theorem cycles_eq (strictness : Strictness) :
    (knownBases (.ofDocuments (strictness = .inferring) documents)).cycles =
      (knownBases (.ofDocuments (strictness = .inferring) documents')).cycles := by
  have hremaining : remainingBase? strictness documents = remainingBase? strictness documents' := by
    funext name
    simp only [remainingBase?, h.mergedBase?_eq hc, (h.perm_knownClasses _).mem_iff]
  have hcycles := (knownBases (.ofDocuments (strictness = .inferring) documents)).listsCycles
  have hcycles' := (knownBases (.ofDocuments (strictness = .inferring) documents')).listsCycles
  rw [get?_knownBases] at hcycles hcycles'
  rw [hremaining] at hcycles
  exact hcycles.unique hcycles'

/-- The same faults are found. -/
theorem perm_foundFaults (strictness : Strictness) :
    (foundFaults strictness documents).Perm (foundFaults strictness documents') := by
  rw [foundFaults, foundFaults, h.cycles_eq hc]
  refine List.Perm.append (List.Perm.append ?_ ?_) (.refl _)
  · exact h.perm_memberFaults hc strictness
  · exact h.perm_baseFaults hc strictness

end Reordered

/-! ### The outcome -/

/-- Two models are the same up to the order of members, values and origins in their records. -/
def Model.Agrees (m n : Model) : Prop :=
  List.Forall₂ ClassRecord.Agrees m.classes n.classes

/-- **Order.** If the declarations of some files do not contradict each other, then in another order
they give the same model, up to the order within its records, or the same errors. -/
theorem Model.agrees_of_reordered (strictness : Strictness) (hc : Consistent documents)
    (h : Reordered documents documents') :
    match ofDocuments strictness documents, ofDocuments strictness documents' with
    | .ok m, .ok n => m.Agrees n
    | .error e, .error f => e.leaves.Perm f.leaves
    | _, _ => False := by
  have hfaults := h.perm_foundFaults hc strictness
  cases hm : ofDocuments strictness documents with
  | ok m =>
    rw [foundFaults_of_eq_ok hm] at hfaults
    cases hn : ofDocuments strictness documents' with
    | ok n =>
      change List.Forall₂ _ _ _
      rw [classes_of_ofDocuments hm, classes_of_ofDocuments hn, h.knownNames_eq,
        List.forall₂_map_left_iff, List.forall₂_map_right_iff, List.forall₂_same]
      intro name _
      exact h.builtRecord_agrees hc strictness name
    | error f =>
      -- There would be a fault in one order and none in the other.
      exact (foundFaults_of_eq_error hn).1 hfaults.nil_eq.symm
  | error e =>
    obtain ⟨hne, hleaves⟩ := foundFaults_of_eq_error hm
    cases hn : ofDocuments strictness documents' with
    | ok n =>
      rw [foundFaults_of_eq_ok hn] at hfaults
      exact hne (List.perm_nil.1 hfaults)
    | error f =>
      obtain ⟨-, hleaves'⟩ := foundFaults_of_eq_error hn
      change e.leaves.Perm f.leaves
      rw [hleaves, hleaves']
      exact hfaults

/-- Two files about lines. The second has the terminals, to which the first refers, and completes
what is said of lines and lengths. -/
def gridDocuments : List Document := [
  { source := "equipment.rdf"
    keyword := some "EQ"
    declarations := [
      .cls { id := "Line", superClass := some "Equipment" },
      .property {
        id := "Line.Terminals", domain := "Line", range := some "Terminal",
        multiplicity := some "M:0..n", inverseRole := some "Terminal.Line" },
      .property { id := "Line.length", domain := "Line", dataType := some "Length" },
      .cls { id := "Length", stereotypes := ["CIMDatatype"] },
      .property { id := "Length.value", domain := "Length", dataType := some "Decimal" },
      .cls { id := "Equipment" }] },
  { source := "topology.rdf"
    keyword := some "TP"
    declarations := [
      .cls { id := "Terminal" },
      .property {
        id := "Terminal.Line", domain := "Terminal", range := some "Line",
        multiplicity := some "M:1", inverseRole := some "Line.Terminals" },
      .property { id := "Terminal.phases", domain := "Terminal", range := some "PhaseCode" },
      .value { id := "PhaseCode.A", enumeration := "PhaseCode" },
      .value { id := "PhaseCode.B", enumeration := "PhaseCode", comment := some "Second phase." },
      .cls { id := "Line", comment := some "A line of a grid." },
      .property {
        id := "Length.unit", domain := "Length", dataType := some "Decimal", fixed := some "m" },
      .cls { id := "Decimal", stereotypes := ["Primitive"] }] }]

theorem agrees_gridDocuments :
    ∃ m n, Model.ofDocuments .strict gridDocuments = .ok m ∧
      Model.ofDocuments .strict (gridDocuments.reverse.map Document.reverse) = .ok n ∧
      (m.get? "Line").map (·.origins) = some ["EQ", "TP"] ∧
      (n.get? "Line").map (·.origins) = some ["TP", "EQ"] ∧ m.Agrees n := by
  have hok : (Model.ofDocuments .strict gridDocuments).isOk = true := by decide +kernel
  have hok' :
      (Model.ofDocuments .strict (gridDocuments.reverse.map Document.reverse)).isOk = true := by
    decide +kernel
  obtain ⟨m, hm⟩ := exists_of_isOk hok
  obtain ⟨n, hn⟩ := exists_of_isOk hok'
  have hagrees := Model.agrees_of_reordered .strict (by decide) (reordered_reverse gridDocuments)
  rw [hm, hn] at hagrees
  refine ⟨m, n, hm, hn, ?_, ?_, hagrees⟩
  · rw [Model.get?_of_ofDocuments hm (by decide)]
    decide
  · rw [Model.get?_of_ofDocuments hn (by decide)]
    decide

end CimSchema
