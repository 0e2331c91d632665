import CimSchema.Proofs.Merge.Classes
import CimSchema.Proofs.Merge.Properties
import CimSchema.Proofs.Repetition
import CimSchema.Proofs.Resolve.Values

/-!
# Building a model from files that come again

A file that was read before says nothing new: what it states is there already, and what it leaves
open was not filled in by it the first time either. This holds however many other files stand between
the two, and for the errors as for the model.

## Main results

* `MergedClass.absorbs_addStereotype` - a stereotype that comes again changes nothing.
* `EqUpToRepeats.mergedClass_eq`, `EqUpToRepeats.mergedProperty?_eq` - what is merged of a class and
  of a member.
* `EqUpToRepeats.classTable_eq`, `EqUpToRepeats.propertyTable_eq` - the tables of some files.
* `Model.ofDocuments_eraseDups` - only the first of equal files counts.
* `Model.ofDocuments_repeated` - the outcome for files of which one comes again.
-/

namespace CimSchema

variable {documents documents' : List Document}

/-- A stereotype that comes again changes nothing, even among others. -/
theorem MergedClass.absorbs_addStereotype : Absorbs addStereotype := by
  intro stereotypes added s hs
  have hthere : hasStereotype added s = true :=
    List.any_eq_true.2 ⟨s, hs, beq_self_eq_true _⟩
  rw [addStereotype, hasStereotype_foldl, hthere, Bool.or_true, if_pos rfl]

namespace EqUpToRepeats

variable (h : EqUpToRepeats documents documents')
include h

/-! ### Classes -/

theorem signedClasses : EqUpToRepeats (signedClasses documents) (signedClasses documents') :=
  h.flatMap _

theorem classDeclarationsOf (name : String) :
    EqUpToRepeats (classDeclarationsOf documents name) (classDeclarationsOf documents' name) :=
  h.signedClasses.filter _

theorem valueOwners : EqUpToRepeats (valueOwners documents) (valueOwners documents') :=
  h.flatMap _

theorem referredPrimitives :
    EqUpToRepeats (referredPrimitives documents) (referredPrimitives documents') :=
  (h.flatMap _).filter _

theorem knownClasses_eq (infer : Bool) :
    knownClasses infer documents = knownClasses infer documents' := by
  refine eraseDups_eq (append (append (h.signedClasses.map _) h.valueOwners) ?_)
  cases infer with
  | false => exact refl []
  | true => exact h.referredPrimitives

theorem declaredClass_eq (name : String) :
    declaredClass documents name = declaredClass documents' name := by
  have hdeclarations := h.classDeclarationsOf name
  have hstereotypes := (hdeclarations.flatMap (·.2.stereotypes)).foldl_eq
    MergedClass.absorbs_addStereotype []
  have hnone : (CimSchema.classDeclarationsOf documents name).isEmpty =
      (CimSchema.classDeclarationsOf documents' name).isEmpty := by
    rw [Bool.eq_iff_iff, List.isEmpty_iff, List.isEmpty_iff, hdeclarations.eq_nil_iff]
  rw [CimSchema.declaredClass_eq, CimSchema.declaredClass_eq, mergedBase?, mergedBase?]
  rw [hdeclarations.findSome?_eq, hdeclarations.findSome?_eq, hdeclarations.findSome?_eq,
    hstereotypes, (hdeclarations.filterMap _).eraseDups_eq, hnone]

theorem mergedClass_eq (name : String) :
    mergedClass documents name = mergedClass documents' name := by
  rw [mergedClass, mergedClass, h.declaredClass_eq]
  simp only [h.valueOwners.mem_iff, (h.classDeclarationsOf name).eq_nil_iff]

/-- The table of classes is the same. -/
theorem classTable_eq (infer : Bool) :
    ClassTable.ofDocuments infer documents = ClassTable.ofDocuments infer documents' := by
  refine FirstSeen.eq_of_get?_eq ?_ ?_ fun name => ?_
  · rw [ClassTable.keys_ofDocuments]
    exact nodup_eraseDups _
  · rw [ClassTable.keys_ofDocuments, ClassTable.keys_ofDocuments, h.knownClasses_eq]
  · rw [ClassTable.get?_ofDocuments, ClassTable.get?_ofDocuments, h.knownClasses_eq,
      h.mergedClass_eq]

/-! ### Members -/

theorem signedProperties :
    EqUpToRepeats (signedProperties documents) (signedProperties documents') :=
  h.flatMap _

theorem declarationsOf (key : MemberKey) :
    EqUpToRepeats (declarationsOf documents key) (declarationsOf documents' key) :=
  h.signedProperties.filter _

theorem memberKeys_eq : memberKeys documents = memberKeys documents' :=
  (h.signedProperties.map _).eraseDups_eq

theorem mergedProperty?_eq (key : MemberKey) :
    mergedProperty? documents key = mergedProperty? documents' key := by
  have hdeclarations := h.declarationsOf key
  rw [CimSchema.mergedProperty?_eq, CimSchema.mergedProperty?_eq]
  rw [hdeclarations.head?_eq, hdeclarations.findSome?_eq, hdeclarations.findSome?_eq,
    hdeclarations.findSome?_eq, hdeclarations.findSome?_eq,
    (hdeclarations.filterMap _).eraseDups_eq]

/-- The table of members is the same, and so is the member that each `id` stands for. -/
theorem propertyTable_eq :
    PropertyTable.ofDocuments documents = PropertyTable.ofDocuments documents' := by
  have hmembers :
      (PropertyTable.ofDocuments documents).members =
        (PropertyTable.ofDocuments documents').members := by
    refine FirstSeen.eq_of_get?_eq (PropertyTable.nodup_keys_members documents) ?_ fun key => ?_
    · rw [PropertyTable.keys_members, PropertyTable.keys_members, h.memberKeys_eq]
    · rw [PropertyTable.get?_members, PropertyTable.get?_members, h.mergedProperty?_eq]
  have hkeys :
      (PropertyTable.ofDocuments documents).keys = (PropertyTable.ofDocuments documents').keys := by
    refine FirstSeen.eq_of_get?_eq ?_ ?_ fun id => ?_
    · rw [PropertyTable.keys_keys]
      exact nodup_eraseDups _
    · rw [PropertyTable.keys_keys, PropertyTable.keys_keys]
      exact (h.signedProperties.map _).eraseDups_eq
    · rw [PropertyTable.get?_keys, PropertyTable.get?_keys, (h.signedProperties.filter _).head?_eq]
  exact congrArg₂ PropertyTable.mk hmembers hkeys

/-! ### Values of enumerations -/

theorem enumValues_eq (enumeration : String) :
    enumValues documents enumeration = enumValues documents' enumeration := by
  have hvalues : EqUpToRepeats (valuesOf documents enumeration) (valuesOf documents' enumeration) :=
    (h.flatMap _).filter _
  rw [CimSchema.enumValues_eq, CimSchema.enumValues_eq, (hvalues.map _).eraseDups_eq]
  simp only [valueComment?, (hvalues.filter _).findSome?_eq]

/-! ### The outcome -/

/-- Files that differ in repetitions only have the same outcome. -/
theorem ofDocuments_eq (strictness : Strictness) :
    Model.ofDocuments strictness documents = Model.ofDocuments strictness documents' := by
  have hrecord : classRecord documents = classRecord documents' := by
    funext members name c
    rw [classRecord, classRecord, h.enumValues_eq]
  rw [Model.ofDocuments, Model.ofDocuments, h.classTable_eq, h.propertyTable_eq, hrecord]

end EqUpToRepeats

/-- Only the first of equal files counts. -/
theorem Model.ofDocuments_eraseDups (strictness : Strictness) (documents : List Document) :
    ofDocuments strictness documents.eraseDups = ofDocuments strictness documents := by
  refine EqUpToRepeats.ofDocuments_eq ?_ strictness
  rw [← foldl_addNew]
  exact EqUpToRepeats.foldl_distinct absorbs_addNew documents []

/-- **Repetition.** A file that comes again, after any other files, does not change the outcome: the
model is the same, or else the errors are. -/
theorem Model.ofDocuments_repeated (strictness : Strictness) (before between after : List Document)
    (d : Document) :
    ofDocuments strictness (before ++ [d] ++ between ++ [d] ++ after) =
      ofDocuments strictness (before ++ [d] ++ between ++ after) := by
  have hagain : d ∈ before ++ [d] ++ between := by simp
  exact ((EqUpToRepeats.concat_of_mem hagain).append (.refl after)).ofDocuments_eq strictness

end CimSchema
