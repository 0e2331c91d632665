import CimSchema.Proofs.Merge.Classes
import CimSchema.Proofs.Merge.Properties
import CimSchema.Proofs.Reorder
import Mathlib.Tactic.MkIffOfInductiveProp

/-!
# Merging in another order

Declarations of one class or member are merged in the order in which they come. Where they do not
contradict each other, another order of the files, and of the declarations in each of them, changes
at most the order of what is collected.

## Main definitions

* `Reordered` - the same files in another order, each with its declarations in another order.
* `Consistent` - files in which no two declarations contradict each other.
* `MergedClass.Agrees`, `MergedProperty.Agrees` - the same up to the order of what is collected.

## Main results

* `Reordered.perm_knownClasses`, `Reordered.perm_memberKeys` - the same classes and members.
* `Reordered.mergedClass_agrees`, `Reordered.mergedProperty?_agrees` - what is merged agrees.
* `Reordered.byId?_agrees` - what is found for the `id` of a property agrees.
-/

namespace CimSchema

/-- `e` is `d` with its declarations in another order. -/
structure Document.Reordered (d e : Document) : Prop where
  source : e.source = d.source
  keyword : e.keyword = d.keyword
  version : e.version = d.version
  declarations : d.declarations.Perm e.declarations

/-- The same files in another order, each with its declarations in another order. -/
def Reordered (documents documents' : List Document) : Prop :=
  PermUpTo Document.Reordered documents documents'

/-- The file with its declarations in opposite order. -/
def Document.reverse (d : Document) : Document :=
  { d with declarations := d.declarations.reverse }

theorem reordered_reverse (documents : List Document) :
    Reordered documents (documents.reverse.map Document.reverse) := by
  refine ⟨documents.reverse, documents.reverse_perm.symm, ?_⟩
  rw [List.forall₂_map_right_iff, List.forall₂_same]
  intro d _
  exact ⟨rfl, rfl, rfl, d.declarations.reverse_perm.symm⟩

/-! ### Declarations that do not contradict each other -/

/-- Two declarations of a class do not contradict each other. -/
@[mk_iff]
structure ClassDeclaration.ConsistentWith (c d : ClassDeclaration) : Prop where
  superClass : Compatible c.superClass d.superClass
  comment : Compatible c.comment d.comment
  package : Compatible c.package d.package

/-- Two declarations of a member have the same type, and do not contradict each other. -/
@[mk_iff]
structure PropertyDeclaration.ConsistentWith (p q : PropertyDeclaration) : Prop where
  id : q.id = p.id
  range : q.range = p.range
  dataType : q.dataType = p.dataType
  multiplicity : q.multiplicity = p.multiplicity
  comment : Compatible p.comment q.comment
  fixed : Compatible p.fixed q.fixed
  inverseRole : Compatible p.inverseRole q.inverseRole
  associationUsed : Compatible p.associationUsed q.associationUsed

/-- No two declarations of some files contradict each other. -/
@[mk_iff]
structure Consistent (documents : List Document) : Prop where
  classes : ∀ c ∈ documents.flatMap (·.classes), ∀ d ∈ documents.flatMap (·.classes),
    c.id = d.id → c.ConsistentWith d
  properties : ∀ p ∈ documents.flatMap (·.properties), ∀ q ∈ documents.flatMap (·.properties),
    p.key = q.key → p.ConsistentWith q
  /-- No `id` stands for two members. -/
  ids : ∀ p ∈ documents.flatMap (·.properties), ∀ q ∈ documents.flatMap (·.properties),
    p.id = q.id → p.key = q.key
  values : ∀ v ∈ documents.flatMap (·.values), ∀ w ∈ documents.flatMap (·.values),
    v.enumeration = w.enumeration → v.name = w.name → Compatible v.comment w.comment

instance (c d : ClassDeclaration) : Decidable (c.ConsistentWith d) :=
  decidable_of_iff' _ (ClassDeclaration.consistentWith_iff c d)

instance (p q : PropertyDeclaration) : Decidable (p.ConsistentWith q) :=
  decidable_of_iff' _ (PropertyDeclaration.consistentWith_iff p q)

instance (documents : List Document) : Decidable (Consistent documents) :=
  decidable_of_iff' _ (consistent_iff documents)

variable {documents documents' : List Document} {name : String} {key : MemberKey}

theorem mem_properties_of_mem_signedProperties {e : Option String × PropertyDeclaration}
    (he : e ∈ signedProperties documents) : e.2 ∈ documents.flatMap (·.properties) := by
  obtain ⟨d, hd, p, hp, rfl⟩ := mem_signedProperties_iff.1 he
  exact List.mem_flatMap_of_mem hd hp

namespace Consistent

variable (hc : Consistent documents)
include hc

theorem classDeclarations {e f : Option String × ClassDeclaration}
    (he : e ∈ classDeclarationsOf documents name) (hf : f ∈ classDeclarationsOf documents name) :
    e.2.ConsistentWith f.2 := by
  obtain ⟨he, hename⟩ := List.mem_filter.1 he
  obtain ⟨hf, hfname⟩ := List.mem_filter.1 hf
  have hid : e.2.id = f.2.id := (of_decide_eq_true hename).trans (of_decide_eq_true hfname).symm
  obtain ⟨d, hd, c, hcd, rfl⟩ := mem_signedClasses_iff.1 he
  obtain ⟨d', hd', c', hcd', rfl⟩ := mem_signedClasses_iff.1 hf
  exact hc.classes c (List.mem_flatMap_of_mem hd hcd) c' (List.mem_flatMap_of_mem hd' hcd') hid

theorem declarations {e f : Option String × PropertyDeclaration}
    (he : e ∈ declarationsOf documents key) (hf : f ∈ declarationsOf documents key) :
    e.2.ConsistentWith f.2 := by
  obtain ⟨he, hekey⟩ := List.mem_filter.1 he
  obtain ⟨hf, hfkey⟩ := List.mem_filter.1 hf
  have hkey : e.2.key = f.2.key := (of_decide_eq_true hekey).trans (of_decide_eq_true hfkey).symm
  exact hc.properties e.2 (mem_properties_of_mem_signedProperties he) f.2
    (mem_properties_of_mem_signedProperties hf) hkey

theorem key_eq {id : String} {e f : Option String × PropertyDeclaration}
    (he : e ∈ (signedProperties documents).filter (·.2.id = id))
    (hf : f ∈ (signedProperties documents).filter (·.2.id = id)) : e.2.key = f.2.key := by
  obtain ⟨he, heid⟩ := List.mem_filter.1 he
  obtain ⟨hf, hfid⟩ := List.mem_filter.1 hf
  have hid : e.2.id = f.2.id := (of_decide_eq_true heid).trans (of_decide_eq_true hfid).symm
  exact hc.ids e.2 (mem_properties_of_mem_signedProperties he) f.2
    (mem_properties_of_mem_signedProperties hf) hid

end Consistent

/-! ### Merged declarations -/

/-- Two merged classes are the same up to the order of stereotypes and origins. -/
structure MergedClass.Agrees (c d : MergedClass) : Prop where
  base : d.base = c.base
  kind : d.kind = c.kind
  documentation : d.documentation = c.documentation
  package : d.package = c.package
  declared : d.declared = c.declared
  origins : c.origins.Perm d.origins

/-- Two merged members are the same up to what no record shows and the order of origins. -/
structure MergedProperty.Agrees (p q : MergedProperty) : Prop where
  id : q.declaration.id = p.declaration.id
  domain : q.declaration.domain = p.declaration.domain
  name : q.declaration.name = p.declaration.name
  range : q.declaration.range = p.declaration.range
  dataType : q.declaration.dataType = p.declaration.dataType
  multiplicity : q.declaration.multiplicity = p.declaration.multiplicity
  comment : q.declaration.comment = p.declaration.comment
  fixed : q.declaration.fixed = p.declaration.fixed
  inverseRole : q.declaration.inverseRole = p.declaration.inverseRole
  associationUsed : q.declaration.associationUsed = p.declaration.associationUsed
  origins : p.origins.Perm q.origins

namespace Reordered

variable (h : Reordered documents documents')
include h

theorem perm_signedClasses : (signedClasses documents).Perm (signedClasses documents') := by
  refine h.perm_flatMap fun d e hde => ?_
  rw [hde.keyword]
  exact (hde.declarations.filterMap _).map _

theorem perm_signedProperties :
    (signedProperties documents).Perm (signedProperties documents') := by
  refine h.perm_flatMap fun d e hde => ?_
  rw [hde.keyword]
  exact (hde.declarations.filterMap _).map _

theorem perm_values : (documents.flatMap (·.values)).Perm (documents'.flatMap (·.values)) :=
  h.perm_flatMap fun _ _ hde => hde.declarations.filterMap _

theorem perm_classDeclarationsOf (name : String) :
    (classDeclarationsOf documents name).Perm (classDeclarationsOf documents' name) :=
  h.perm_signedClasses.filter _

theorem perm_declarationsOf (key : MemberKey) :
    (declarationsOf documents key).Perm (declarationsOf documents' key) :=
  h.perm_signedProperties.filter _

/-! ### Classes -/

theorem perm_valueOwners : (valueOwners documents).Perm (valueOwners documents') :=
  h.perm_flatMap fun _ _ hde => (hde.declarations.filterMap _).map _

theorem perm_referredPrimitives :
    (referredPrimitives documents).Perm (referredPrimitives documents') := by
  refine List.Perm.filter _ (h.perm_flatMap fun d e hde => ?_)
  exact (hde.declarations.filterMap _).filterMap _

/-- The same classes are known. -/
theorem perm_knownClasses (infer : Bool) :
    (knownClasses infer documents).Perm (knownClasses infer documents') := by
  refine perm_eraseDups (List.Perm.append ?_ ?_)
  · exact (h.perm_signedClasses.map _).append h.perm_valueOwners
  · cases infer with
    | false => exact .nil
    | true => exact h.perm_referredPrimitives

theorem mergedBase?_eq (hc : Consistent documents) (name : String) :
    mergedBase? documents name = mergedBase? documents' name :=
  findSome?_perm (h.perm_classDeclarationsOf name) fun _ he _ hf =>
    (hc.classDeclarations he hf).superClass

/-- What is known of a class agrees. -/
theorem mergedClass_agrees (hc : Consistent documents) (name : String) :
    (mergedClass documents name).Agrees (mergedClass documents' name) := by
  have hperm := h.perm_classDeclarationsOf name
  -- The shape depends on which stereotypes there are, not on their order.
  have hstereotypes (stereotype : String) :
      hasStereotype (mergedClass documents' name).stereotypes stereotype =
        hasStereotype (mergedClass documents name).stereotypes stereotype := by
    rw [mergedClass, mergedClass, declaredClass_eq, declaredClass_eq]
    dsimp only
    rw [MergedClass.hasStereotype_foldl, MergedClass.hasStereotype_foldl]
    exact congrArg _ (hperm.flatMap_right _).any_eq.symm
  have hvalues : (mergedClass documents' name).hasValues = (mergedClass documents name).hasValues :=
    decide_eq_decide.2 h.perm_valueOwners.mem_iff.symm
  have hinferred :
      (mergedClass documents' name).inferred = (mergedClass documents name).inferred := by
    refine decide_eq_decide.2 (and_congr ?_ (not_congr h.perm_valueOwners.mem_iff.symm))
    rw [← List.isEmpty_iff, ← List.isEmpty_iff, hperm.isEmpty_eq]
  constructor
  · rw [base_mergedClass, base_mergedClass, h.mergedBase?_eq hc]
  · simp only [MergedClass.kind, hstereotypes, hvalues, hinferred]
  · rw [mergedClass, mergedClass, declaredClass_eq, declaredClass_eq]
    exact (findSome?_perm hperm fun _ he _ hf => (hc.classDeclarations he hf).comment).symm
  · rw [mergedClass, mergedClass, declaredClass_eq, declaredClass_eq]
    exact (findSome?_perm hperm fun _ he _ hf => (hc.classDeclarations he hf).package).symm
  · rw [mergedClass, mergedClass, declaredClass_eq, declaredClass_eq]
    exact congrArg not hperm.isEmpty_eq.symm
  · rw [mergedClass, mergedClass, declaredClass_eq, declaredClass_eq]
    exact perm_eraseDups (hperm.filterMap _)

/-! ### Members -/

/-- The same members are declared. -/
theorem perm_memberKeys : (memberKeys documents).Perm (memberKeys documents') :=
  perm_eraseDups (h.perm_signedProperties.map _)

/-- The declaration of a member that comes first may be another one, but of the same type. -/
theorem rel_head?_declarationsOf (hc : Consistent documents) (key : MemberKey) :
    Option.Rel (fun e f => e.2.key = f.2.key ∧ e.2.ConsistentWith f.2)
      (declarationsOf documents key).head? (declarationsOf documents' key).head? := by
  have hkey : ∀ e ∈ declarationsOf documents key, e.2.key = key := by
    intro e he
    exact of_decide_eq_true (List.mem_filter.1 he).2
  refine rel_head?_of_perm (h.perm_declarationsOf key) fun e he f hf => ?_
  exact ⟨(hkey e he).trans (hkey f hf).symm, hc.declarations he hf⟩

/-- What is merged of a member agrees. -/
theorem mergedProperty?_agrees (hc : Consistent documents) (key : MemberKey) :
    Option.Rel MergedProperty.Agrees (mergedProperty? documents key)
      (mergedProperty? documents' key) := by
  have hperm := h.perm_declarationsOf key
  rw [mergedProperty?_eq, mergedProperty?_eq]
  -- What is filled in is the same; the rest comes from the declarations that come first.
  rw [findSome?_perm hperm fun _ he _ hf => (hc.declarations he hf).comment,
    findSome?_perm hperm fun _ he _ hf => (hc.declarations he hf).fixed,
    findSome?_perm hperm fun _ he _ hf => (hc.declarations he hf).inverseRole,
    findSome?_perm hperm fun _ he _ hf => (hc.declarations he hf).associationUsed]
  refine rel_map (h.rel_head?_declarationsOf hc key) fun e f hef => ?_
  obtain ⟨hkey, hef⟩ := hef
  obtain ⟨hdomain, hname⟩ := Prod.mk.inj hkey
  exact {
    id := hef.id
    domain := hdomain.symm
    name := hname.symm
    range := hef.range
    dataType := hef.dataType
    multiplicity := hef.multiplicity
    comment := rfl
    fixed := rfl
    inverseRole := rfl
    associationUsed := rfl
    origins := perm_eraseDups (hperm.filterMap _) }

/-- What is found for the `id` of a property agrees. -/
theorem byId?_agrees (hc : Consistent documents) (id : String) :
    Option.Rel MergedProperty.Agrees ((PropertyTable.ofDocuments documents).byId? id)
      ((PropertyTable.ofDocuments documents').byId? id) := by
  have hheads := rel_head?_of_perm (r := fun e f => e.2.key = f.2.key)
    (h.perm_signedProperties.filter (·.2.id = id)) fun _ he _ hf => hc.key_eq he hf
  rw [PropertyTable.byId?_ofDocuments, PropertyTable.byId?_ofDocuments]
  -- Whichever declaration has the `id` first, it declares the same member.
  refine rel_bind hheads fun e f hef => ?_
  rw [hef]
  exact h.mergedProperty?_agrees hc f.2.key

end Reordered

end CimSchema
