import CimSchema.Proofs.Resolve.Records

/-!
# What the records of a built model are merged from

A class and a member may be declared in several files. Here the records of a built model are
described by the declarations alone, taken in the order of the files and within a file in its order:
of what can be said only once the first counts, and the rest is collected.

## Main definitions

* `declaredKind` - the shape that the declarations of a class and its values give it.
* `Attribute.Merges`, `Association.Merges` - a record of a member is merged from its declarations.
* `ClassRecord.Merges`, `Model.Merges` - so are the records of classes.

## Main results

* `kind_mergedClass` - no stereotype of any declaration gets lost.
* `exists_resolvedMember?` - each declared member of a model that is built has a record.
* `Model.merges_of_ofDocuments` - a built model is merged from the declarations of its files.
-/

namespace CimSchema

variable {strictness : Strictness} {documents : List Document} {m : Model} {name : String}
  {key : MemberKey}

/-! ### Shapes -/

/-- Whether a declaration of the class `name` has a stereotype, in any case of ASCII letters. -/
def DeclaresStereotype (documents : List Document) (name stereotype : String) : Prop :=
  ∃ d ∈ documents, ∃ c ∈ d.classes, c.id = name ∧
    ∃ s ∈ c.stereotypes, Text.sameAscii s stereotype = true

instance (documents : List Document) (name stereotype : String) :
    Decidable (DeclaresStereotype documents name stereotype) :=
  inferInstanceAs (Decidable (∃ d ∈ documents, ∃ c ∈ d.classes, c.id = name ∧
    ∃ s ∈ c.stereotypes, Text.sameAscii s stereotype = true))

/-- The shape of a class by the stereotypes of all its declarations and by its values. A class that
has neither a declaration nor a value is a primitive that is only referred to. -/
def declaredKind (documents : List Document) (name : String) : ClassKind :=
  if DeclaresStereotype documents name "Primitive" then .primitive
  else if DeclaresStereotype documents name "CIMDatatype" then .datatype
  else if DeclaresStereotype documents name "enumeration" ∨
      ∃ d ∈ documents, ∃ v ∈ d.values, v.enumeration = name then .enumeration
  else if DeclaresStereotype documents name "Compound" then .compound
  else if ∃ d ∈ documents, ∃ c ∈ d.classes, c.id = name then .regular
  else .primitive

theorem mem_classDeclarationsOf_iff {e : Option String × ClassDeclaration} :
    e ∈ classDeclarationsOf documents name ↔
      (∃ d ∈ documents, ∃ c ∈ d.classes, (d.keyword, c) = e) ∧ e.2.id = name := by
  rw [classDeclarationsOf, List.mem_filter, mem_signedClasses_iff, decide_eq_true_iff]

theorem hasStereotype_classDeclarationsOf (stereotype : String) :
    hasStereotype ((classDeclarationsOf documents name).flatMap (·.2.stereotypes)) stereotype =
      decide (DeclaresStereotype documents name stereotype) := by
  rw [Bool.eq_iff_iff, decide_eq_true_iff, hasStereotype, List.any_eq_true]
  constructor
  · rintro ⟨s, hs, hsame⟩
    obtain ⟨e, he, hs⟩ := List.mem_flatMap.1 hs
    obtain ⟨⟨d, hd, c, hc, rfl⟩, hid⟩ := mem_classDeclarationsOf_iff.1 he
    exact ⟨d, hd, c, hc, hid, s, hs, hsame⟩
  · rintro ⟨d, hd, c, hc, hid, s, hs, hsame⟩
    have he : (d.keyword, c) ∈ classDeclarationsOf documents name :=
      mem_classDeclarationsOf_iff.2 ⟨⟨d, hd, c, hc, rfl⟩, hid⟩
    exact ⟨s, List.mem_flatMap.2 ⟨_, he, hs⟩, hsame⟩

theorem classDeclarationsOf_eq_nil_iff :
    classDeclarationsOf documents name = [] ↔ ¬ ∃ d ∈ documents, ∃ c ∈ d.classes, c.id = name := by
  rw [List.eq_nil_iff_forall_not_mem]
  constructor
  · rintro h ⟨d, hd, c, hc, hid⟩
    exact h (d.keyword, c) (mem_classDeclarationsOf_iff.2 ⟨⟨d, hd, c, hc, rfl⟩, hid⟩)
  · intro h e he
    obtain ⟨⟨d, hd, c, hc, rfl⟩, hid⟩ := mem_classDeclarationsOf_iff.1 he
    exact h ⟨d, hd, c, hc, hid⟩

theorem mem_valueOwners_iff :
    name ∈ valueOwners documents ↔ ∃ d ∈ documents, ∃ v ∈ d.values, v.enumeration = name := by
  rw [valueOwners, List.mem_flatMap]
  simp only [List.mem_map]

/-- The shape of a class is that which all its declarations together give it. -/
theorem kind_mergedClass (documents : List Document) (name : String) :
    (mergedClass documents name).kind = declaredKind documents name := by
  have hstereotype (stereotype : String) :
      hasStereotype (mergedClass documents name).stereotypes stereotype =
        decide (DeclaresStereotype documents name stereotype) := by
    rw [mergedClass, declaredClass_eq, MergedClass.hasStereotype_foldl,
      hasStereotype_classDeclarationsOf]
    exact Bool.false_or _
  have hvalues : (mergedClass documents name).hasValues = true ↔
      ∃ d ∈ documents, ∃ v ∈ d.values, v.enumeration = name := by
    rw [mergedClass, decide_eq_true_iff, mem_valueOwners_iff]
  have hinferred : (mergedClass documents name).inferred = true ↔
      (¬ ∃ d ∈ documents, ∃ c ∈ d.classes, c.id = name) ∧
        ¬ ∃ d ∈ documents, ∃ v ∈ d.values, v.enumeration = name := by
    rw [mergedClass, decide_eq_true_iff, classDeclarationsOf_eq_nil_iff, mem_valueOwners_iff]
  rw [MergedClass.kind, declaredKind]
  simp only [hstereotype, Bool.or_eq_true, decide_eq_true_eq, hvalues, hinferred]
  -- A class is inferred where it has neither declarations nor values.
  by_cases howned : ∃ d ∈ documents, ∃ v ∈ d.values, v.enumeration = name
  · simp only [howned, or_true, if_true]
  · by_cases hdeclared : ∃ d ∈ documents, ∃ c ∈ d.classes, c.id = name
    · simp only [howned, hdeclared, not_true, false_and, if_false, if_true]
    · simp only [howned, hdeclared, not_false_iff, and_self, if_true, if_false]

/-! ### Members -/

/-- The members that the declarations of some files give a class, in the order in which they came
first. -/
def memberKeysOf (documents : List Document) (name : String) : List MemberKey :=
  (memberKeys documents).filter (·.1 = name)

/-- The type of a member: that of its first declaration. -/
def memberType? (documents : List Document) (key : MemberKey) : Option String :=
  (declarationsOf documents key).head?.bind (·.2.valueType)

/-- Whether a member has a value type, and so is an attribute. -/
def isAttribute (documents : List Document) (key : MemberKey) : Bool :=
  (memberType? documents key).any fun type => (declaredKind documents type).isValueType

/-- What the record of a member says, whether it is an attribute or an association: its type and its
cardinality are those of the first declaration, its documentation is the first that there is, and
its origins are the keywords of all files that declare it. -/
structure MergesMember (documents : List Document) (key : MemberKey)
    (declaringClass name type : String) (multiplicity : Multiplicity)
    (documentation : Option String) (origins : List String) : Prop where
  key_eq : (declaringClass, name) = key
  type_eq : memberType? documents key = some type
  multiplicity_eq : (declarationsOf documents key).head?.map
    (fun e => Multiplicity.ofToken e.2.multiplicity) = some multiplicity
  documentation_eq : documentation = (declarationsOf documents key).findSome? (·.2.comment)
  origins_eq : origins = ((declarationsOf documents key).filterMap (·.1)).eraseDups

/-- An attribute that is merged from the declarations of the member `key`. -/
structure Attribute.Merges (documents : List Document) (key : MemberKey) (a : Attribute) : Prop
    extends MergesMember documents key a.declaringClass a.name a.valueType.typeName
      a.multiplicity a.documentation a.origins where
  kind_eq : a.valueType.kind = declaredKind documents a.valueType.typeName
  default_eq : a.default = (declarationsOf documents key).findSome? (·.2.fixed)

/-- An association that is merged from the declarations of the member `key`. It is used if no
declaration says otherwise. -/
structure Association.Merges (documents : List Document) (key : MemberKey) (a : Association) : Prop
    extends MergesMember documents key a.declaringClass a.name a.target a.multiplicity
      a.documentation a.origins where
  used_eq : a.used = ((declarationsOf documents key).findSome? (·.2.associationUsed)).getD true

/-- Each declared member of a model that is built has a record. -/
theorem exists_resolvedMember? (h : Model.ofDocuments strictness documents = .ok m)
    (hkey : key ∈ memberKeys documents) : ∃ x, resolvedMember? strictness documents key = some x := by
  rw [← PropertyTable.keys_members, FirstSeen.mem_keys_iff] at hkey
  obtain ⟨p, hp⟩ := hkey
  have hmem := (FirstSeen.get?_eq_some_iff_mem (PropertyTable.nodup_keys_members documents)).1 hp
  -- A member without a record would be a fault.
  have hfaults := (List.append_eq_nil_iff.1 (Model.foundFaults_of_eq_ok h)).1
  have herrors := (List.append_eq_nil_iff.1 hfaults).1
  rw [← errors_resolveMembers] at herrors
  have herror := List.filterMap_eq_nil_iff.1 herrors _
    (List.mem_map_of_mem (List.mem_map.2 ⟨_, hmem, rfl⟩))
  rw [PropertyTable.get?_members] at hp
  rw [resolvedMember?, hp, Option.bind_some]
  cases hx : Member.ofProperty (.ofDocuments (strictness = .inferring) documents) p with
  | error e =>
    rw [hx] at herror
    cases herror
  | ok x => exact ⟨x, rfl⟩

/-- What is resolved of a member is merged from its declarations. -/
theorem merges_resolvedMember? {x : Member}
    (hx : resolvedMember? strictness documents key = some x) :
    MergesMember documents key x.domain x.name x.typeName
      (.ofToken x.property.declaration.multiplicity) x.property.declaration.comment
      x.property.origins ∧
    x.property.declaration.fixed = (declarationsOf documents key).findSome? (·.2.fixed) ∧
    x.property.declaration.associationUsed =
      (declarationsOf documents key).findSome? (·.2.associationUsed) := by
  obtain ⟨p, hp, hmember⟩ := Option.bind_eq_some_iff.1 hx
  have hkey := key_of_mergedProperty? hp
  obtain ⟨hproperty, htype, -⟩ := Member.eq_of_ofProperty (toOption_eq_some_iff.1 hmember)
  rw [Member.domain, Member.name, hproperty]
  rw [mergedProperty?_eq] at hp
  obtain ⟨e, he, rfl⟩ := Option.map_eq_some_iff.1 hp
  refine ⟨⟨hkey, ?_, ?_, rfl, rfl⟩, rfl, rfl⟩
  · rw [memberType?, he]
    exact htype
  · rw [he]
    rfl

/-- The shape of a resolved member is that of its type. -/
theorem kind_resolvedMember? {x : Member}
    (hx : resolvedMember? strictness documents key = some x) :
    x.kind = declaredKind documents x.typeName := by
  obtain ⟨p, -, hmember⟩ := Option.bind_eq_some_iff.1 hx
  obtain ⟨-, -, hkind⟩ := Member.eq_of_ofProperty (toOption_eq_some_iff.1 hmember)
  obtain ⟨c, hc, hckind⟩ := Option.map_eq_some_iff.1 hkind
  rw [ClassTable.get?_ofDocuments] at hc
  split at hc
  · obtain rfl := Option.some.inj hc
    rw [← hckind, kind_mergedClass]
  · cases hc

theorem isAttribute_eq {x : Member} (hx : resolvedMember? strictness documents key = some x) :
    isAttribute documents key = x.kind.isValueType := by
  obtain ⟨hmerges, -, -⟩ := merges_resolvedMember? hx
  rw [isAttribute, hmerges.type_eq, Option.any_some, kind_resolvedMember? hx]

/-- The class of a resolved member is known. -/
theorem mem_knownClasses_of_resolvedMember? {x : Member}
    (hx : resolvedMember? strictness documents key = some x) :
    key.1 ∈ knownClasses (strictness = .inferring) documents := by
  obtain ⟨p, hp, hmember⟩ := Option.bind_eq_some_iff.1 hx
  rw [← congrArg Prod.fst (key_of_mergedProperty? hp)]
  exact contains_ofDocuments.1 (Member.contains_of_ofProperty (toOption_eq_some_iff.1 hmember))

/-- The attribute that a resolved member is. -/
theorem merges_attribute {x : Member} (hx : resolvedMember? strictness documents key = some x)
    (members : List Member) (hvalue : x.kind.isValueType = true) :
    ∃ a, x.attribute? members = some a ∧ a.Merges documents key := by
  obtain ⟨hmerges, hfixed, -⟩ := merges_resolvedMember? hx
  refine ⟨_, if_pos hvalue, ?_, ?_, hfixed⟩
  · dsimp only
    rw [Member.typeName_valueType]
    exact hmerges
  · dsimp only
    rw [Member.typeName_valueType, Member.kind_valueType _ (ClassKind.isValueType_iff.1 hvalue),
      kind_resolvedMember? hx]

/-- The association that a resolved member is, whatever its inverse is. -/
theorem merges_association {x : Member} (hx : resolvedMember? strictness documents key = some x)
    (inverse : Association → InverseLink) (hvalue : x.kind.isValueType = false) :
    ∃ a, x.association?.map (fun a => { a with inverse := inverse a }) = some a ∧
      a.Merges documents key := by
  obtain ⟨hmerges, -, hused⟩ := merges_resolvedMember? hx
  rw [Member.association?, if_neg (Bool.eq_false_iff.1 hvalue), Option.map_some]
  exact ⟨_, rfl, hmerges, congrArg (·.getD true) hused⟩

/-! ### Classes -/

/-- A record that is merged from the declarations of its class and of the members of this class:
one record for each of them, in the order in which they came first. -/
structure ClassRecord.Merges (documents : List Document) (c : ClassRecord) : Prop where
  base_eq : c.base = (classDeclarationsOf documents c.name).findSome? (·.2.superClass)
  documentation_eq : c.documentation = (classDeclarationsOf documents c.name).findSome? (·.2.comment)
  package_eq : c.package = (classDeclarationsOf documents c.name).findSome? (·.2.package)
  origins_eq : c.origins = ((classDeclarationsOf documents c.name).filterMap (·.1)).eraseDups
  kind_eq : c.kind = declaredKind documents c.name
  attributes : List.Forall₂ (Attribute.Merges documents)
    ((memberKeysOf documents c.name).filter (isAttribute documents)) c.attributes
  associations : List.Forall₂ (Association.Merges documents)
    ((memberKeysOf documents c.name).filter (!isAttribute documents ·)) c.associations

/-- A model that is merged from the declarations of some files; no member of theirs is left out. -/
structure Model.Merges (documents : List Document) (m : Model) : Prop where
  classes : ∀ c ∈ m.classes, c.Merges documents
  domain_mem : ∀ key ∈ memberKeys documents, key.1 ∈ m.names

/-- Where `g` finds a result for exactly the elements that `p` selects, its results are the results
for these, in their order. -/
theorem forall₂_filterMap {α β : Type} {r : α → β → Prop} {p : α → Bool} {g : α → Option β}
    {xs : List α} (hsome : ∀ x ∈ xs, p x = true → ∃ y, g x = some y ∧ r x y)
    (hnone : ∀ x ∈ xs, p x = false → g x = none) :
    List.Forall₂ r (xs.filter p) (xs.filterMap g) := by
  induction xs with
  | nil => exact .nil
  | cons x xs ih =>
    have ih := ih (fun x hx => hsome x (.tail _ hx)) fun x hx => hnone x (.tail _ hx)
    cases hp : p x with
    | false =>
      rw [List.filter_cons_of_neg (Bool.eq_false_iff.1 hp),
        List.filterMap_cons_none (hnone x (.head _) hp)]
      exact ih
    | true =>
      obtain ⟨y, hy, hr⟩ := hsome x (.head _) hp
      rw [List.filter_cons_of_pos hp, List.filterMap_cons_some hy]
      exact .cons hr ih

/-- What a class gets from its members of one sort: one result for each, in their order. -/
theorem forall₂_own {β : Type} {r : MemberKey → β → Prop} {p : MemberKey → Bool}
    {f : Member → Option β} (h : Model.ofDocuments strictness documents = .ok m) (name : String)
    (hsome : ∀ key x, resolvedMember? strictness documents key = some x → p key = true →
      ∃ y, f x = some y ∧ r key y)
    (hnone : ∀ key x, resolvedMember? strictness documents key = some x → p key = false →
      f x = none) :
    List.Forall₂ r ((memberKeysOf documents name).filter p)
      (((resolvedMembers strictness documents).filter (·.domain = name)).filterMap f) := by
  rw [filterMap_own, memberKeysOf, List.filter_filter]
  refine forall₂_filterMap (fun key hkey hp => ?_) fun key hkey hp => ?_
  all_goals
    obtain ⟨x, hx⟩ := exists_resolvedMember? h hkey
    have hdomain : x.domain = key.1 := congrArg Prod.fst (merges_resolvedMember? hx).1.key_eq
    rw [hx, Option.bind_some, hdomain]
  · obtain ⟨hp, hname⟩ := Bool.and_eq_true_iff.1 hp
    rw [if_pos (of_decide_eq_true hname)]
    exact hsome key x hx hp
  · split
    · rename_i hname
      rw [decide_eq_true hname, Bool.and_true] at hp
      exact hnone key x hx hp
    · rfl

/-- The record of a class of a built model is merged from the declarations. -/
theorem merges_builtRecord (h : Model.ofDocuments strictness documents = .ok m) (name : String) :
    (builtRecord strictness documents name).Merges documents where
  base_eq := base_mergedClass documents name
  documentation_eq := congrArg MergedClass.documentation (declaredClass_eq documents name)
  package_eq := congrArg MergedClass.package (declaredClass_eq documents name)
  origins_eq := congrArg MergedClass.origins (declaredClass_eq documents name)
  kind_eq := kind_mergedClass documents name
  attributes := by
    refine forall₂_own h name (fun key x hx hp => ?_) fun key x hx hp => ?_
    · exact merges_attribute hx _ (isAttribute_eq hx ▸ hp)
    · rw [isAttribute_eq hx] at hp
      exact if_neg (Bool.eq_false_iff.1 hp)
  associations := by
    -- Filling in the inverse ends keeps the order of the members.
    have hlinked : (builtRecord strictness documents name).associations =
        ((resolvedMembers strictness documents).filter (·.domain = name)).filterMap fun x =>
          x.association?.map fun a => { a with
            inverse := inverseOf (Model.unlinked strictness documents).bases
              (.ofDocuments documents) a } :=
      List.map_filterMap
    rw [hlinked]
    refine forall₂_own h name (fun key x hx hp => ?_) fun key x hx hp => ?_
    · rw [isAttribute_eq hx, Bool.not_eq_true'] at hp
      exact merges_association hx _ hp
    · rw [isAttribute_eq hx, Bool.not_eq_false'] at hp
      rw [Member.association?, if_pos hp, Option.map_none]

/-- Each class of a built model is merged from its own declarations. -/
theorem Model.merges_of_mem_classes (h : ofDocuments strictness documents = .ok m)
    {c : ClassRecord} (hc : c ∈ m.classes) : c.Merges documents := by
  obtain ⟨-, hrecord⟩ := exists_of_mem_classes h hc
  rw [hrecord]
  exact merges_builtRecord h c.name

/-- **Merging.** A built model is merged from the declarations of its files. -/
theorem Model.merges_of_ofDocuments (h : ofDocuments strictness documents = .ok m) :
    m.Merges documents where
  classes c hc := by
    obtain ⟨-, hrecord⟩ := exists_of_mem_classes h hc
    rw [hrecord]
    exact merges_builtRecord h c.name
  domain_mem key hkey := by
    obtain ⟨x, hx⟩ := exists_resolvedMember? h hkey
    rw [mem_names_of_ofDocuments h]
    exact mem_knownClasses_of_resolvedMember? hx

/-- Two files about stations. The second declares the station again, and adds to what the first says
of it, of its name and of its bays. -/
def stationDocuments : List Document := [
  { source := "equipment.rdf"
    keyword := some "EQ"
    declarations := [
      .cls { id := "Station", package := some "Core" },
      .cls { id := "Bay" },
      .property { id := "Station.Bays", domain := "Station", range := some "Bay" },
      .property { id := "Station.name", domain := "Station", dataType := some "String" }] },
  { source := "operation.rdf"
    keyword := some "OP"
    declarations := [
      .cls { id := "Resource" },
      .cls {
        id := "Station", superClass := some "Resource", comment := some "A site."
        package := some "Operation" },
      .property {
        id := "Station.name", domain := "Station", dataType := some "Integer"
        fixed := some "main" },
      .property { id := "Station.level", domain := "Station", dataType := some "Integer" },
      .property {
        id := "Station.Bays", domain := "Station", range := some "Station"
        associationUsed := some false }] }]

theorem merges_stationDocuments :
    ∃ m, Model.ofDocuments .inferring stationDocuments = .ok m ∧
      (m.get? "Station").map (fun c => (c.base, c.documentation, c.package, c.origins)) =
        some (some "Resource", some "A site.", some "Core", ["EQ", "OP"]) ∧
      (m.get? "Station").map (·.attributes.map fun a => (a.name, a.valueType, a.default)) =
        some [("name", .primitive "String", some "main"), ("level", .primitive "Integer", none)] ∧
      (m.get? "Station").map (·.associations.map fun a => (a.target, a.used, a.origins)) =
        some [("Bay", false, ["EQ", "OP"])] ∧
      m.Merges stationDocuments := by
  have hok : (Model.ofDocuments .inferring stationDocuments).isOk = true := by decide +kernel
  obtain ⟨m, h⟩ := exists_of_isOk hok
  refine ⟨m, h, ?_, ?_, ?_, Model.merges_of_ofDocuments h⟩
  all_goals
    rw [Model.get?_of_ofDocuments h (by decide)]
    decide

end CimSchema
