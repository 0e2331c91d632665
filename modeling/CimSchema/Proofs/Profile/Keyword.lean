import CimSchema.Proofs.Profile.Monotone
import CimSchema.Proofs.Resolve.Merged

/-!
# The profile of a keyword

A profile may select everything that the files with one keyword declare. It looks at the origins of
classes and members, which were collected when the files were merged. This module shows that the
two fit together: the part that the profile selects can be told from the files alone.

## Main definitions

* `DeclaresClass`, `DeclaresMember` - what the files with a keyword declare.
* `ClassRecord.KeywordPart` - what they leave of a record.
* `Model.KeywordPart` - what they leave of a model.

## Main results

* `ClassRecord.Merges.mem_origins_iff`, `MergesMember.mem_origins_iff` - origins tell what the files
  with a keyword declare.
* `Profile.prune_ofOrigins` - what the profile of a keyword selects.
-/

namespace CimSchema

variable {strictness : Strictness} {documents : List Document} {m : Model}
  {keyword member : String} {origins : List String} {key : MemberKey}
  {c : ClassRecord}

/-- Whether a file with the keyword declares the class `name`. -/
def DeclaresClass (documents : List Document) (keyword name : String) : Prop :=
  ∃ d ∈ documents, d.keyword = some keyword ∧ ∃ c ∈ d.classes, c.id = name

instance (documents : List Document) (keyword name : String) :
    Decidable (DeclaresClass documents keyword name) :=
  inferInstanceAs (Decidable (∃ d ∈ documents, d.keyword = some keyword ∧
    ∃ c ∈ d.classes, c.id = name))

/-- Whether a file with the keyword declares a member of this class and name. -/
def DeclaresMember (documents : List Document) (keyword : String) (key : MemberKey) : Prop :=
  ∃ d ∈ documents, d.keyword = some keyword ∧ ∃ p ∈ d.properties, p.key = key

instance (documents : List Document) (keyword : String) (key : MemberKey) :
    Decidable (DeclaresMember documents keyword key) :=
  inferInstanceAs (Decidable (∃ d ∈ documents, d.keyword = some keyword ∧
    ∃ p ∈ d.properties, p.key = key))

/-- `c` is what the files with the keyword leave of `d` where the classes `kept` are left. A regular
class has the members that these files declare, and any other class has all. An association needs
its target, too. -/
structure ClassRecord.KeywordPart (documents : List Document) (keyword : String)
    (kept : List String) (c d : ClassRecord) : Prop where
  same : { c with base := d.base, attributes := d.attributes, associations := d.associations } = d
  regular_attributes : d.kind = .regular →
    c.attributes = d.attributes.filter fun a => DeclaresMember documents keyword (d.name, a.name)
  regular_associations : d.kind = .regular →
    List.Forall₂ Association.PartOf c.associations
      (d.associations.filter fun a =>
        DeclaresMember documents keyword (d.name, a.name) ∧ a.target ∈ kept)
  value_attributes : d.kind ≠ .regular → c.attributes = d.attributes
  value_associations : d.kind ≠ .regular →
    List.Forall₂ Association.PartOf c.associations (d.associations.filter (·.target ∈ kept))
  enumValues_eq : c.enumValues = d.enumValues

/-- `part` is what the files with the keyword leave of the model `m`: the classes that they declare,
and those that are needed by the type of an attribute that is left. -/
structure Model.KeywordPart (documents : List Document) (keyword : String) (m part : Model) :
    Prop where
  declared_left : ∀ name, DeclaresClass documents keyword name → name ∈ part.names
  needed : ∀ name ∈ part.names, ¬ DeclaresClass documents keyword name →
    ∃ c ∈ part.classes, ∃ a ∈ c.attributes, name ∈ a.valueType.referencedClasses
  classes : ∀ c ∈ part.classes, ∃ d, m.get? c.name = some d ∧
    c.KeywordPart documents keyword part.names d

/-! ### Origins -/

/-- The origins of a class are the keywords of the files that declare it. -/
theorem ClassRecord.Merges.mem_origins_iff (h : c.Merges documents) :
    keyword ∈ c.origins ↔ DeclaresClass documents keyword c.name := by
  rw [h.origins_eq, List.mem_eraseDups, List.mem_filterMap]
  constructor
  · rintro ⟨e, he, hkeyword⟩
    obtain ⟨⟨d, hd, c, hc, rfl⟩, hid⟩ := mem_classDeclarationsOf_iff.1 he
    exact ⟨d, hd, hkeyword, c, hc, hid⟩
  · rintro ⟨d, hd, hkeyword, c, hc, hid⟩
    exact ⟨_, mem_classDeclarationsOf_iff.2 ⟨⟨d, hd, c, hc, rfl⟩, hid⟩, hkeyword⟩

/-- The origins of a member are the keywords of the files that declare it. -/
theorem MergesMember.mem_origins_iff {className declaringClass type : String}
    {multiplicity : Multiplicity} {documentation : Option String}
    (h : MergesMember documents key declaringClass member type multiplicity documentation origins)
    (hkey : key ∈ memberKeysOf documents className) :
    keyword ∈ origins ↔ DeclaresMember documents keyword (className, member) := by
  have hclass : (className, member) = key := by
    rw [← of_decide_eq_true (List.mem_filter.1 hkey).2, ← h.key_eq]
  rw [hclass, h.origins_eq, List.mem_eraseDups, List.mem_filterMap]
  constructor
  · rintro ⟨e, he, hkeyword⟩
    obtain ⟨he, hkey⟩ := List.mem_filter.1 he
    obtain ⟨d, hd, p, hp, rfl⟩ := mem_signedProperties_iff.1 he
    exact ⟨d, hd, hkeyword, p, hp, of_decide_eq_true hkey⟩
  · rintro ⟨d, hd, hkeyword, p, hp, hkey⟩
    have he : (d.keyword, p) ∈ declarationsOf documents key :=
      List.mem_filter.2 ⟨mem_signedProperties_iff.2 ⟨d, hd, p, hp, rfl⟩, decide_eq_true hkey⟩
    exact ⟨_, he, hkeyword⟩

theorem ClassRecord.Merges.mem_attribute_origins_iff (h : c.Merges documents) {a : Attribute}
    (ha : a ∈ c.attributes) :
    keyword ∈ a.origins ↔ DeclaresMember documents keyword (c.name, a.name) := by
  obtain ⟨key, hkey, hmerges⟩ := exists_left_of_mem h.attributes ha
  exact hmerges.mem_origins_iff (List.mem_filter.1 hkey).1

theorem ClassRecord.Merges.mem_association_origins_iff (h : c.Merges documents) {a : Association}
    (ha : a ∈ c.associations) :
    keyword ∈ a.origins ↔ DeclaresMember documents keyword (c.name, a.name) := by
  obtain ⟨key, hkey, hmerges⟩ := exists_left_of_mem h.associations ha
  exact hmerges.mem_origins_iff (List.mem_filter.1 hkey).1

/-! ### What the profile of a keyword selects -/

namespace Profile

theorem any_contains_ofList_singleton (keywords : List String) (keyword : String) :
    keywords.any (NameSet.ofList [keyword]).contains = decide (keyword ∈ keywords) := by
  rw [Bool.eq_iff_iff, List.any_eq_true, decide_eq_true_iff]
  constructor
  · rintro ⟨x, hx, hcontains⟩
    have hmem := NameSet.mem_ofList.1 (of_decide_eq_true hcontains)
    rwa [← List.mem_singleton.1 hmem]
  · intro h
    exact ⟨keyword, h, decide_eq_true (NameSet.mem_ofList.2 (List.mem_singleton.2 rfl))⟩

theorem includesClass_ofOrigins (name keyword : String) (c : ClassRecord) :
    (ofOrigins name [keyword]).includesClass c = decide (keyword ∈ c.origins) :=
  any_contains_ofList_singleton c.origins keyword

theorem keepsMember_ofOrigins (name keyword : String) (c : ClassRecord) (member : String)
    (origins : List String) :
    (ofOrigins name [keyword]).keepsMember c member origins =
      (c.kind.isValueType || decide (keyword ∈ origins)) := by
  rw [keepsMember, ← any_contains_ofList_singleton]
  cases c.kind.isValueType with
  | false => rfl
  | true => rfl

/-- No class is excluded, so that only the member counts. -/
theorem keepsAttribute_ofOrigins (name keyword : String) (c : ClassRecord) (a : Attribute) :
    (ofOrigins name [keyword]).keepsAttribute c a =
      (c.kind.isValueType || decide (keyword ∈ a.origins)) := by
  have hall : a.valueType.referencedClasses.all
      (fun other => !(ofOrigins name [keyword]).excludesClass other) = true :=
    List.all_eq_true.2 fun _ _ => rfl
  rw [keepsAttribute, hall, Bool.and_true, keepsMember_ofOrigins]

/-- The associations that are left, up to inverse ends that were dropped. -/
theorem forall₂_associations_prune (p : Profile) (m : Model) (c : ClassRecord) :
    List.Forall₂ Association.PartOf
      (((p.selectMembers c).cutEdges (p.gather m).keys).clearInverses (p.cut m)).associations
      (c.associations.filter fun a =>
        p.keepsMember c a.name a.origins && decide (a.target ∈ (p.prune m).names)) := by
  rw [ClassRecord.clearInverses, List.forall₂_map_left_iff, associations_cutEdges]
  refine List.forall₂_same.2 fun a _ => ⟨rfl, fun owner name multiplicity hlink => ?_⟩
  exact (InverseLink.keptIn_eq_resolved_iff.1 hlink).1

/-- What is left of a record that was merged from its declarations. -/
theorem keywordPart_of_merges (hc : c.Merges documents) (name keyword : String) (m : Model) :
    ((((ofOrigins name [keyword]).selectMembers c).cutEdges
      ((ofOrigins name [keyword]).gather m).keys).clearInverses
        ((ofOrigins name [keyword]).cut m)).KeywordPart documents keyword
          ((ofOrigins name [keyword]).prune m).names c where
  same := rfl
  regular_attributes hkind := by
    refine List.filter_congr fun a ha => ?_
    rw [keepsAttribute_ofOrigins, hkind, ← Bool.false_or (decide (DeclaresMember _ _ _))]
    exact congrArg _ (decide_eq_decide.2 (hc.mem_attribute_origins_iff ha))
  regular_associations hkind := by
    have hleft := forall₂_associations_prune (ofOrigins name [keyword]) m c
    rwa [List.filter_congr fun a ha => ?_] at hleft
    rw [keepsMember_ofOrigins, hkind, Bool.decide_and]
    exact congrArg (· && _) (decide_eq_decide.2 (hc.mem_association_origins_iff ha))
  value_attributes hkind := by
    refine List.filter_eq_self.2 fun a _ => ?_
    rw [keepsAttribute_ofOrigins, ClassKind.isValueType_iff.2 hkind, Bool.true_or]
  value_associations hkind := by
    have hleft := forall₂_associations_prune (ofOrigins name [keyword]) m c
    rwa [List.filter_congr fun a _ => ?_] at hleft
    rw [keepsMember_ofOrigins, ClassKind.isValueType_iff.2 hkind, Bool.true_or, Bool.true_and]
  enumValues_eq := rfl

/-- **Keyword profiles.** What the profile of a keyword selects of a built model is what the files
with this keyword declare, and what that needs. -/
theorem prune_ofOrigins (h : Model.ofDocuments strictness documents = .ok m)
    (name keyword : String) :
    Model.KeywordPart documents keyword m ((ofOrigins name [keyword]).prune m) where
  declared_left className hdeclares := by
    obtain ⟨d, hd, hkeyword, c, hc, hid⟩ := hdeclares
    -- A class that is declared is known, and its record has the keyword among its origins.
    have hknown : className ∈ knownClasses (strictness = .inferring) documents :=
      mem_knownClasses_iff.2 (.inl ⟨d, hd, c, hc, hid⟩)
    have hget := Model.get?_of_ofDocuments h hknown
    have horigin : keyword ∈ (builtRecord strictness documents className).origins :=
      (merges_builtRecord h className).mem_origins_iff.2 ⟨d, hd, hkeyword, c, hc, hid⟩
    rw [names_prune]
    refine mem_keys_gather_of_selected (Model.mem_classes_of_get? hget) ?_
    rw [includesClass_ofOrigins]
    exact decide_eq_true horigin
  needed className hleft hdeclares := by
    obtain ⟨r, hr, rfl⟩ := List.mem_map.1 hleft
    obtain ⟨d, hd, hname, -, -⟩ := exists_of_mem_prune hr
    rw [← hname] at hdeclares ⊢
    cases hd with
    | selected hd hp =>
      -- What the profile selects is declared by a file with the keyword.
      obtain ⟨-, hrecord⟩ := Model.exists_of_mem_classes h hd
      have hmerges : d.Merges documents := hrecord ▸ merges_builtRecord h d.name
      rw [includesClass_ofOrigins, decide_eq_true_iff, hmerges.mem_origins_iff] at hp
      exact absurd hp hdeclares
    | @needed c _ _ hc hneeded hd =>
      rw [Model.name_of_get? hd]
      obtain ⟨a, ha, htype⟩ := mem_dependencies_iff.1 hneeded
      have hget := get?_prune_of_keeps (Model.nodup_names_of_ofDocuments h) hc
      exact ⟨_, Model.mem_classes_of_get? hget, a, ha, htype⟩
  classes c hc := by
    have hm := Model.nodup_names_of_ofDocuments h
    obtain ⟨d, hd, hname, -, rfl⟩ := exists_of_mem_prune hc
    refine ⟨d, (Model.get?_eq_some_iff hm).2 ⟨hd.mem_classes, hname⟩, ?_⟩
    obtain ⟨-, hrecord⟩ := Model.exists_of_mem_classes h hd.mem_classes
    exact keywordPart_of_merges (hrecord ▸ merges_builtRecord h d.name) name keyword m

theorem prune_ofOrigins_station :
    ∃ m, Model.ofDocuments .inferring stationDocuments = .ok m ∧
      ((ofOrigins "OP profile" ["OP"]).prune m).names = ["Integer", "Resource", "Station", "String"] ∧
      Model.KeywordPart stationDocuments "OP" m ((ofOrigins "OP profile" ["OP"]).prune m) := by
  have hok : (Model.ofDocuments .inferring stationDocuments).isOk = true := by decide +kernel
  obtain ⟨m, h⟩ := exists_of_isOk hok
  refine ⟨m, h, ?_, prune_ofOrigins h "OP profile" "OP"⟩
  -- The records are known one by one, and the walk over them can be run.
  obtain ⟨classes, hsorted⟩ := m
  obtain rfl : classes = _ := Model.classes_of_ofDocuments h
  have hrecords : Model.mk _ hsorted =
      ⟨(knownNames .inferring stationDocuments).toList.map
        (builtRecord .inferring stationDocuments), by decide +kernel⟩ := rfl
  rw [names_prune, hrecords]
  decide +kernel

end Profile

end CimSchema
