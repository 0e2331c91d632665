import CimSchema.Proofs.Resolve.Merged

/-!
# Inverse ends of a built model

The inverse end of an association is found by the `id` of a property, while the members of a built
model are found by class and name. This module shows that the two views fit together: what a
resolved end names is a member of the model, and it leads back to where the association comes from.

## Main definitions

* `Association.LedBackBy` - a property leads back to an association.
* `ClassRecord.HasMember` - a class has an attribute or an association of a name and a cardinality.
* `Model.InverseEnd` - what a resolved inverse end promises.
* `Model.InversesSound` - a model whose resolved ends keep what they promise.

## Main results

* `inverseOf_of_byId?`, `inverseOf_eq_none_iff` - whether an end is resolved, inconsistent or none.
* `Model.exists_property_of_association` - what the declarations of an association say.
* `Model.exists_member_of_property` - a declared member has a record.
* `Model.inversesSound_of_ofDocuments` - the inverse ends of a built model are sound.
-/

namespace CimSchema

/-! ### The three outcomes -/

/-- The property `other` leads back to the association `a`, whose own property is `own`: its class is
the target or one of the classes that `next` leads to from there, its range is likewise the class of
the association, and it names no inverse but this. -/
structure Association.LedBackBy (next : String → Option String) (a : Association)
    (own other : PropertyDeclaration) : Prop where
  on_target : Reaches next a.target other.domain
  points_back : ∃ range, other.range = some range ∧ Reaches next a.declaringClass range
  names_back : ∀ role, other.inverseRole = some role → role = own.id

section Outcomes

variable {bases : Bases} {properties : PropertyTable} {a : Association} {own : MergedProperty}
  {role owner name : String} {multiplicity : Multiplicity}

/-- The three checks of an inverse end together. -/
theorem checks_iff_ledBackBy {own other : PropertyDeclaration} :
    (bases.leadsTo a.target other.domain &&
      (match other.range with
        | some range => bases.leadsTo a.declaringClass range
        | none => false) &&
      (match other.inverseRole with
        | some role => decide (role = own.id)
        | none => true)) = true ↔ a.LedBackBy bases.get? own other := by
  rw [Bool.and_eq_true, Bool.and_eq_true, Bases.leadsTo_iff]
  constructor
  · rintro ⟨⟨htarget, hback⟩, hnames⟩
    refine ⟨htarget, ?_, fun role hrole => ?_⟩
    · split at hback
      · exact ⟨_, ‹_›, Bases.leadsTo_iff.1 hback⟩
      · cases hback
    · rw [hrole] at hnames
      exact of_decide_eq_true hnames
  · rintro ⟨htarget, ⟨range, hrange, hback⟩, hnames⟩
    rw [hrange]
    refine ⟨⟨htarget, Bases.leadsTo_iff.2 hback⟩, ?_⟩
    cases hrole : other.inverseRole with
    | none => rfl
    | some role => exact decide_eq_true (hnames role hrole)

/-- An end is resolved if the property found for it leads back, and else it is inconsistent. -/
theorem inverseOf_of_byId? (bases : Bases) {other : MergedProperty}
    (hown : properties.get? a.declaringClass a.name = some own)
    (hrole : own.declaration.inverseRole = some role)
    (hother : properties.byId? role = some other) :
    a.LedBackBy bases.get? own.declaration other.declaration ∧
      inverseOf bases properties a = .resolved other.declaration.domain other.declaration.name
        (.ofToken other.declaration.multiplicity) ∨
    ¬ a.LedBackBy bases.get? own.declaration other.declaration ∧
      inverseOf bases properties a = .inconsistent role := by
  simp only [inverseOf, hown, hrole, hother]
  by_cases hled : a.LedBackBy bases.get? own.declaration other.declaration
  · exact .inl ⟨hled, if_pos (checks_iff_ledBackBy.2 hled)⟩
  · exact .inr ⟨hled, if_neg (mt checks_iff_ledBackBy.1 hled)⟩

/-- An end is looked for if the property of the association names one. -/
theorem inverseOf_eq_none_iff (hown : properties.get? a.declaringClass a.name = some own) :
    inverseOf bases properties a = .none ↔ own.declaration.inverseRole = none := by
  cases hrole : own.declaration.inverseRole with
  | none => simp [inverseOf, hown, hrole]
  | some role =>
    simp only [reduceCtorEq, iff_false]
    intro hnone
    cases hother : properties.byId? role with
    | none =>
      simp only [inverseOf, hown, hrole, hother] at hnone
      cases hnone
    | some other =>
      rcases inverseOf_of_byId? bases hown hrole hother with ⟨-, h⟩ | ⟨-, h⟩
      all_goals
        rw [h] at hnone
        cases hnone

/-- A resolved end was found by its `id`, and leads back. -/
theorem exists_of_inverseOf_eq_resolved
    (hown : properties.get? a.declaringClass a.name = some own)
    (h : inverseOf bases properties a = .resolved owner name multiplicity) :
    ∃ role other, own.declaration.inverseRole = some role ∧ properties.byId? role = some other ∧
      a.LedBackBy bases.get? own.declaration other.declaration ∧
      other.declaration.domain = owner ∧ other.declaration.name = name ∧
      .ofToken other.declaration.multiplicity = multiplicity := by
  cases hrole : own.declaration.inverseRole with
  | none =>
    rw [(inverseOf_eq_none_iff hown).2 hrole] at h
    cases h
  | some role =>
    cases hother : properties.byId? role with
    | none =>
      simp only [inverseOf, hown, hrole, hother] at h
      cases h
    | some other =>
      rcases inverseOf_of_byId? bases hown hrole hother with ⟨hled, heq⟩ | ⟨-, heq⟩
      · rw [heq] at h
        obtain ⟨hdomain, hname, hmultiplicity⟩ := InverseLink.resolved.inj h
        exact ⟨role, other, rfl, hother, hled, hdomain, hname, hmultiplicity⟩
      · rw [heq] at h
        cases h

end Outcomes

/-! ### Members by class and name -/

variable {strictness : Strictness} {documents : List Document} {m : Model} {c : ClassRecord}
  {key : MemberKey} {p : MergedProperty}

theorem memberType?_of_mergedProperty? (h : mergedProperty? documents key = some p) :
    memberType? documents key = p.declaration.valueType := by
  rw [mergedProperty?_eq] at h
  obtain ⟨e, he, rfl⟩ := Option.map_eq_some_iff.1 h
  rw [memberType?, he, Option.bind_some]
  rfl

/-- What the record of a member says of its type and cardinality, its merged property says. -/
theorem MergesMember.of_mergedProperty? {declaringClass name type : String}
    {multiplicity : Multiplicity} {documentation : Option String} {origins : List String}
    (h : MergesMember documents key declaringClass name type multiplicity documentation origins)
    (hp : mergedProperty? documents key = some p) :
    p.declaration.valueType = some type ∧ .ofToken p.declaration.multiplicity = multiplicity := by
  refine ⟨(memberType?_of_mergedProperty? hp).symm.trans h.type_eq, ?_⟩
  rw [mergedProperty?_eq] at hp
  obtain ⟨e, he, rfl⟩ := Option.map_eq_some_iff.1 hp
  have hmultiplicity := h.multiplicity_eq
  rw [he] at hmultiplicity
  exact Option.some.inj hmultiplicity

/-- Whether a class has an attribute or an association of this name and cardinality. -/
def ClassRecord.HasMember (c : ClassRecord) (name : String) (multiplicity : Multiplicity) : Prop :=
  (∃ a ∈ c.attributes, a.name = name ∧ a.multiplicity = multiplicity) ∨
    ∃ a ∈ c.associations, a.name = name ∧ a.multiplicity = multiplicity

namespace Model

/-- The declarations of an association say its target and its cardinality. -/
theorem exists_property_of_association (h : ofDocuments strictness documents = .ok m)
    (hc : c ∈ m.classes) {a : Association} (ha : a ∈ c.associations) :
    ∃ own, mergedProperty? documents (c.name, a.name) = some own ∧ a.declaringClass = c.name ∧
      own.declaration.valueType = some a.target ∧
      .ofToken own.declaration.multiplicity = a.multiplicity := by
  obtain ⟨key, hkey, hmerges⟩ := exists_left_of_mem (merges_of_mem_classes h hc).associations ha
  obtain ⟨hkey, hname⟩ := List.mem_filter.1 (List.mem_filter.1 hkey).1
  obtain rfl := hmerges.key_eq
  obtain ⟨own, hown⟩ := exists_mergedProperty? hkey
  have hname : a.declaringClass = c.name := of_decide_eq_true hname
  rw [← hname]
  exact ⟨own, hown, rfl, hmerges.of_mergedProperty? hown⟩

/-- A declared member has a record, and this is an association if the type is a regular class. -/
theorem exists_member_of_property (h : ofDocuments strictness documents = .ok m)
    {owner name : String} (hp : mergedProperty? documents (owner, name) = some p) :
    ∃ d ∈ m.classes, d.name = owner ∧ d.HasMember name (.ofToken p.declaration.multiplicity) ∧
      ∀ type, p.declaration.valueType = some type → declaredKind documents type = .regular →
        ∃ b ∈ d.associations, b.name = name ∧ b.target = type ∧
          b.multiplicity = .ofToken p.declaration.multiplicity := by
  have hkey := mem_memberKeys_of_mergedProperty? hp
  obtain ⟨x, hx⟩ := exists_resolvedMember? h hkey
  have hget := get?_of_ofDocuments h (mem_knownClasses_of_resolvedMember? hx)
  have hmerges := merges_of_mem_classes h (mem_classes_of_get? hget)
  have hown : (owner, name) ∈ memberKeysOf documents owner :=
    List.mem_filter.2 ⟨hkey, decide_eq_true rfl⟩
  refine ⟨_, mem_classes_of_get? hget, rfl, ?_⟩
  cases hattribute : isAttribute documents (owner, name) with
  | true =>
    obtain ⟨a, ha, hr⟩ := exists_left_of_mem hmerges.attributes.flip
      (List.mem_filter.2 ⟨hown, hattribute⟩)
    obtain ⟨-, hmultiplicity⟩ := hr.of_mergedProperty? hp
    refine ⟨.inl ⟨a, ha, (Prod.mk.inj hr.key_eq).2, hmultiplicity.symm⟩, fun type htype hkind => ?_⟩
    -- The type of an attribute is no regular class.
    rw [isAttribute, memberType?_of_mergedProperty? hp, htype, Option.any_some, hkind] at hattribute
    cases hattribute
  | false =>
    obtain ⟨b, hb, hr⟩ := exists_left_of_mem hmerges.associations.flip
      (List.mem_filter.2 ⟨hown, by rw [hattribute]; rfl⟩)
    obtain ⟨htarget, hmultiplicity⟩ := hr.of_mergedProperty? hp
    have hname := (Prod.mk.inj hr.key_eq).2
    refine ⟨.inr ⟨b, hb, hname, hmultiplicity.symm⟩, fun type htype _ => ?_⟩
    exact ⟨b, hb, hname, Option.some.inj (htarget.symm.trans htype), hmultiplicity.symm⟩

/-! ### Links by `id` -/

theorem get?_bases_unlinked (h : ofDocuments strictness documents = .ok m) :
    (unlinked strictness documents).bases.get? = m.base? := by
  rw [get?_bases]
  funext name
  rw [base?_unlinked, base?_of_ofDocuments h]

theorem inverse_of_mem_associations (h : ofDocuments strictness documents = .ok m)
    (hc : c ∈ m.classes) {a : Association} (ha : a ∈ c.associations) :
    a.inverse = inverseOf (unlinked strictness documents).bases (.ofDocuments documents) a := by
  obtain ⟨-, hrecord⟩ := exists_of_mem_classes h hc
  rw [hrecord] at ha
  obtain ⟨b, -, rfl⟩ := List.mem_map.1 ha
  rfl

/-- What an `id` stands for is a merged property, under its own class and name. -/
theorem mergedProperty?_of_byId? {role : String} {other : MergedProperty}
    (h : (PropertyTable.ofDocuments documents).byId? role = some other) :
    mergedProperty? documents (other.declaration.domain, other.declaration.name) = some other := by
  rw [PropertyTable.byId?_ofDocuments] at h
  obtain ⟨e, -, he⟩ := Option.bind_eq_some_iff.1 h
  have hkey : (other.declaration.domain, other.declaration.name) = e.2.key :=
    key_of_mergedProperty? he
  rw [hkey, he]

/-- What the inverse end `name` of the class `owner` promises to the association `a` of the class
`c`, where `own` and `other` are their properties: it is a member of the target or of one of its
bases, and leads back to the class of the association or to one of its bases. -/
structure InverseEnd (m : Model) (c : ClassRecord) (a : Association)
    (own other : PropertyDeclaration) (owner name : String) (multiplicity : Multiplicity) :
    Prop where
  on_target : Reaches m.base? a.target owner
  member : ∃ d ∈ m.classes, d.name = owner ∧ d.HasMember name multiplicity
  points_back : ∃ range, other.range = some range ∧ Reaches m.base? c.name range
  names_back : other.inverseRole = none ∨ other.inverseRole = some own.id
  /-- A property whose range is a regular class is an association to this class. -/
  association : ∀ range, other.range = some range → other.dataType = none →
    ∀ e ∈ m.classes, e.name = range → e.kind = .regular →
      ∃ d ∈ m.classes, d.name = owner ∧
        ∃ b ∈ d.associations, b.name = name ∧ b.target = range ∧ b.multiplicity = multiplicity

/-- Each resolved end in `m` is a member of `m` that leads back. An end is resolved or inconsistent
where the declarations name one, and else there is none. -/
structure InversesSound (documents : List Document) (m : Model) : Prop where
  resolved : ∀ c ∈ m.classes, ∀ a ∈ c.associations, ∀ owner name multiplicity,
    a.inverse = .resolved owner name multiplicity →
      ∃ own other, mergedProperty? documents (c.name, a.name) = some own ∧
        mergedProperty? documents (owner, name) = some other ∧
        m.InverseEnd c a own.declaration other.declaration owner name multiplicity
  none_iff : ∀ c ∈ m.classes, ∀ a ∈ c.associations,
    ∃ own, mergedProperty? documents (c.name, a.name) = some own ∧
      (a.inverse = .none ↔ own.declaration.inverseRole = none)

/-- **Inverse ends.** The inverse ends of a built model are sound. -/
theorem inversesSound_of_ofDocuments (h : ofDocuments strictness documents = .ok m) :
    m.InversesSound documents where
  resolved c hc a ha owner name multiplicity hlink := by
    obtain ⟨own, hown, hclass, -, -⟩ := exists_property_of_association h hc ha
    rw [inverse_of_mem_associations h hc ha] at hlink
    have hget : (PropertyTable.ofDocuments documents).get? a.declaringClass a.name = some own := by
      rw [hclass, PropertyTable.get?_ofDocuments, hown]
    obtain ⟨role, other, -, hother, hled, rfl, rfl, rfl⟩ :=
      exists_of_inverseOf_eq_resolved hget hlink
    rw [get?_bases_unlinked h] at hled
    have hmerged := mergedProperty?_of_byId? hother
    obtain ⟨d, hd, hdname, hmember, hassociation⟩ := exists_member_of_property h hmerged
    refine ⟨own, other, hown, hmerged, hled.on_target, ⟨d, hd, hdname, hmember⟩, ?_, ?_, ?_⟩
    · rw [← hclass]
      exact hled.points_back
    · cases hrole : other.declaration.inverseRole with
      | none => exact .inl rfl
      | some role' => exact .inr (congrArg some (hled.names_back role' hrole))
    · intro range hrange hdataType e he hename hkind
      have htype : other.declaration.valueType = some range := by
        rw [PropertyDeclaration.valueType, hdataType, hrange]
        rfl
      rw [(merges_of_mem_classes h he).kind_eq, hename] at hkind
      exact ⟨d, hd, hdname, hassociation range htype hkind⟩
  none_iff c hc a ha := by
    obtain ⟨own, hown, hclass, -, -⟩ := exists_property_of_association h hc ha
    refine ⟨own, hown, ?_⟩
    rw [inverse_of_mem_associations h hc ha]
    apply inverseOf_eq_none_iff
    rw [hclass, PropertyTable.get?_ofDocuments, hown]

end Model

/-- Two files about bays. That the switches of a bay have an inverse end is said by the second only,
and it is an end of all equipment in all containers. -/
def bayDocuments : List Document := [
  { source := "bays.rdf"
    declarations := [
      .cls { id := "Bay", superClass := some "Container" },
      .cls { id := "Container" },
      .cls { id := "Equipment" },
      .cls { id := "Switch", superClass := some "Equipment" },
      .property { id := "Bay.Switches", domain := "Bay", range := some "Switch" },
      .property {
        id := "Bay.Neighbour", domain := "Bay", range := some "Bay"
        inverseRole := some "Equipment.Container" }] },
  { source := "containers.rdf"
    declarations := [
      .property {
        id := "Bay.Switches", domain := "Bay", range := some "Switch"
        inverseRole := some "Equipment.Container" },
      .property {
        id := "Equipment.Container", domain := "Equipment", range := some "Container"
        multiplicity := some "M:1" }] }]

theorem inversesSound_bayDocuments :
    ∃ m, Model.ofDocuments .inferring bayDocuments = .ok m ∧
      (m.get? "Bay").map (·.associations.map (·.inverse)) =
        some [.resolved "Equipment" "Container" .single, .inconsistent "Equipment.Container"] ∧
      (m.get? "Equipment").map (·.associations.map (·.inverse)) = some [.none] ∧
      m.InversesSound bayDocuments := by
  have hok : (Model.ofDocuments .inferring bayDocuments).isOk = true := by decide +kernel
  obtain ⟨m, h⟩ := exists_of_isOk hok
  refine ⟨m, h, ?_, ?_, Model.inversesSound_of_ofDocuments h⟩
  all_goals
    rw [Model.get?_of_ofDocuments h (by decide), builtRecord, Model.bases_unlinked]
    decide +kernel

end CimSchema
