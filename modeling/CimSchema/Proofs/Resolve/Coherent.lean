import CimSchema.Proofs.Resolve.Records

/-!
# What is copied in a built model

The shape of a class decides which of its users get attributes, and what a class says of a measured
quantity is copied into the attributes of this type. In a built model the copies agree with the
records that they were made from, so that whoever reads a member needs no second look.

## Main definitions

* `ClassRecord.quantity` - the measured quantity that the attributes of a class describe.
* `Model.Coherent` - a model whose members agree with the records that they refer to.

## Main results

* `nodup_keys_resolvedMembers` - no member is resolved twice.
* `measured_eq_quantity` - what is copied of a quantity is what the attributes of its class say.
* `Model.coherent_of_ofDocuments` - a built model is coherent.
-/

namespace CimSchema

variable {strictness : Strictness} {documents : List Document} {m : Model} {name : String}

/-! ### Members -/

theorem key_of_resolvedMember? {key : MemberKey} {x : Member}
    (h : resolvedMember? strictness documents key = some x) :
    (x.domain, x.name) = key := by
  obtain ⟨p, hp, hx⟩ := Option.bind_eq_some_iff.1 h
  cases hmember : Member.ofProperty (.ofDocuments (strictness = .inferring) documents) p with
  | error e =>
    rw [hmember] at hx
    cases hx
  | ok y =>
    rw [hmember] at hx
    obtain rfl : y = x := Option.some.inj hx
    rw [Member.domain, Member.name, (Member.eq_of_ofProperty hmember).1]
    exact key_of_mergedProperty? hp

/-- No member is resolved twice. -/
theorem nodup_keys_resolvedMembers (strictness : Strictness) (documents : List Document) :
    ((resolvedMembers strictness documents).map fun x => (x.domain, x.name)).Nodup := by
  rw [List.Nodup, List.pairwise_map, resolvedMembers, List.pairwise_filterMap]
  have hkeys : (memberKeys documents).Nodup := nodup_eraseDups _
  refine hkeys.imp fun {key key'} hne x hx y hy => ?_
  rw [key_of_resolvedMember? hx, key_of_resolvedMember? hy]
  exact hne

theorem kind?_of_mem_resolvedMembers {x : Member} (h : x ∈ resolvedMembers strictness documents) :
    (ClassTable.ofDocuments (strictness = .inferring) documents).kind? x.typeName =
      some x.kind := by
  rw [← members_resolveMembers] at h
  exact Member.kind?_of_mem_resolveMembers h

namespace Member

theorem attribute?_fields {members : List Member} {x : Member} {a : Attribute}
    (h : x.attribute? members = some a) :
    a.name = x.name ∧ a.declaringClass = x.domain ∧
      a.default = x.property.declaration.fixed := by
  rw [attribute?] at h
  split at h
  · obtain rfl := Option.some.inj h
    exact ⟨rfl, rfl, rfl⟩
  · cases h

theorem association?_fields {x : Member} {a : Association} (h : x.association? = some a) :
    a.name = x.name ∧ a.declaringClass = x.domain := by
  rw [association?] at h
  split at h
  · cases h
  · obtain rfl := Option.some.inj h
    exact ⟨rfl, rfl⟩

theorem any_attribute? (members : List Member) (x : Member) (member : String) :
    (x.attribute? members).any (·.name = member) =
      (x.kind.isValueType && decide (x.name = member)) := by
  rw [attribute?]
  by_cases h : x.kind.isValueType = true
  · rw [if_pos h, h]
    rfl
  · rw [if_neg h, Bool.of_not_eq_true h]
    rfl

theorem valueType_eq_datatype {members : List Member} {x : Member} {quantity : Measured}
    (h : x.valueType members = .datatype quantity) :
    x.kind = .datatype ∧ quantity = measured members x.typeName := by
  rw [valueType] at h
  split at h
  · cases h
  · cases h
  · exact ⟨‹_›, (ValueType.datatype.inj h).symm⟩
  · cases h
  · cases h

/-- Each member is an attribute or an association, under its own name. -/
theorem perm_names (members own : List Member) :
    ((own.filterMap (·.attribute? members)).map (·.name) ++
      (own.filterMap (·.association?)).map (·.name)).Perm (own.map (·.name)) := by
  induction own with
  | nil => exact .nil
  | cons x own ih =>
    by_cases h : x.kind.isValueType = true
    · have hattribute : x.attribute? members = some _ := if_pos h
      have hassociation : x.association? = none := if_pos h
      rw [List.filterMap_cons_some hattribute, List.filterMap_cons_none hassociation]
      exact ih.cons x.name
    · have hattribute : x.attribute? members = none := if_neg h
      have hassociation : x.association? = some _ := if_neg h
      rw [List.filterMap_cons_none hattribute, List.filterMap_cons_some hassociation]
      exact List.perm_middle.trans (ih.cons x.name)

end Member

/-! ### Records -/

/-- The measured quantity that the attributes of a class describe: its value is held by the type of
the attribute `value`, its unit and multiplier are the fixed values of the attributes of these
names. -/
def ClassRecord.quantity (c : ClassRecord) : Measured where
  name := c.name
  value := ((c.attribute? "value").map (·.valueType.typeName)).getD "Float"
  unit := (c.attribute? "unit").bind (·.default)
  multiplier := (c.attribute? "multiplier").bind (·.default)

theorem attribute?_builtRecord (strictness : Strictness) (documents : List Document)
    (name member : String) :
    (builtRecord strictness documents name).attribute? member =
      ((resolvedMembers strictness documents).find? fun x =>
        x.kind.isValueType && x.domain = name && x.name = member).bind
          (·.attribute? (resolvedMembers strictness documents)) := by
  have hattributes : (builtRecord strictness documents name).attributes =
      ((resolvedMembers strictness documents).filter (·.domain = name)).filterMap
        (·.attribute? (resolvedMembers strictness documents)) := rfl
  rw [ClassRecord.attribute?, hattributes, List.find?_filterMap, List.find?_filter]
  congr 2
  funext x
  rw [Member.any_attribute?]
  cases x.kind.isValueType <;> simp

/-- What is copied of a quantity is what the attributes of its class say. -/
theorem measured_eq_quantity (strictness : Strictness) (documents : List Document)
    (name : String) :
    measured (resolvedMembers strictness documents) name =
      (builtRecord strictness documents name).quantity := by
  have htype (o : Option Member) (ho : ∀ x ∈ o, x.kind.isValueType = true) :
      o.map (·.typeName) =
        (o.bind (·.attribute? (resolvedMembers strictness documents))).map
          (·.valueType.typeName) := by
    cases o with
    | none => rfl
    | some x =>
      rw [Option.bind_some, Member.attribute?, if_pos (ho x rfl), Option.map_some, Option.map_some,
        Member.typeName_valueType]
  have hfixed (o : Option Member) (ho : ∀ x ∈ o, x.kind.isValueType = true) :
      o.bind (·.property.declaration.fixed) =
        (o.bind (·.attribute? (resolvedMembers strictness documents))).bind (·.default) := by
    cases o with
    | none => rfl
    | some x =>
      rw [Option.bind_some, Option.bind_some, Member.attribute?, if_pos (ho x rfl),
        Option.bind_some]
  have hfound (member : String) : ∀ x ∈ (resolvedMembers strictness documents).find? (fun x =>
      x.kind.isValueType && x.domain = name && x.name = member), x.kind.isValueType = true := by
    intro x hx
    have hcondition := List.find?_some hx
    rw [Bool.and_assoc, Bool.and_eq_true] at hcondition
    exact hcondition.1
  rw [measured, ClassRecord.quantity]
  dsimp only
  rw [attribute?_builtRecord, attribute?_builtRecord, attribute?_builtRecord]
  rw [htype _ (hfound "value"), hfixed _ (hfound "unit"), hfixed _ (hfound "multiplier")]
  rfl

theorem datatype_builtRecord (strictness : Strictness) (documents : List Document)
    (name : String) :
    (builtRecord strictness documents name).datatype =
      if (builtRecord strictness documents name).kind = .datatype then
        some (builtRecord strictness documents name).quantity
      else none := by
  rw [← measured_eq_quantity]
  rfl

theorem exists_of_mem_attributes {a : Attribute}
    (ha : a ∈ (builtRecord strictness documents name).attributes) :
    ∃ x ∈ resolvedMembers strictness documents, x.domain = name ∧
      x.attribute? (resolvedMembers strictness documents) = some a := by
  obtain ⟨x, hx, hxa⟩ := List.mem_filterMap.1 ha
  obtain ⟨hx, hdomain⟩ := List.mem_filter.1 hx
  exact ⟨x, hx, of_decide_eq_true hdomain, hxa⟩

theorem exists_of_mem_associations {a : Association}
    (ha : a ∈ (builtRecord strictness documents name).associations) :
    ∃ x ∈ resolvedMembers strictness documents, x.domain = name ∧
      ∃ b, x.association? = some b ∧ a.name = b.name ∧ a.declaringClass = b.declaringClass := by
  obtain ⟨b, hb, rfl⟩ := List.mem_map.1 ha
  obtain ⟨x, hx, hxb⟩ := List.mem_filterMap.1 hb
  obtain ⟨hx, hdomain⟩ := List.mem_filter.1 hx
  exact ⟨x, hx, of_decide_eq_true hdomain, b, hxb, rfl, rfl⟩

theorem nodup_members_builtRecord (strictness : Strictness) (documents : List Document)
    (name : String) :
    ((builtRecord strictness documents name).attributes.map (·.name) ++
      (builtRecord strictness documents name).associations.map (·.name)).Nodup := by
  have hassociations : (builtRecord strictness documents name).associations.map (·.name) =
      (((resolvedMembers strictness documents).filter (·.domain = name)).filterMap
        (·.association?)).map (·.name) := List.map_map ..
  rw [hassociations]
  refine (Member.perm_names (resolvedMembers strictness documents) _).nodup_iff.2 ?_
  -- Members of one class differ in their names, because they differ in class and name together.
  have hkeys := nodup_keys_resolvedMembers strictness documents
  rw [List.Nodup, List.pairwise_map] at hkeys ⊢
  refine (hkeys.sublist List.filter_sublist).imp_of_mem fun {x y} hx hy hne hname => hne ?_
  have hx := of_decide_eq_true (List.mem_filter.1 hx).2
  have hy := of_decide_eq_true (List.mem_filter.1 hy).2
  rw [hx, hy, hname]

/-! ### Built models -/

/-- A model whose members agree with the records that they refer to. -/
structure Model.Coherent (m : Model) : Prop extends m.Typed where
  members_nodup : ∀ c ∈ m.classes, (c.attributes.map (·.name) ++ c.associations.map (·.name)).Nodup
  attribute_declared : ∀ c ∈ m.classes, ∀ a ∈ c.attributes, a.declaringClass = c.name
  association_declared : ∀ c ∈ m.classes, ∀ a ∈ c.associations, a.declaringClass = c.name
  /-- Exactly the classes that are measured quantities describe one. -/
  datatype_eq : ∀ c ∈ m.classes, c.datatype = if c.kind = .datatype then some c.quantity else none
  /-- An attribute of a measured quantity has a copy of it. -/
  measured_eq : ∀ c ∈ m.classes, ∀ a ∈ c.attributes, ∀ measured, a.valueType = .datatype measured →
    (m.get? measured.name).bind (·.datatype) = some measured
  /-- The only class that may be missing is the one that holds values where the schema does not say
  so. -/
  referenced : ∀ c ∈ m.classes, ∀ a ∈ c.attributes, ∀ name ∈ a.valueType.referencedClasses,
    name ∈ m.names ∨ name = "Float" ∧ ∃ measured d, a.valueType = .datatype measured ∧
      m.get? measured.name = some d ∧ d.attribute? "value" = none

namespace Model

theorem datatype_of_ofDocuments (h : ofDocuments strictness documents = .ok m) {c : ClassRecord}
    (hc : c ∈ m.classes) : c.datatype = if c.kind = .datatype then some c.quantity else none := by
  obtain ⟨-, hrecord⟩ := exists_of_mem_classes h hc
  rw [hrecord]
  exact datatype_builtRecord strictness documents c.name

theorem measured_of_ofDocuments (h : ofDocuments strictness documents = .ok m) {c : ClassRecord}
    (hc : c ∈ m.classes) {a : Attribute} (ha : a ∈ c.attributes) {quantity : Measured}
    (htype : a.valueType = .datatype quantity) :
    (m.get? quantity.name).bind (·.datatype) = some quantity := by
  obtain ⟨-, hrecord⟩ := exists_of_mem_classes h hc
  rw [hrecord] at ha
  obtain ⟨x, hx, -, hxa⟩ := exists_of_mem_attributes ha
  rw [(Member.attribute?_eq_some hxa).2] at htype
  obtain ⟨hkind, rfl⟩ := Member.valueType_eq_datatype htype
  -- The shape of the type was looked up in the table that its record is made of.
  obtain ⟨merged, hmerged, hmergedKind⟩ :=
    Option.map_eq_some_iff.1 (kind?_of_mem_resolvedMembers hx)
  rw [ClassTable.get?_ofDocuments] at hmerged
  split at hmerged
  · rename_i hknown
    have hrecordKind : (builtRecord strictness documents x.typeName).kind = .datatype := by
      rw [← hkind, ← hmergedKind, ← Option.some.inj hmerged]
      rfl
    have hget : m.get? (measured (resolvedMembers strictness documents) x.typeName).name =
        some (builtRecord strictness documents x.typeName) :=
      get?_of_ofDocuments h hknown
    rw [hget, Option.bind_some, datatype_builtRecord, if_pos hrecordKind, measured_eq_quantity]
  · cases hmerged

/-- What a type needs is there, but for the class that holds values where the schema does not say
so. -/
theorem Typed.referenced (ht : m.Typed)
    (hdatatype : ∀ c ∈ m.classes,
      c.datatype = if c.kind = .datatype then some c.quantity else none)
    {c : ClassRecord} (hc : c ∈ m.classes) {a : Attribute} (ha : a ∈ c.attributes)
    (hmeasured : ∀ quantity, a.valueType = .datatype quantity →
      (m.get? quantity.name).bind (·.datatype) = some quantity)
    (hname : name ∈ a.valueType.referencedClasses) :
    name ∈ m.names ∨ name = "Float" ∧ ∃ quantity d, a.valueType = .datatype quantity ∧
      m.get? quantity.name = some d ∧ d.attribute? "value" = none := by
  have htypeName {d : ClassRecord} (hd : d ∈ m.classes) {b : Attribute} (hb : b ∈ d.attributes) :
      b.valueType.typeName ∈ m.names := by
    obtain ⟨e, he, hename, -⟩ := ht.attribute_typed d hd b hb
    exact hename ▸ List.mem_map_of_mem he
  have hown := htypeName hc ha
  cases htype : a.valueType with
  | primitive other | enumeration other | compound other =>
    rw [htype] at hname hown
    obtain rfl := List.mem_singleton.1 hname
    exact .inl hown
  | datatype quantity =>
    rw [htype] at hname hown
    obtain ⟨d, hd, hquantity⟩ := Option.bind_eq_some_iff.1 (hmeasured quantity htype)
    rw [hdatatype d (mem_classes_of_get? hd)] at hquantity
    split at hquantity
    · obtain rfl := Option.some.inj hquantity
      rcases List.mem_cons.1 hname with rfl | hname
      · exact .inl hown
      · obtain rfl := List.mem_singleton.1 hname
        -- The class that holds the value is the type of an attribute, if there is this attribute.
        cases hvalue : d.attribute? "value" with
        | none => exact .inr ⟨by simp [ClassRecord.quantity, hvalue], _, d, rfl, hd, hvalue⟩
        | some b =>
          have hb : b.valueType.typeName ∈ m.names :=
            htypeName (mem_classes_of_get? hd) (List.mem_of_find?_eq_some hvalue)
          exact .inl (by simpa [ClassRecord.quantity, hvalue] using hb)
    · cases hquantity

/-- **Coherence.** The members of a built model agree with the records that they refer to. -/
theorem coherent_of_ofDocuments (h : ofDocuments strictness documents = .ok m) : m.Coherent where
  toTyped := typed_of_ofDocuments h
  members_nodup c hc := by
    obtain ⟨-, hrecord⟩ := exists_of_mem_classes h hc
    rw [hrecord]
    exact nodup_members_builtRecord strictness documents c.name
  attribute_declared c hc a ha := by
    obtain ⟨-, hrecord⟩ := exists_of_mem_classes h hc
    rw [hrecord] at ha
    obtain ⟨x, -, hdomain, hxa⟩ := exists_of_mem_attributes ha
    rw [(Member.attribute?_fields hxa).2.1, hdomain]
  association_declared c hc a ha := by
    obtain ⟨-, hrecord⟩ := exists_of_mem_classes h hc
    rw [hrecord] at ha
    obtain ⟨x, -, hdomain, b, hxb, -, hdeclaring⟩ := exists_of_mem_associations ha
    rw [hdeclaring, (Member.association?_fields hxb).2, hdomain]
  datatype_eq c hc := datatype_of_ofDocuments h hc
  measured_eq c hc a ha _ htype := measured_of_ofDocuments h hc ha htype
  referenced c hc a ha name hname :=
    (typed_of_ofDocuments h).referenced (fun _ hd => datatype_of_ofDocuments h hd) hc ha
      (fun _ htype => measured_of_ofDocuments h hc ha htype) hname

end Model

/-- A file about lines. Lengths are decimal numbers of metres; of shares nothing is said. -/
def lineDocument : Document where
  source := "lines.rdf"
  declarations := [
    .cls { id := "Line" },
    .cls { id := "Terminal" },
    .cls { id := "Length", stereotypes := ["CIMDatatype"] },
    .cls { id := "Share", stereotypes := ["CIMDatatype"] },
    .property { id := "Line.length", domain := "Line", dataType := some "Length" },
    .property { id := "Line.loss", domain := "Line", dataType := some "Share" },
    .property { id := "Line.Terminals", domain := "Line", range := some "Terminal" },
    .property { id := "Length.value", domain := "Length", dataType := some "Decimal" },
    .property {
      id := "Length.unit", domain := "Length", dataType := some "UnitSymbol", fixed := some "m" },
    .value { id := "UnitSymbol.m", enumeration := "UnitSymbol" }]

theorem coherent_lineDocument :
    ∃ m, Model.ofDocuments .inferring [lineDocument] = .ok m ∧ "Float" ∉ m.names ∧
      (m.get? "Line").map (·.attributes.map (·.valueType)) =
        some [.datatype ⟨"Length", "Decimal", some "m", none⟩, .datatype (.plain "Share")] ∧
      m.Coherent := by
  have hok : (Model.ofDocuments .inferring [lineDocument]).isOk = true := by decide +kernel
  obtain ⟨m, h⟩ := exists_of_isOk hok
  refine ⟨m, h, ?_, ?_, Model.coherent_of_ofDocuments h⟩
  · rw [Model.mem_names_of_ofDocuments h]
    decide
  · rw [Model.get?_of_ofDocuments h (by decide)]
    decide

end CimSchema
