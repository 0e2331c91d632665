import CimSchema.Proofs.Model.Lookup
import CimSchema.Proofs.Resolve.Faults

/-!
# Types in a built model

The type of an attribute is a class of the model, of the shape that the type says, and the target of
an association is a class that is no value type.

## Main definitions

* `ValueType.kind` - the shape of the class that a type names.
* `Model.Typed` - a model in which every type and target is a class of the right shape.

## Main results

* `Model.eq_of_ofDocuments` - what is built from files without a fault.
* `Model.nodup_names_of_ofDocuments` - no class is built twice.
* `Model.typed_of_ofDocuments` - a built model is typed.
-/

namespace CimSchema

/-- The shape of the class that a type names. -/
def ValueType.kind : ValueType → ClassKind
  | primitive _ => .primitive
  | enumeration _ => .enumeration
  | datatype _ => .datatype
  | compound _ => .compound

/-- A model in which every type of an attribute and every target of an association is a class of the
right shape. -/
structure Model.Typed (m : Model) : Prop where
  attribute_typed : ∀ c ∈ m.classes, ∀ a ∈ c.attributes,
    ∃ d ∈ m.classes, d.name = a.valueType.typeName ∧ d.kind = a.valueType.kind
  association_typed : ∀ c ∈ m.classes, ∀ a ∈ c.associations,
    ∃ d ∈ m.classes, d.name = a.target ∧ d.kind = .regular

theorem ClassKind.isValueType_iff {kind : ClassKind} :
    kind.isValueType = true ↔ kind ≠ .regular := by
  rw [isValueType, decide_eq_true_iff]

namespace Member

/-- A member is the property that it was found for, with its type and the shape of this type. -/
theorem eq_of_ofProperty {classes : ClassTable} {p : MergedProperty} {x : Member}
    (h : ofProperty classes p = .ok x) :
    x.property = p ∧ p.declaration.valueType = some x.typeName ∧
      classes.kind? x.typeName = some x.kind := by
  rw [ofProperty] at h
  split at h
  · split at h
    · cases h
    · split at h
      · cases h
      · obtain rfl := Except.ok.inj h
        exact ⟨rfl, ‹_›, ‹_›⟩
  · cases h

/-- The class of a member is known. -/
theorem contains_of_ofProperty {classes : ClassTable} {p : MergedProperty} {x : Member}
    (h : ofProperty classes p = .ok x) : classes.contains p.declaration.domain = true := by
  rw [ofProperty] at h
  split at h
  · assumption
  · cases h

theorem kind?_of_mem_resolveMembers {classes : ClassTable} {properties : PropertyTable} {x : Member}
    (h : x ∈ (resolveMembers classes properties).1) : classes.kind? x.typeName = some x.kind := by
  obtain ⟨outcome, houtcome, hx⟩ := List.mem_filterMap.1 h
  obtain ⟨p, -, rfl⟩ := List.mem_map.1 houtcome
  split at hx
  · rename_i y hy
    obtain rfl := Option.some.inj hx
    exact (eq_of_ofProperty hy).2.2
  · cases hx

theorem typeName_valueType (members : List Member) (x : Member) :
    (x.valueType members).typeName = x.typeName := by
  rw [valueType]
  split <;> rfl

theorem kind_valueType (members : List Member) {x : Member} (h : x.kind ≠ .regular) :
    (x.valueType members).kind = x.kind := by
  rw [valueType]
  cases hk : x.kind with
  | regular => exact absurd hk h
  | enumeration | primitive | datatype | compound => rfl

/-- A member becomes an attribute of its type exactly if this is a value type. -/
theorem attribute?_eq_some {members : List Member} {x : Member} {a : Attribute}
    (h : x.attribute? members = some a) :
    x.kind ≠ .regular ∧ a.valueType = x.valueType members := by
  rw [attribute?] at h
  split at h
  · obtain rfl := Option.some.inj h
    exact ⟨ClassKind.isValueType_iff.1 ‹_›, rfl⟩
  · cases h

theorem association?_eq_some {x : Member} {a : Association} (h : x.association? = some a) :
    x.kind = .regular ∧ a.target = x.typeName := by
  rw [association?] at h
  split at h
  · cases h
  · obtain rfl := Option.some.inj h
    rw [ClassKind.isValueType_iff, not_not] at *
    exact ⟨‹_›, rfl⟩

end Member

/-! ### Built models -/

/-- A record with its inverse ends filled in. -/
def ClassRecord.linkInverses (c : ClassRecord) (bases : Bases) (properties : PropertyTable) :
    ClassRecord :=
  { c with associations := c.associations.map fun a =>
      { a with inverse := inverseOf bases properties a } }

namespace Model

variable {strictness : Strictness} {documents : List Document} {m : Model}

/-- The records of the classes that some files declare, before inverse ends are known. -/
def unlinked (strictness : Strictness) (documents : List Document) : Model :=
  .ofList ((ClassTable.ofDocuments (strictness = .inferring) documents).entries.map
    fun (name, c) => classRecord documents (resolveMembers
      (.ofDocuments (strictness = .inferring) documents) (.ofDocuments documents)).1 name c)

/-- What is built from files without a fault. -/
theorem eq_of_ofDocuments (h : ofDocuments strictness documents = .ok m) :
    m = (unlinked strictness documents).linkInverses (.ofDocuments documents) := by
  rw [ofDocuments_eq, map_eq_ok_iff] at h
  obtain ⟨_, -, rfl⟩ := h
  rfl

theorem mem_classes_ofList {classes : List ClassRecord} {c : ClassRecord} :
    c ∈ (ofList classes).classes ↔ c ∈ classes :=
  List.mem_mergeSort

theorem classes_linkInverses (m : Model) (properties : PropertyTable) :
    (m.linkInverses properties).classes =
      m.classes.map (·.linkInverses m.bases properties) :=
  classes_ofList_map (f := (·.linkInverses m.bases properties)) (fun _ => rfl) m

theorem names_linkInverses (m : Model) (properties : PropertyTable) :
    (m.linkInverses properties).names = m.names :=
  names_ofList_map (f := (·.linkInverses m.bases properties)) (fun _ => rfl) m

theorem get?_linkInverses (m : Model) (properties : PropertyTable) (name : String) :
    (m.linkInverses properties).get? name =
      (m.get? name).map (·.linkInverses m.bases properties) :=
  get?_ofList_map (f := (·.linkInverses m.bases properties)) (fun _ => rfl) m name

/-- Filling in inverse ends does not change types and targets. -/
theorem Typed.linkInverses (h : m.Typed) (properties : PropertyTable) :
    (m.linkInverses properties).Typed := by
  have hmem {d : ClassRecord} (hd : d ∈ m.classes) :
      ∃ e ∈ (m.linkInverses properties).classes, e.name = d.name ∧ e.kind = d.kind := by
    rw [classes_linkInverses]
    exact ⟨_, List.mem_map_of_mem hd, rfl, rfl⟩
  constructor
  · intro c hc a ha
    rw [classes_linkInverses] at hc
    obtain ⟨b, hb, rfl⟩ := List.mem_map.1 hc
    obtain ⟨d, hd, hname, hkind⟩ := h.attribute_typed b hb a ha
    obtain ⟨e, he, hename, hekind⟩ := hmem hd
    exact ⟨e, he, hename.trans hname, hekind.trans hkind⟩
  · intro c hc a ha
    rw [classes_linkInverses] at hc
    obtain ⟨b, hb, rfl⟩ := List.mem_map.1 hc
    obtain ⟨own, hown, rfl⟩ := List.mem_map.1 ha
    obtain ⟨d, hd, hname, hkind⟩ := h.association_typed b hb own hown
    obtain ⟨e, he, hename, hekind⟩ := hmem hd
    exact ⟨e, he, hename.trans hname, hekind.trans hkind⟩

theorem nodup_names_unlinked (strictness : Strictness) (documents : List Document) :
    (unlinked strictness documents).names.Nodup := by
  -- Sorting the records does not change how often a name comes.
  have hperm : (unlinked strictness documents).names.Perm
      (knownClasses (strictness = .inferring) documents) := by
    rw [← ClassTable.keys_ofDocuments, FirstSeen.keys, unlinked, names]
    refine ((List.mergeSort_perm _ _).map _).trans (.of_eq ?_)
    rw [List.map_map]
    rfl
  exact hperm.nodup_iff.2 (nodup_eraseDups _)

theorem exists_mem_unlinked {typeName : String} {kind : ClassKind}
    (h : (ClassTable.ofDocuments (strictness = .inferring) documents).kind? typeName = some kind) :
    ∃ d ∈ (unlinked strictness documents).classes, d.name = typeName ∧ d.kind = kind := by
  obtain ⟨c, hc, rfl⟩ := Option.map_eq_some_iff.1 h
  -- The shape of a type was looked up in the table that the records are made of.
  have he := (FirstSeen.get?_eq_some_iff_mem (nodup_keys_ofDocuments _ documents)).1 hc
  exact ⟨_, mem_classes_ofList.2 (List.mem_map_of_mem he), rfl, rfl⟩

theorem typed_unlinked (strictness : Strictness) (documents : List Document) :
    (unlinked strictness documents).Typed := by
  constructor
  · intro c hc a ha
    obtain ⟨e, -, rfl⟩ := List.mem_map.1 (mem_classes_ofList.1 hc)
    obtain ⟨x, hx, hxa⟩ := List.mem_filterMap.1 ha
    obtain ⟨hkind, htype⟩ := Member.attribute?_eq_some hxa
    rw [htype, Member.typeName_valueType, Member.kind_valueType _ hkind]
    exact exists_mem_unlinked (Member.kind?_of_mem_resolveMembers (List.mem_filter.1 hx).1)
  · intro c hc a ha
    obtain ⟨e, -, rfl⟩ := List.mem_map.1 (mem_classes_ofList.1 hc)
    obtain ⟨x, hx, hxa⟩ := List.mem_filterMap.1 ha
    obtain ⟨hkind, htarget⟩ := Member.association?_eq_some hxa
    rw [htarget, ← hkind]
    exact exists_mem_unlinked (Member.kind?_of_mem_resolveMembers (List.mem_filter.1 hx).1)

/-- No class is built twice. -/
theorem nodup_names_of_ofDocuments (h : ofDocuments strictness documents = .ok m) :
    m.names.Nodup := by
  rw [eq_of_ofDocuments h, names_linkInverses]
  exact nodup_names_unlinked strictness documents

/-- A built model is typed. -/
theorem typed_of_ofDocuments (h : ofDocuments strictness documents = .ok m) : m.Typed := by
  rw [eq_of_ofDocuments h]
  exact (typed_unlinked strictness documents).linkInverses _

end Model

end CimSchema
