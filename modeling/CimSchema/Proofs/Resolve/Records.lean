import CimSchema.Proofs.Model.Forest
import CimSchema.Proofs.Resolve.Typed

/-!
# The records of a built model

A built model has one record for each known class, in increasing order of the names. The record is
made of what all declarations of the class and of its members say together.

## Main definitions

* `resolvedMember?`, `resolvedMembers` - the members that the declarations of some files make.
* `unlinkedRecord`, `builtRecord` - the record of a class, without and with inverse ends.
* `Model.RecordsOf` - a model with one record for each class of some files.

## Main results

* `Model.classes_of_ofDocuments`, `Model.get?_of_ofDocuments` - the records of a built model.
* `Model.recordsOf_of_ofDocuments` - which classes have a record, and that they are a forest.
-/

namespace CimSchema

variable {strictness : Strictness} {documents : List Document} {m : Model} {name : String}

/-- The member that its declarations make, if its class and its type are known. -/
def resolvedMember? (strictness : Strictness) (documents : List Document) (key : MemberKey) :
    Option Member :=
  (mergedProperty? documents key).bind fun p =>
    (Member.ofProperty (.ofDocuments (strictness = .inferring) documents) p).toOption

/-- The members that the declarations of some files make, in the order in which they came first. -/
def resolvedMembers (strictness : Strictness) (documents : List Document) : List Member :=
  (memberKeys documents).filterMap (resolvedMember? strictness documents)

/-- What a class gets from its members comes from the declared members one by one. -/
theorem filterMap_own {γ : Type} (strictness : Strictness) (documents : List Document)
    (name : String) (f : Member → Option γ) :
    ((resolvedMembers strictness documents).filter (·.domain = name)).filterMap f =
      (memberKeys documents).filterMap fun key =>
        (resolvedMember? strictness documents key).bind fun x =>
          if x.domain = name then f x else none := by
  rw [List.filterMap_filter, resolvedMembers, List.filterMap_filterMap]
  simp only [decide_eq_true_eq]

/-- The record of a known class, before inverse ends are known. -/
def unlinkedRecord (strictness : Strictness) (documents : List Document) (name : String) :
    ClassRecord :=
  classRecord documents (resolvedMembers strictness documents) name (mergedClass documents name)

/-- The record of a known class. -/
def builtRecord (strictness : Strictness) (documents : List Document) (name : String) :
    ClassRecord :=
  (unlinkedRecord strictness documents name).linkInverses
    (Model.unlinked strictness documents).bases (.ofDocuments documents)

/-- The names of the known classes, in increasing order. -/
def knownNames (strictness : Strictness) (documents : List Document) : NameSet :=
  .ofList (knownClasses (strictness = .inferring) documents)

theorem mem_knownNames :
    name ∈ (knownNames strictness documents).toList ↔
      name ∈ knownClasses (strictness = .inferring) documents :=
  NameSet.mem_ofList

theorem NameSet.nodup_toList (s : NameSet) : s.toList.Nodup := by
  refine s.increasing.imp fun {x y} h e => ?_
  exact String.lt_irrefl y (e ▸ h)

/-- Sorting the records of a list of names is the same as taking the records of the sorted names. -/
theorem Model.classes_ofList_map_of_nodup {names : List String} (h : names.Nodup)
    {f : String → ClassRecord} (hf : ∀ name, (f name).name = name) :
    (ofList (names.map f)).classes = (NameSet.ofList names).toList.map f := by
  have hperm : (ofList (names.map f)).classes.Perm ((NameSet.ofList names).toList.map f) := by
    refine (List.mergeSort_perm _ _).trans (List.Perm.map f ?_)
    refine (List.perm_ext_iff_of_nodup h (NameSet.nodup_toList _)).2 fun name => ?_
    exact NameSet.mem_ofList.symm
  have hsorted : ((NameSet.ofList names).toList.map f).Pairwise (·.name ≤ ·.name) := by
    rw [List.pairwise_map]
    refine (NameSet.ofList names).increasing.imp fun {x y} hlt => ?_
    rw [hf, hf]
    exact Std.le_of_lt hlt
  refine hperm.eq_of_pairwise (fun c d hc hd hle hge => ?_) (ofList (names.map f)).sorted hsorted
  -- Both are the records of their names, and the names are the same.
  obtain ⟨x, -, rfl⟩ := List.mem_map.1 (mem_classes_ofList.1 hc)
  obtain ⟨y, -, rfl⟩ := List.mem_map.1 hd
  rw [hf, hf] at hle hge
  rw [Std.le_antisymm hle hge]

theorem members_resolveMembers (strictness : Strictness) (documents : List Document) :
    (resolveMembers (.ofDocuments (strictness = .inferring) documents)
      (.ofDocuments documents)).1 = resolvedMembers strictness documents := by
  have hmembers : (resolveMembers (.ofDocuments (strictness = .inferring) documents)
      (.ofDocuments documents)).1 =
        (PropertyTable.ofDocuments documents).members.values.filterMap fun p =>
          (Member.ofProperty (.ofDocuments (strictness = .inferring) documents) p).toOption := by
    rw [resolveMembers, List.filterMap_map]
    refine List.filterMap_congr fun p _ => ?_
    rw [Function.comp_apply]
    cases Member.ofProperty (.ofDocuments (strictness = .inferring) documents) p <;> rfl
  rw [hmembers, FirstSeen.filterMap_values (PropertyTable.nodup_keys_members documents),
    PropertyTable.keys_members, resolvedMembers]
  refine List.filterMap_congr fun key _ => ?_
  rw [PropertyTable.get?_members, resolvedMember?]

namespace Model

theorem classes_unlinked (strictness : Strictness) (documents : List Document) :
    (unlinked strictness documents).classes =
      (knownNames strictness documents).toList.map (unlinkedRecord strictness documents) := by
  have hrecords : (ClassTable.ofDocuments (strictness = .inferring) documents).entries.map
      (fun e => classRecord documents (resolvedMembers strictness documents) e.1 e.2) =
        (knownClasses (strictness = .inferring) documents).map
          (unlinkedRecord strictness documents) := by
    rw [← ClassTable.keys_ofDocuments, FirstSeen.keys, List.map_map]
    refine List.map_congr_left fun e he => ?_
    have hget := (FirstSeen.get?_eq_some_iff_mem (nodup_keys_ofDocuments _ documents)).2 he
    rw [ClassTable.get?_ofDocuments] at hget
    split at hget
    · rw [Function.comp_apply, unlinkedRecord, Option.some.inj hget]
    · cases hget
  rw [unlinked, members_resolveMembers, hrecords]
  exact classes_ofList_map_of_nodup (nodup_eraseDups _) fun _ => rfl

theorem names_unlinked (strictness : Strictness) (documents : List Document) :
    (unlinked strictness documents).names = (knownNames strictness documents).toList := by
  rw [names, classes_unlinked, List.map_map]
  exact List.map_id _

/-- The records of a built model are those of the known classes. -/
theorem classes_of_ofDocuments (h : ofDocuments strictness documents = .ok m) :
    m.classes =
      (knownNames strictness documents).toList.map (builtRecord strictness documents) := by
  rw [eq_of_ofDocuments h, classes_linkInverses, classes_unlinked, List.map_map]
  rfl

/-- A model without faults is the one that has these records. -/
theorem ofDocuments_of_classes (hok : (ofDocuments strictness documents).isOk = true)
    (h : (knownNames strictness documents).toList.map (builtRecord strictness documents) =
      m.classes) : ofDocuments strictness documents = .ok m := by
  obtain ⟨n, hn⟩ := exists_of_isOk hok
  rw [hn, eq_of_classes_eq ((classes_of_ofDocuments hn).trans h)]

theorem names_of_ofDocuments (h : ofDocuments strictness documents = .ok m) :
    m.names = (knownNames strictness documents).toList := by
  rw [eq_of_ofDocuments h, names_linkInverses, names_unlinked]

theorem mem_names_of_ofDocuments (h : ofDocuments strictness documents = .ok m) :
    name ∈ m.names ↔ name ∈ knownClasses (strictness = .inferring) documents := by
  rw [names_of_ofDocuments h, mem_knownNames]

theorem get?_of_ofDocuments (h : ofDocuments strictness documents = .ok m)
    (hname : name ∈ knownClasses (strictness = .inferring) documents) :
    m.get? name = some (builtRecord strictness documents name) := by
  refine (get?_eq_some_iff (nodup_names_of_ofDocuments h)).2 ⟨?_, rfl⟩
  rw [classes_of_ofDocuments h]
  exact List.mem_map_of_mem (mem_knownNames.2 hname)

theorem exists_of_mem_classes (h : ofDocuments strictness documents = .ok m) {c : ClassRecord}
    (hc : c ∈ m.classes) :
    c.name ∈ knownClasses (strictness = .inferring) documents ∧
      c = builtRecord strictness documents c.name := by
  rw [classes_of_ofDocuments h] at hc
  obtain ⟨name, hname, rfl⟩ := List.mem_map.1 hc
  exact ⟨mem_knownNames.1 hname, rfl⟩

/-! ### Bases -/

theorem base_builtRecord (strictness : Strictness) (documents : List Document) (name : String) :
    (builtRecord strictness documents name).base = mergedBase? documents name :=
  base_mergedClass documents name

/-- The base of a class is the one that its declarations give it. -/
theorem base?_unlinked (strictness : Strictness) (documents : List Document) (name : String) :
    (unlinked strictness documents).base? name = mergedBase? documents name := by
  by_cases hname : name ∈ knownClasses (strictness = .inferring) documents
  · have hget : (unlinked strictness documents).get? name =
        some (unlinkedRecord strictness documents name) := by
      refine (get?_eq_some_iff (nodup_names_unlinked strictness documents)).2 ⟨?_, rfl⟩
      rw [classes_unlinked]
      exact List.mem_map_of_mem (mem_knownNames.2 hname)
    rw [base?, hget, Option.bind_some]
    exact base_mergedClass documents name
  · have hget : (unlinked strictness documents).get? name = none := by
      rw [get?_eq_none_iff, names_unlinked, mem_knownNames]
      exact hname
    rw [base?, hget, Option.bind_none]
    -- A class that is not known has no declaration that could give it a base.
    cases hbase : mergedBase? documents name with
    | none => rfl
    | some base => exact absurd (mem_knownClasses_of_mergedBase? hbase) hname

/-- The bases of the classes come from the declarations alone. -/
theorem bases_unlinked (strictness : Strictness) (documents : List Document) :
    (unlinked strictness documents).bases =
      .ofList ((knownNames strictness documents).toList.filterMap fun name =>
        (mergedBase? documents name).map fun base => (name, base)) := by
  simp only [← base?_unlinked strictness, base?, bases, names_unlinked]

theorem base?_linkInverses (m : Model) (properties : PropertyTable) (name : String) :
    (m.linkInverses properties).base? name = m.base? name := by
  rw [base?, get?_linkInverses, Option.bind_map]
  rfl

theorem base?_of_ofDocuments (h : ofDocuments strictness documents = .ok m) (name : String) :
    m.base? name = mergedBase? documents name := by
  rw [eq_of_ofDocuments h, base?_linkInverses, base?_unlinked]

/-- Each base that is declared is known. -/
theorem mem_knownClasses_of_base (h : ofDocuments strictness documents = .ok m) {base : String}
    (hbase : mergedBase? documents name = some base) :
    base ∈ knownClasses (strictness = .inferring) documents := by
  have hfaults := (List.append_eq_nil_iff.1 (foundFaults_of_eq_ok h)).1
  by_contra hunknown
  -- A base that is not known would be a fault.
  have hfault : Error.unresolvedReference base name ∈ baseFaults strictness documents := by
    refine List.mem_mergeSort.2 (List.mem_filterMap.2 ⟨name, ?_, ?_⟩)
    · exact mem_knownClasses_of_mergedBase? hbase
    · rw [baseFault?, hbase, Option.bind_some, if_pos hunknown]
  rw [(List.append_eq_nil_iff.1 hfaults).2] at hfault
  exact List.not_mem_nil hfault

theorem cycles_of_ofDocuments (h : ofDocuments strictness documents = .ok m) :
    m.bases.cycles = [] := by
  have hcycles := (List.append_eq_nil_iff.1 (foundFaults_of_eq_ok h)).2
  rw [List.map_eq_nil_iff] at hcycles
  -- Both lists name the cycles of the same bases.
  have hbases : m.bases.get? =
      (knownBases (.ofDocuments (strictness = .inferring) documents)).get? := by
    funext name
    rw [get?_bases, base?_of_ofDocuments h, get?_knownBases, remainingBase?]
    cases hbase : mergedBase? documents name with
    | none => rfl
    | some base =>
      rw [Option.filter_some, if_pos (decide_eq_true (mem_knownClasses_of_base h hbase))]
  exact Bases.cycles_eq_nil_of_get?_eq hbases hcycles

theorem forest_of_ofDocuments (h : ofDocuments strictness documents = .ok m) : m.Forest := by
  refine forest_of_cycles_eq_nil (fun c hc base hbase => ?_) (cycles_of_ofDocuments h)
  obtain ⟨-, hrecord⟩ := exists_of_mem_classes h hc
  rw [hrecord, base_builtRecord] at hbase
  exact (mem_names_of_ofDocuments h).2 (mem_knownClasses_of_base h hbase)

end Model

/-! ### Which classes have a record -/

theorem mem_knownClasses_iff :
    name ∈ knownClasses (strictness = .inferring) documents ↔
      (∃ d ∈ documents, ∃ c ∈ d.classes, c.id = name) ∨
      (∃ d ∈ documents, ∃ v ∈ d.values, v.enumeration = name) ∨
      (strictness = .inferring ∧ name ∈ builtinPrimitives ∧
        ∃ d ∈ documents, ∃ p ∈ d.properties, p.valueType = some name) := by
  have hdeclared : name ∈ (signedClasses documents).map (·.2.id) ↔
      ∃ d ∈ documents, ∃ c ∈ d.classes, c.id = name := by
    rw [List.mem_map]
    constructor
    · rintro ⟨e, he, rfl⟩
      obtain ⟨d, hd, c, hc, rfl⟩ := mem_signedClasses_iff.1 he
      exact ⟨d, hd, c, hc, rfl⟩
    · rintro ⟨d, hd, c, hc, rfl⟩
      exact ⟨(d.keyword, c), mem_signedClasses_iff.2 ⟨d, hd, c, hc, rfl⟩, rfl⟩
  have howned : name ∈ valueOwners documents ↔
      ∃ d ∈ documents, ∃ v ∈ d.values, v.enumeration = name := by
    rw [valueOwners, List.mem_flatMap]
    simp only [List.mem_map]
  have hreferred : name ∈ referredPrimitives documents ↔
      name ∈ builtinPrimitives ∧ ∃ d ∈ documents, ∃ p ∈ d.properties, p.valueType = some name := by
    rw [referredPrimitives, List.mem_filter, List.mem_flatMap, List.contains_iff_mem]
    simp only [List.mem_filterMap]
    exact and_comm
  rw [knownClasses, List.mem_eraseDups, List.mem_append, List.mem_append, or_assoc, hdeclared,
    howned]
  cases strictness with
  | inferring => simp [hreferred]
  | strict => simp

theorem declared_builtRecord :
    (builtRecord strictness documents name).declared = true ↔
      ∃ d ∈ documents, ∃ c ∈ d.classes, c.id = name := by
  have hdeclared : (builtRecord strictness documents name).declared =
      !(classDeclarationsOf documents name).isEmpty :=
    congrArg MergedClass.declared (declaredClass_eq documents name)
  rw [hdeclared, Bool.not_eq_true', List.isEmpty_eq_false_iff_exists_mem]
  constructor
  · rintro ⟨e, he⟩
    obtain ⟨he, hid⟩ := List.mem_filter.1 he
    obtain ⟨d, hd, c, hc, rfl⟩ := mem_signedClasses_iff.1 he
    exact ⟨d, hd, c, hc, of_decide_eq_true hid⟩
  · rintro ⟨d, hd, c, hc, hid⟩
    refine ⟨(d.keyword, c), List.mem_filter.2 ⟨?_, decide_eq_true hid⟩⟩
    exact mem_signedClasses_iff.2 ⟨d, hd, c, hc, rfl⟩

/-- `m` has one record for each class of some files: for each class that is declared or has values,
and for each built-in primitive that is referred to unless all must be declared. Its bases are a
forest. -/
structure Model.RecordsOf (strictness : Strictness) (documents : List Document) (m : Model) :
    Prop where
  increasing : m.names.Pairwise (· < ·)
  mem_names_iff : ∀ name, name ∈ m.names ↔
    (∃ d ∈ documents, ∃ c ∈ d.classes, c.id = name) ∨
    (∃ d ∈ documents, ∃ v ∈ d.values, v.enumeration = name) ∨
    (strictness = .inferring ∧ name ∈ builtinPrimitives ∧
      ∃ d ∈ documents, ∃ p ∈ d.properties, p.valueType = some name)
  declared_iff : ∀ c ∈ m.classes,
    c.declared = true ↔ ∃ d ∈ documents, ∃ e ∈ d.classes, e.id = c.name
  forest : m.Forest

/-- **Records.** A built model has one record for each class of its files, and is a forest. -/
theorem Model.recordsOf_of_ofDocuments (h : ofDocuments strictness documents = .ok m) :
    RecordsOf strictness documents m where
  increasing := by
    rw [names_of_ofDocuments h]
    exact (knownNames strictness documents).increasing
  mem_names_iff name := by rw [mem_names_of_ofDocuments h, mem_knownClasses_iff]
  declared_iff c hc := by
    obtain ⟨-, hrecord⟩ := exists_of_mem_classes h hc
    rw [hrecord, declared_builtRecord]
    rfl
  forest := forest_of_ofDocuments h

/-- Two files about breakers: the first declares them and their phases, the second their name and
what they are. -/
def breakerDocuments : List Document := [
  { source := "breakers.rdf"
    declarations := [
      .cls { id := "Breaker" },
      .value { id := "PhaseCode.A", enumeration := "PhaseCode" }] },
  { source := "switches.rdf"
    declarations := [
      .cls { id := "Breaker", superClass := some "Switch" },
      .cls { id := "Switch" },
      .property { id := "Breaker.name", domain := "Breaker", dataType := some "String" }] }]

theorem recordsOf_breakerDocuments :
    ∃ m, Model.ofDocuments .inferring breakerDocuments = .ok m ∧
      m.names = ["Breaker", "PhaseCode", "String", "Switch"] ∧
      Model.RecordsOf .inferring breakerDocuments m := by
  have hok : (Model.ofDocuments .inferring breakerDocuments).isOk = true := by decide +kernel
  obtain ⟨m, h⟩ := exists_of_isOk hok
  refine ⟨m, h, ?_, Model.recordsOf_of_ofDocuments h⟩
  rw [Model.names_of_ofDocuments h]
  decide

end CimSchema
