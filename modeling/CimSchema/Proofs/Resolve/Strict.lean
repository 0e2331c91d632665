import CimSchema.Proofs.Repetition
import CimSchema.Proofs.Resolve.Merged
import CimSchema.Proofs.Resolve.Values

/-!
# Models where all types must be declared

Built-in primitives need no declaration unless all types must have one. This makes a difference only
where a primitive is not declared. A primitive is inferred from every declaration of a member, but a
member gets its type from the first of its declarations: if files make a model though all types must
be declared, then what is inferred besides is no type of any member, and stands alone.

## Main definitions

* `OnlyOverridden` - a primitive that is the type of overridden declarations of members only.

## Main results

* `resolvedMember?_inferring`, `builtRecord_inferring` - what is inferred changes no member and no
  other record.
* `builtRecord_of_not_mem` - the record of a class that is not known otherwise.
* `foundFaults_inferring` - what is inferred brings no faults.
* `Model.strict_agrees` - how the models with and without inference agree.
-/

namespace CimSchema

variable {strictness : Strictness} {documents : List Document} {m : Model} {name : String}

/-- A built-in primitive that some files have as a type, but only in declarations of members that
were declared before. It is not declared itself, owns neither values nor members, and no class has
it as its base. -/
structure OnlyOverridden (documents : List Document) (name : String) : Prop where
  builtin : name ∈ builtinPrimitives
  referred : ∃ e ∈ signedProperties documents, e.2.valueType = some name
  /-- Each declaration with this type comes after another one of the same member. -/
  overridden : ∀ before e after, signedProperties documents = before ++ e :: after →
    e.2.valueType = some name → ∃ q ∈ before, q.2.key = e.2.key
  no_class : ∀ d ∈ documents, ∀ c ∈ d.classes, c.id ≠ name
  no_value : ∀ d ∈ documents, ∀ v ∈ d.values, v.enumeration ≠ name
  no_domain : ∀ d ∈ documents, ∀ p ∈ d.properties, p.domain ≠ name
  no_base : ∀ derived, mergedBase? documents derived ≠ some name

/-! ### What is known -/

theorem mem_knownClasses_inferring (h : name ∈ knownClasses (strictness = .inferring) documents) :
    name ∈ knownClasses (Strictness.inferring = .inferring) documents := by
  rw [mem_knownClasses_iff] at *
  exact h.imp_right (.imp_right fun hreferred => ⟨rfl, hreferred.2⟩)

/-- The names that are not only inferred, in order. -/
theorem filter_knownNames_inferring (strictness : Strictness) (documents : List Document) :
    (knownNames .inferring documents).toList.filter
        (· ∈ knownClasses (strictness = .inferring) documents) =
      (knownNames strictness documents).toList := by
  refine NameSet.eq_of_increasing ((knownNames .inferring documents).increasing.filter _)
    (knownNames strictness documents).increasing fun name => ?_
  rw [List.mem_filter, mem_knownNames, mem_knownNames, decide_eq_true_iff]
  exact and_iff_right_of_imp mem_knownClasses_inferring

/-! ### Members -/

theorem PropertyDeclaration.fault?_eq_none_iff {known : List String} {d : PropertyDeclaration} :
    d.fault? known = none ↔ d.domain ∈ known ∧ ∃ type ∈ known, d.valueType = some type := by
  rw [fault?]
  by_cases hdomain : d.domain ∈ known
  · cases htype : d.valueType with
    | none => simp [hdomain]
    | some type => simp [hdomain]
  · simp [hdomain]

/-- The first declaration of a member of a built model has no fault. -/
theorem fault?_eq_none_of_head? (h : Model.ofDocuments strictness documents = .ok m)
    {key : MemberKey} {e : Option String × PropertyDeclaration}
    (he : (declarationsOf documents key).head? = some e) :
    e.2.fault? (knownClasses (strictness = .inferring) documents) = none := by
  have hfaults := (List.append_eq_nil_iff.1 (Model.foundFaults_of_eq_ok h)).1
  have hmembers := List.filterMap_eq_nil_iff.1 (List.append_eq_nil_iff.1 hfaults).1
  obtain ⟨hmem, hkey⟩ := List.mem_filter.1 (List.mem_of_head? he)
  have hnone := hmembers key (of_decide_eq_true hkey ▸ key_mem_memberKeys hmem)
  rwa [he, Option.bind_some] at hnone

theorem Member.ofProperty_inferring {p : MergedProperty} {x : Member}
    (h : ofProperty (.ofDocuments (strictness = .inferring) documents) p = .ok x) :
    ofProperty (.ofDocuments (Strictness.inferring = .inferring) documents) p = .ok x := by
  obtain ⟨hproperty, htype, hkind⟩ := eq_of_ofProperty h
  have hdomain := contains_ofDocuments.1 (contains_of_ofProperty h)
  -- A type that is known has the same shape with inference.
  have hkind' : (ClassTable.ofDocuments (Strictness.inferring = .inferring) documents).kind?
      x.typeName = some x.kind := by
    rw [ClassTable.kind?, ClassTable.get?_ofDocuments] at *
    split at hkind
    · rwa [if_pos (mem_knownClasses_inferring ‹_›)]
    · cases hkind
  rw [ofProperty, if_pos (contains_ofDocuments.2 (mem_knownClasses_inferring hdomain)), htype]
  dsimp only
  rw [hkind', ← hproperty]

/-- What is inferred changes no member of a model that is built without it. -/
theorem resolvedMember?_inferring (h : Model.ofDocuments strictness documents = .ok m)
    (key : MemberKey) :
    resolvedMember? .inferring documents key = resolvedMember? strictness documents key := by
  cases hp : mergedProperty? documents key with
  | none => rw [resolvedMember?, resolvedMember?, hp, Option.bind_none, Option.bind_none]
  | some p =>
    obtain ⟨x, hx⟩ := exists_resolvedMember? h (mem_memberKeys_of_mergedProperty? hp)
    rw [hx]
    rw [resolvedMember?, hp, Option.bind_some, toOption_eq_some_iff] at *
    exact Member.ofProperty_inferring hx

theorem resolvedMembers_inferring (h : Model.ofDocuments strictness documents = .ok m) :
    resolvedMembers .inferring documents = resolvedMembers strictness documents :=
  List.filterMap_congr fun key _ => resolvedMember?_inferring h key

/-! ### Records -/

/-- A class that is only inferred has no base, and so the bases of all classes are the same. -/
theorem bases_unlinked_inferring (strictness : Strictness) (documents : List Document) :
    (Model.unlinked .inferring documents).bases = (Model.unlinked strictness documents).bases := by
  rw [Model.bases_unlinked, Model.bases_unlinked, ← filter_knownNames_inferring strictness,
    List.filterMap_filter]
  congr 1
  refine List.filterMap_congr fun name _ => ?_
  split
  · rfl
  · rename_i hname
    cases hbase : mergedBase? documents name with
    | none => rfl
    | some base => exact absurd (decide_eq_true (mem_knownClasses_of_mergedBase? hbase)) hname

/-- What is inferred changes no record of a model that is built without it. -/
theorem builtRecord_inferring (h : Model.ofDocuments strictness documents = .ok m)
    (name : String) :
    builtRecord .inferring documents name = builtRecord strictness documents name := by
  rw [builtRecord, builtRecord, unlinkedRecord, unlinkedRecord, resolvedMembers_inferring h,
    bases_unlinked_inferring strictness]

/-- No member belongs to a class that is not known. -/
theorem filter_resolvedMembers_eq_nil
    (hname : name ∉ knownClasses (strictness = .inferring) documents) :
    (resolvedMembers strictness documents).filter (·.domain = name) = [] := by
  refine List.filter_eq_nil_iff.2 fun x hx hdomain => hname ?_
  obtain ⟨key, -, hkey⟩ := List.mem_filterMap.1 hx
  have hdomain' : key.1 = name :=
    (congrArg Prod.fst (merges_resolvedMember? hkey).1.key_eq).symm.trans
      (of_decide_eq_true hdomain)
  exact hdomain' ▸ mem_knownClasses_of_resolvedMember? hkey

/-- Nothing is said of a class that is not known. -/
theorem builtRecord_of_not_mem (hname : name ∉ knownClasses (strictness = .inferring) documents) :
    builtRecord strictness documents name = { name, kind := .primitive } := by
  have hown := filter_resolvedMembers_eq_nil hname
  rw [mem_knownClasses_iff, not_or, not_or] at hname
  obtain ⟨hclass, hvalue, -⟩ := hname
  have hmerged : mergedClass documents name = { inferred := true } := by
    simp [mergedClass, declaredClass, classDeclarationsOf_eq_nil_iff.2 hclass,
      mt mem_valueOwners_iff.1 hvalue]
  have hvalues : enumValues documents name = [] := by
    have hnil : valuesOf documents name = [] := by
      refine List.filter_eq_nil_iff.2 fun v hv hname => hvalue ?_
      obtain ⟨d, hd, hv⟩ := List.mem_flatMap.1 hv
      exact ⟨d, hd, v, hv, of_decide_eq_true hname⟩
    rw [enumValues_eq, hnil]
    rfl
  rw [builtRecord, unlinkedRecord, classRecord, hown, hvalues, hmerged]
  rfl

/-! ### Faults -/

theorem remainingBase?_inferring (h : Model.ofDocuments strictness documents = .ok m) :
    remainingBase? .inferring documents = remainingBase? strictness documents := by
  funext name
  rw [remainingBase?, remainingBase?]
  cases hbase : mergedBase? documents name with
  | none => rfl
  | some base =>
    have hknown := Model.mem_knownClasses_of_base h hbase
    rw [Option.filter_some, Option.filter_some, if_pos (decide_eq_true hknown),
      if_pos (decide_eq_true (mem_knownClasses_inferring hknown))]

/-- What is inferred brings no faults. -/
theorem foundFaults_inferring (h : Model.ofDocuments strictness documents = .ok m) :
    foundFaults .inferring documents = [] := by
  -- Whatever a member or a base refers to is known without inference.
  have hmembers : memberFaults .inferring documents = [] := by
    refine List.filterMap_eq_nil_iff.2 fun key _ => ?_
    cases he : (declarationsOf documents key).head? with
    | none => rfl
    | some e =>
      have hnone := fault?_eq_none_of_head? h he
      rw [PropertyDeclaration.fault?_eq_none_iff] at hnone
      obtain ⟨hdomain, type, htype, hvalueType⟩ := hnone
      exact PropertyDeclaration.fault?_eq_none_iff.2
        ⟨mem_knownClasses_inferring hdomain, type, mem_knownClasses_inferring htype, hvalueType⟩
  have hbases : baseFaults .inferring documents = [] := by
    refine List.eq_nil_iff_forall_not_mem.2 fun e he => ?_
    obtain ⟨derived, -, he⟩ := List.mem_filterMap.1 (List.mem_mergeSort.1 he)
    obtain ⟨base, hbase, he⟩ := Option.bind_eq_some_iff.1 he
    rw [if_neg (not_not.2 (mem_knownClasses_inferring (Model.mem_knownClasses_of_base h hbase)))]
      at he
    cases he
  -- The bases that are left are the same, and so are their cycles.
  have hcycles : (knownBases
      (.ofDocuments (Strictness.inferring = .inferring) documents)).cycles = [] := by
    have hcycles := (List.append_eq_nil_iff.1 (Model.foundFaults_of_eq_ok h)).2
    refine Bases.cycles_eq_nil_of_get?_eq ?_ (List.map_eq_nil_iff.1 hcycles)
    rw [get?_knownBases, get?_knownBases, remainingBase?_inferring h]
  rw [foundFaults, faults, hmembers, hbases, hcycles]
  rfl

/-- Files without a fault make a model. -/
theorem Model.exists_of_foundFaults (h : foundFaults strictness documents = []) :
    ∃ m, ofDocuments strictness documents = .ok m := by
  rw [foundFaults] at h
  rw [ofDocuments_eq, h]
  exact ⟨_, rfl⟩

/-! ### The two models -/

/-- A class that is inferred though a model is built without it is the type of overridden
declarations only. -/
theorem onlyOverridden_of_mem (h : Model.ofDocuments strictness documents = .ok m)
    (hknown : name ∈ knownClasses (Strictness.inferring = .inferring) documents)
    (hname : name ∉ knownClasses (strictness = .inferring) documents) :
    OnlyOverridden documents name := by
  have hneither := hname
  rw [mem_knownClasses_iff, not_or, not_or] at hneither
  obtain ⟨hclass, hvalue, -⟩ := hneither
  rw [mem_knownClasses_iff] at hknown
  obtain ⟨-, hbuiltin, d, hd, p, hp, htype⟩ := (hknown.resolve_left hclass).resolve_left hvalue
  refine ⟨hbuiltin, ⟨(d.keyword, p), mem_signedProperties_iff.2 ⟨d, hd, p, hp, rfl⟩, htype⟩, ?_,
    fun d hd c hc hid => hclass ⟨d, hd, c, hc, hid⟩,
    fun d hd v hv howner => hvalue ⟨d, hd, v, hv, howner⟩, ?_,
    fun derived hbase => hname (Model.mem_knownClasses_of_base h hbase)⟩
  · intro before e after hsplit htype
    by_contra hnone
    -- The first declaration of a member would have a type that is not known.
    have hbefore : before.filter (·.2.key = e.2.key) = [] :=
      List.filter_eq_nil_iff.2 fun q hq hkey => hnone ⟨q, hq, of_decide_eq_true hkey⟩
    have hfirst : (declarationsOf documents e.2.key).head? = some e := by
      rw [declarationsOf, hsplit, List.filter_append, hbefore, List.nil_append, List.filter_cons,
        if_pos (decide_eq_true rfl), List.head?_cons]
    obtain ⟨-, type, hmem, htype'⟩ :=
      PropertyDeclaration.fault?_eq_none_iff.1 (fault?_eq_none_of_head? h hfirst)
    obtain rfl := Option.some.inj (htype.symm.trans htype')
    exact hname hmem
  · rintro d hd p hp rfl
    have hmem : (d.keyword, p) ∈ signedProperties documents :=
      mem_signedProperties_iff.2 ⟨d, hd, p, hp, rfl⟩
    obtain ⟨x, hx⟩ := exists_resolvedMember? h (key_mem_memberKeys hmem)
    exact hname (mem_knownClasses_of_resolvedMember? hx)

/-- Where nothing is known by inference alone, inference makes no difference. -/
theorem Model.ofDocuments_strict
    (h : ∀ name ∈ knownClasses (Strictness.inferring = .inferring) documents,
      name ∈ knownClasses (Strictness.strict = .inferring) documents) :
    ofDocuments .strict documents = ofDocuments .inferring documents := by
  have hreferred : ∀ name ∈ referredPrimitives documents,
      name ∈ knownClasses (Strictness.strict = .inferring) documents :=
    fun name hname => h name (List.mem_eraseDups.2 (List.mem_append_right _ hname))
  have hknown : knownClasses (Strictness.strict = .inferring) documents =
      knownClasses (Strictness.inferring = .inferring) documents := by
    rw [knownClasses, if_neg (by decide), List.append_nil] at hreferred
    rw [knownClasses, knownClasses, if_neg (by decide), if_pos (by decide), List.append_nil]
    exact (foldl_addNew_of_subset hreferred).symm.trans (foldl_addNew_eraseDups _ _)
  have htable : ClassTable.ofDocuments (Strictness.strict = .inferring) documents =
      ClassTable.ofDocuments (Strictness.inferring = .inferring) documents := by
    refine FirstSeen.eq_of_get?_eq (nodup_keys_ofDocuments _ documents) ?_ fun name => ?_
    · rw [ClassTable.keys_ofDocuments, ClassTable.keys_ofDocuments, hknown]
    · rw [ClassTable.get?_ofDocuments, ClassTable.get?_ofDocuments, hknown]
  rw [ofDocuments, ofDocuments, htable]

/-- **Inference changes nothing else.** If files make a model though all types must be declared,
then they make one with inference, too. It has the same records, and perhaps some of primitives
besides of which nothing is known, and which are the types of overridden declarations only.
Conversely, a model that is built with inference is built without it, too, if each of its classes is
declared or has a declared value. -/
theorem Model.strict_agrees (documents : List Document) :
    (∀ m, ofDocuments .strict documents = .ok m →
      ∃ m', ofDocuments .inferring documents = .ok m' ∧
        m'.classes.filter (·.name ∈ m.names) = m.classes ∧
        ∀ c ∈ m'.classes, c ∈ m.classes ∨
          (c = { name := c.name, kind := .primitive } ∧ OnlyOverridden documents c.name)) ∧
    ∀ m', ofDocuments .inferring documents = .ok m' →
      (∀ c ∈ m'.classes,
        c.declared = true ∨ ∃ d ∈ documents, ∃ v ∈ d.values, v.enumeration = c.name) →
      ofDocuments .strict documents = .ok m' := by
  constructor
  · intro m h
    obtain ⟨m', h'⟩ := exists_of_foundFaults (foundFaults_inferring h)
    refine ⟨m', h', ?_, fun c hc => ?_⟩
    · -- The names that are known without inference have the same records.
      have hnames : (knownNames .inferring documents).toList.filter
          (fun name => decide ((builtRecord .inferring documents name).name ∈ m.names)) =
            (knownNames .strict documents).toList := by
        rw [← filter_knownNames_inferring .strict]
        refine List.filter_congr fun name _ => decide_eq_decide.2 ?_
        exact mem_names_of_ofDocuments h
      rw [classes_of_ofDocuments h, classes_of_ofDocuments h', List.filter_map]
      rw [Function.comp_def, hnames]
      exact List.map_congr_left fun name _ => builtRecord_inferring h name
    · obtain ⟨hknown, hrecord⟩ := exists_of_mem_classes h' hc
      by_cases hname : c.name ∈ knownClasses (Strictness.strict = .inferring) documents
      · left
        rw [hrecord, builtRecord_inferring h, classes_of_ofDocuments h]
        exact List.mem_map_of_mem (mem_knownNames.2 hname)
      · -- The record of any other name was made without the members and classes of the files.
        right
        refine ⟨?_, onlyOverridden_of_mem h hknown hname⟩
        rw [hrecord, builtRecord_inferring h, builtRecord_of_not_mem hname]
  · intro m' h' hall
    rw [ofDocuments_strict fun name hname => ?_, h']
    have hc : builtRecord .inferring documents name ∈ m'.classes := by
      rw [classes_of_ofDocuments h']
      exact List.mem_map_of_mem (mem_knownNames.2 hname)
    rw [mem_knownClasses_iff]
    exact (hall _ hc).imp declared_builtRecord.1 .inl

/-- Two files about bays. The first declares all that it refers to. The second declares the name of
a bay again, with another type, which counts for nothing and is declared nowhere. -/
def bayNameDocuments : List Document := [
  { source := "bays.rdf"
    declarations := [
      .cls { id := "String", stereotypes := ["Primitive"] },
      .cls { id := "Bay" },
      .property { id := "Bay.name", domain := "Bay", dataType := some "String" }] },
  { source := "names.rdf"
    declarations := [
      .property { id := "Bay.name", domain := "Bay", dataType := some "Integer" }] }]

theorem strict_agrees_bayNameDocuments :
    (∃ m m', Model.ofDocuments .strict bayNameDocuments = .ok m ∧
      Model.ofDocuments .inferring bayNameDocuments = .ok m' ∧
      m'.classes.filter (·.name ∈ m.names) = m.classes ∧
      m.names = ["Bay", "String"] ∧ m'.names = ["Bay", "Integer", "String"] ∧
      OnlyOverridden bayNameDocuments "Integer") ∧
    ∃ m', Model.ofDocuments .inferring (bayNameDocuments.take 1) = .ok m' ∧
      (∀ c ∈ m'.classes, c.declared = true) ∧
      Model.ofDocuments .strict (bayNameDocuments.take 1) = .ok m' := by
  constructor
  · have hok : (Model.ofDocuments .strict bayNameDocuments).isOk = true := by decide +kernel
    obtain ⟨m, h⟩ := exists_of_isOk hok
    obtain ⟨m', h', hfilter, hrest⟩ := (Model.strict_agrees bayNameDocuments).1 m h
    have hnames : m.names = ["Bay", "String"] := by
      rw [Model.names_of_ofDocuments h]
      decide
    have hnames' : m'.names = ["Bay", "Integer", "String"] := by
      rw [Model.names_of_ofDocuments h']
      decide
    obtain ⟨c, hc, hname⟩ : ∃ c ∈ m'.classes, c.name = "Integer" :=
      List.mem_map.1 (show "Integer" ∈ m'.names by rw [hnames']; decide)
    have hnew : c ∉ m.classes := by
      intro hmem
      have hold : c.name ∈ m.names := List.mem_map_of_mem hmem
      rw [hname, hnames] at hold
      exact absurd hold (by decide)
    have honly := ((hrest c hc).resolve_left hnew).2
    rw [hname] at honly
    exact ⟨m, m', h, h', hfilter, hnames, hnames', honly⟩
  · have hok : (Model.ofDocuments .inferring (bayNameDocuments.take 1)).isOk = true := by
      decide +kernel
    obtain ⟨m', h'⟩ := exists_of_isOk hok
    have hdeclared : ∀ c ∈ m'.classes, c.declared = true := by
      rw [Model.classes_of_ofDocuments h']
      decide +kernel
    exact ⟨m', h', hdeclared,
      (Model.strict_agrees (bayNameDocuments.take 1)).2 m' h' fun c hc => .inl (hdeclared c hc)⟩

end CimSchema
