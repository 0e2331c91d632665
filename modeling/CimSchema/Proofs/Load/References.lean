import CimSchema.Proofs.Load.Document
import CimSchema.Proofs.Resolve.Records

/-!
# References of schema files

Classes are declared in one place and referred to in another, maybe in another file. Both places
name them by IRIs, of which only local names are kept, and the references to types are read in a
different way from those to classes. This module shows that the two ways fit together: where the
statements of some files refer only to what is declared in one of them, or to built-in primitives,
no reference is found to be missing.

## Main definitions

* `Rdf.StatesClass`, `Rdf.IsType` - what an IRI may stand for.
* `Rdf.ReferencesDeclared` - the statements of some files refer only to what there is.

## Main results

* `foundFaults_eq_of_known` - if all references are known, only cycles are wrong.
* `Model.cyclicInheritance_of_referencesDeclared` - files whose references are declared make up a
  model, unless bases go round in a circle.
-/

namespace CimSchema

open Rdf

variable {strictness : Strictness} {documents : List Document} {o : LoadOptions}
  {files : List (String × List Statement)}

/-- Whether a file states that the subject `iri` is a class. -/
def Rdf.StatesClass (files : List (String × List Statement)) (iri : String) : Prop :=
  ∃ file ∈ files, ⟨.iri iri, rdf "type", .node (.iri (rdfs "Class"))⟩ ∈ file.2

instance (files : List (String × List Statement)) : DecidablePred (StatesClass files) :=
  fun iri => inferInstanceAs (Decidable (∃ file ∈ files,
    ⟨.iri iri, rdf "type", .node (.iri (rdfs "Class"))⟩ ∈ file.2))

/-- Whether `iri` is a class that a file states, or stands for a built-in primitive. It has at most
one fragment. -/
def Rdf.IsType (files : List (String × List Statement)) (iri : String) : Prop :=
  iri.toList.count '#' ≤ 1 ∧ (StatesClass files iri ∨ typeReference iri ∈ builtinPrimitives)

instance (files : List (String × List Statement)) : DecidablePred (IsType files) :=
  fun iri => inferInstanceAs (Decidable (iri.toList.count '#' ≤ 1 ∧
    (StatesClass files iri ∨ typeReference iri ∈ builtinPrimitives)))

/-- The classes and types that the statements of some files refer to are there. -/
structure Rdf.ReferencesDeclared (files : List (String × List Statement)) : Prop where
  classes : ∀ file ∈ files, ∀ s ∈ file.2,
    s.predicate = rdfs "domain" ∨ s.predicate = rdfs "subClassOf" →
      s.object.IsIri (StatesClass files)
  types : ∀ file ∈ files, ∀ s ∈ file.2,
    s.predicate = rdfs "range" ∨ s.predicate = cims "dataType" → s.object.IsIri (IsType files)

/-! ### Known references -/

/-- If everything that declarations refer to is known, only cycles of bases are wrong. -/
theorem foundFaults_eq_of_known
    (hdomain : ∀ d ∈ documents, ∀ p ∈ d.properties,
      p.domain ∈ knownClasses (strictness = .inferring) documents)
    (htype : ∀ d ∈ documents, ∀ p ∈ d.properties, ∃ type, p.valueType = some type ∧
      type ∈ knownClasses (strictness = .inferring) documents)
    (hbase : ∀ d ∈ documents, ∀ c ∈ d.classes, ∀ base, c.superClass = some base →
      base ∈ knownClasses (strictness = .inferring) documents) :
    foundFaults strictness documents =
      (knownBases (.ofDocuments (strictness = .inferring) documents)).cycles.map
        .cyclicInheritance := by
  have hmembers : memberFaults strictness documents = [] := by
    refine List.filterMap_eq_nil_iff.2 fun key _ => Option.bind_eq_none_iff.2 fun e he => ?_
    obtain ⟨d, hd, p, hp, rfl⟩ :=
      mem_signedProperties_iff.1 (List.mem_filter.1 (List.mem_of_head? he)).1
    obtain ⟨type, hvalueType, hknown⟩ := htype d hd p hp
    rw [PropertyDeclaration.fault?, if_neg (not_not.2 (hdomain d hd p hp)), hvalueType]
    exact if_neg (not_not.2 hknown)
  have hbases : baseFaults strictness documents = [] := by
    have hnone : (knownClasses (strictness = .inferring) documents).filterMap
        (baseFault? (knownClasses (strictness = .inferring) documents) documents) = [] := by
      refine List.filterMap_eq_nil_iff.2 fun name _ => Option.bind_eq_none_iff.2 fun base h => ?_
      obtain ⟨e, he, hsuper⟩ := List.exists_of_findSome?_eq_some h
      obtain ⟨d, hd, c, hc, rfl⟩ := mem_signedClasses_iff.1 (List.mem_filter.1 he).1
      exact if_neg (not_not.2 (hbase d hd c hc base hsuper))
    exact (congrArg (List.mergeSort · _) hnone).trans List.mergeSort_nil
  rw [foundFaults, faults, hmembers, hbases]
  rfl

/-! ### Loaded files -/

section Loaded

variable (hload : files.mapM (fun file => Document.ofStatements o file.1 file.2) = .ok documents)
include hload

/-- A class that a file declares is known by the local name of its IRI. -/
theorem mem_knownClasses_of_statesClass {iri : String} (h : StatesClass files iri) :
    localName iri ∈ knownClasses (strictness = .inferring) documents := by
  obtain ⟨file, hfile, hs⟩ := h
  obtain ⟨document, hdocument, hloaded⟩ := exists_left_of_mem (mapM_eq_ok_iff.1 hload).flip hfile
  obtain ⟨d, hd, hsubject, hclass⟩ := exists_description hs
  obtain ⟨added, hadded, -⟩ := Document.ofStatements_eq_ok_iff.1 hloaded
  obtain ⟨c, -, hc⟩ := exists_left_of_mem hadded.flip hd
  rw [contribution_of_mem_class hsubject hclass hc] at hc
  have hdeclared : .cls (classOf o (localName iri) d) ∈ document.declarations :=
    (Document.mem_declarations_iff hloaded).2 ⟨d, hd, hc⟩
  exact mem_knownClasses_iff.2 (.inl ⟨document, hdocument, _,
    Document.mem_classes_iff.2 hdeclared, rfl⟩)

/-- What a document declares was described in a file. -/
theorem exists_contribution {document : Document} (hdocument : document ∈ documents)
    {declaration : Declaration} (h : declaration ∈ document.declarations) :
    ∃ file ∈ files, ∃ d ∈ descriptions file.2,
      contribution o file.1 d = .ok (.declaration declaration) := by
  obtain ⟨file, hfile, hloaded⟩ := exists_left_of_mem (mapM_eq_ok_iff.1 hload) hdocument
  obtain ⟨d, hd, hcontribution⟩ := (Document.mem_declarations_iff hloaded).1 h
  exact ⟨file, hfile, d, hd, hcontribution⟩

theorem exists_propertyOf {document : Document} (hdocument : document ∈ documents)
    {p : PropertyDeclaration} (hp : p ∈ document.properties) :
    ∃ file ∈ files, ∃ d ∈ descriptions file.2, ∃ id, propertyOf o file.1 id d = .ok p := by
  obtain ⟨file, hfile, d, hd, hcontribution⟩ :=
    exists_contribution hload hdocument (Document.mem_properties_iff.1 hp)
  exact ⟨file, hfile, d, hd, exists_of_contribution_property hcontribution⟩

theorem exists_classOf {document : Document} (hdocument : document ∈ documents)
    {c : ClassDeclaration} (hc : c ∈ document.classes) :
    ∃ file ∈ files, ∃ d ∈ descriptions file.2, ∃ id, classOf o id d = c := by
  obtain ⟨file, hfile, d, hd, hcontribution⟩ :=
    exists_contribution hload hdocument (Document.mem_classes_iff.1 hc)
  exact ⟨file, hfile, d, hd, exists_of_contribution_class hcontribution⟩

variable (hreferences : ReferencesDeclared files)
include hreferences

/-- The classes that a description refers to are known. -/
theorem mem_knownClasses_of_firstLocal? {file : String × List Statement} (hfile : file ∈ files)
    {d : Description} (hd : d ∈ descriptions file.2) {predicate : String}
    (hpredicate : predicate = rdfs "domain" ∨ predicate = rdfs "subClassOf") {name : String}
    (h : d.firstLocal? predicate = some name) :
    name ∈ knownClasses (strictness = .inferring) documents := by
  obtain ⟨iri, hfirst, rfl⟩ := Option.map_eq_some_iff.1 h
  have hstated : StatesClass files iri := by
    refine holds_of_first? hd (fun s hs hpred => ?_) hfirst
    exact hreferences.classes file hfile s hs (hpred ▸ hpredicate)
  exact mem_knownClasses_of_statesClass hload hstated

/-- The types that a description refers to are known, or they are built-in primitives. -/
theorem mem_knownClasses_or_builtin {file : String × List Statement} (hfile : file ∈ files)
    {d : Description} (hd : d ∈ descriptions file.2) {predicate : String}
    (hpredicate : predicate = rdfs "range" ∨ predicate = cims "dataType") {type : String}
    (h : (d.first? predicate).map typeReference = some type) :
    type ∈ knownClasses (strictness = .inferring) documents ∨ type ∈ builtinPrimitives := by
  obtain ⟨iri, hfirst, rfl⟩ := Option.map_eq_some_iff.1 h
  have hstated : IsType files iri := by
    refine holds_of_first? hd (fun s hs hpred => ?_) hfirst
    exact hreferences.types file hfile s hs (hpred ▸ hpredicate)
  obtain ⟨hsingle, hclass | hbuiltin⟩ := hstated
  · rcases typeReference_eq_or hsingle with hname | hbuiltin
    · rw [hname]
      exact .inl (mem_knownClasses_of_statesClass hload hclass)
    · exact .inr hbuiltin
  · exact .inr hbuiltin

theorem domain_mem_knownClasses {document : Document} (hdocument : document ∈ documents)
    {p : PropertyDeclaration} (hp : p ∈ document.properties) :
    p.domain ∈ knownClasses (strictness = .inferring) documents := by
  obtain ⟨file, hfile, d, hd, id, hproperty⟩ := exists_propertyOf hload hdocument hp
  obtain ⟨hdomain, -, -, -⟩ := eq_of_propertyOf hproperty
  exact mem_knownClasses_of_firstLocal? hload hreferences hfile hd (.inl rfl) hdomain

theorem superClass_mem_knownClasses {document : Document} (hdocument : document ∈ documents)
    {c : ClassDeclaration} (hc : c ∈ document.classes) {base : String}
    (hbase : c.superClass = some base) :
    base ∈ knownClasses (strictness = .inferring) documents := by
  obtain ⟨file, hfile, d, hd, id, rfl⟩ := exists_classOf hload hdocument hc
  exact mem_knownClasses_of_firstLocal? hload hreferences hfile hd (.inr rfl) hbase

theorem valueType_mem_knownClasses {document : Document} (hdocument : document ∈ documents)
    {p : PropertyDeclaration} (hp : p ∈ document.properties) :
    ∃ type, p.valueType = some type ∧
      type ∈ knownClasses (Strictness.inferring = .inferring) documents := by
  obtain ⟨file, hfile, d, hd, id, hproperty⟩ := exists_propertyOf hload hdocument hp
  obtain ⟨-, hrange, hdataType, hsome⟩ := eq_of_propertyOf hproperty
  obtain ⟨type, htype⟩ := Option.ne_none_iff_exists'.1 hsome
  have hread : type ∈ knownClasses (Strictness.inferring = .inferring) documents ∨
      type ∈ builtinPrimitives := by
    have hor := htype
    rw [PropertyDeclaration.valueType, Option.orElse_eq_orElse, Option.orElse_eq_or,
      Option.or_eq_some_iff, hdataType, hrange] at hor
    rcases hor with hread | ⟨-, hread⟩
    · exact mem_knownClasses_or_builtin hload hreferences hfile hd (.inr rfl) hread
    · exact mem_knownClasses_or_builtin hload hreferences hfile hd (.inl rfl) hread
  refine ⟨type, htype, ?_⟩
  rcases hread with hknown | hbuiltin
  · exact hknown
  -- The reference itself makes a built-in primitive known.
  · exact mem_knownClasses_iff.2 (.inr (.inr ⟨rfl, hbuiltin, document, hdocument, p, hp, htype⟩))

end Loaded

/-- **Complete references.** Where the statements of the files that are loaded refer only to classes
that one of the files declares and to built-in primitives, a model is built, or nothing is wrong but
that bases go round in a circle. -/
theorem Model.cyclicInheritance_of_referencesDeclared
    (hload : files.mapM (fun file => Document.ofStatements o file.1 file.2) = .ok documents)
    (hreferences : ReferencesDeclared files) :
    (∃ m, Model.ofDocuments .inferring documents = .ok m) ∨
      ∃ e, Model.ofDocuments .inferring documents = .error e ∧
        ∀ leaf ∈ e.leaves, ∃ cycle, leaf = .cyclicInheritance cycle := by
  have hfaults := foundFaults_eq_of_known
    (fun _ hdocument _ hp => domain_mem_knownClasses hload hreferences hdocument hp)
    (fun _ hdocument _ hp => valueType_mem_knownClasses hload hreferences hdocument hp)
    (fun _ hdocument _ hc _ hbase => superClass_mem_knownClasses hload hreferences hdocument hc hbase)
  cases hbuilt : Model.ofDocuments .inferring documents with
  | ok m => exact .inl ⟨m, rfl⟩
  | error e =>
    refine .inr ⟨e, rfl, fun leaf hleaf => ?_⟩
    rw [(foundFaults_of_eq_error hbuilt).2, hfaults] at hleaf
    obtain ⟨cycle, -, rfl⟩ := List.mem_map.1 hleaf
    exact ⟨cycle, rfl⟩

/-- Stations are declared in one file, and their names in another. -/
def stationFiles : List (String × List Statement) :=
  let resource := Node.iri "http://iec.ch/TC57/CIM100#Resource"
  let station := Node.iri "http://iec.ch/TC57/CIM100#Station"
  let name := Node.iri "http://iec.ch/TC57/CIM100#Station.name"
  let owner := Node.iri "http://iec.ch/TC57/CIM100#Station.owner"
  [("stations.rdf", [
      ⟨station, rdf "type", .node (.iri (rdfs "Class"))⟩,
      ⟨station, rdfs "subClassOf", .node resource⟩,
      ⟨owner, rdf "type", .node (.iri (rdf "Property"))⟩,
      ⟨owner, rdfs "domain", .node station⟩,
      ⟨owner, rdfs "range", .node resource⟩]),
    ("resources.rdf", [
      ⟨resource, rdf "type", .node (.iri (rdfs "Class"))⟩,
      ⟨name, rdfs "domain", .node station⟩,
      ⟨name, rdf "type", .node (.iri (rdf "Property"))⟩,
      ⟨name, cims "dataType", .node (.iri (xsdNamespace ++ "string"))⟩])]

theorem referencesDeclared_stationFiles : ReferencesDeclared stationFiles where
  classes := by decide +kernel
  types := by decide +kernel

theorem cyclicInheritance_stationFiles :
    ∃ documents,
      stationFiles.mapM (fun file => Document.ofStatements {} file.1 file.2) = .ok documents ∧
        documents.map (·.declarations.length) = [2, 2] ∧
        ReferencesDeclared stationFiles ∧
        ((∃ m, Model.ofDocuments .inferring documents = .ok m) ∨
          ∃ e, Model.ofDocuments .inferring documents = .error e ∧
            ∀ leaf ∈ e.leaves, ∃ cycle, leaf = .cyclicInheritance cycle) := by
  have hlengths : (stationFiles.mapM fun file =>
      Document.ofStatements {} file.1 file.2).toOption.map
        (·.map (·.declarations.length)) = some [2, 2] := by decide +kernel
  obtain ⟨documents, hdocuments, hlengths⟩ := Option.map_eq_some_iff.1 hlengths
  have hload := toOption_eq_some_iff.1 hdocuments
  exact ⟨documents, hload, hlengths, referencesDeclared_stationFiles,
    Model.cyclicInheritance_of_referencesDeclared hload referencesDeclared_stationFiles⟩

end CimSchema
