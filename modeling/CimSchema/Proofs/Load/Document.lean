import CimSchema.Load.Text
import CimSchema.Proofs.Error
import CimSchema.Proofs.Rdf.Description
import CimSchema.Proofs.Text.Segment
import CimSchema.Merge.ClassTable

/-!
# What a loaded document declares

A document is put together from what each subject adds. Here its declarations are traced back to the
descriptions of the subjects, and the names in them to the IRIs that they were cut from.

## Main definitions

* `Contribution.declaration?` - the declaration that a subject adds.

## Main results

* `Document.mem_declarations_iff` - the declarations of a document are those of its subjects.
* `contribution_declaration_cases` - what a subject declares.
* `contribution_of_mem_class` - a subject that is a class declares it.
* `eq_of_propertyOf` - what a property refers to.
* `typeReference_eq_or` - types and classes get the same names, apart from built-in primitives.
* `Document.source_of_ofText` - what is wrong with a file names the file.
* `Document.ofText_of_statements` - a text is read step by step.
-/

namespace CimSchema

open Rdf

variable {o : LoadOptions} {source id : String} {ss : List Statement} {d : Description}
  {document : Document}

/-! ### Names -/

/-- A choice between a name of a list and what is a given name or in the list. -/
theorem ite_eq_or_mem {α : Type} {cond : Prop} [Decidable cond] {x y name : α} {names : List α}
    (hx : x ∈ names) (hy : y = name ∨ y ∈ names) :
    (if cond then x else y) = name ∨ (if cond then x else y) ∈ names := by
  by_cases hcond : cond
  · rw [if_pos hcond]
    exact .inr hx
  · rw [if_neg hcond]
    exact hy

theorem standardPrimitive_eq_or (name : String) :
    standardPrimitive name = name ∨ standardPrimitive name ∈ builtinPrimitives := by
  rw [standardPrimitive]
  repeat refine ite_eq_or_mem (by decide) ?_
  exact .inl rfl

theorem localName_of_fragment (base : String) {fragment : String} (h : '#' ∉ fragment.toList) :
    localName (base ++ "#" ++ fragment) = fragment := by
  have hhash : "#" = String.singleton '#' := rfl
  rw [localName, hhash, Text.splitLast?_eq_some base h]

/-- A reference to a type names the class that is declared with the same IRI, or it is a built-in
primitive. A second fragment would be cut off from the class only. -/
theorem typeReference_eq_or {iri : String} (h : iri.toList.count '#' ≤ 1) :
    typeReference iri = localName iri ∨ typeReference iri ∈ builtinPrimitives := by
  rw [typeReference]
  cases hname : Text.stripStart? xsdNamespace iri with
  | none => exact .inl rfl
  | some name =>
    have hiri : iri = "http://www.w3.org/2001/XMLSchema" ++ "#" ++ name := by
      rw [Text.stripStart?_eq_some hname]
      rfl
    have hsingle : '#' ∉ name.toList := by
      rw [hiri, String.toList_append, String.toList_append, List.count_append, List.count_append] at h
      have hhash : "#".toList.count '#' = 1 := by decide
      rw [← List.count_eq_zero]
      omega
    dsimp only
    rw [hiri, localName_of_fragment _ hsingle]
    exact standardPrimitive_eq_or name

/-! ### Declarations -/

/-- The declaration that a subject adds. -/
def Contribution.declaration? : Contribution → Option Declaration
  | declaration d => some d
  | nothing | header _ _ => none

namespace Document

theorem mem_classes_iff {c : ClassDeclaration} :
    c ∈ document.classes ↔ .cls c ∈ document.declarations := by
  rw [classes, List.mem_filterMap]
  constructor
  · rintro ⟨declaration, hmem, hc⟩
    cases declaration with
    | cls c' => exact Option.some.inj hc ▸ hmem
    | property p | value v => cases hc
  · intro hmem
    exact ⟨_, hmem, rfl⟩

theorem mem_properties_iff {p : PropertyDeclaration} :
    p ∈ document.properties ↔ .property p ∈ document.declarations := by
  rw [properties, List.mem_filterMap]
  constructor
  · rintro ⟨declaration, hmem, hp⟩
    cases declaration with
    | property p' => exact Option.some.inj hp ▸ hmem
    | cls c | value v => cases hp
  · intro hmem
    exact ⟨_, hmem, rfl⟩

theorem declarations_foldl_add (added : List Contribution) (document : Document) :
    (added.foldl add document).declarations =
      document.declarations ++ added.filterMap (·.declaration?) := by
  induction added generalizing document with
  | nil => simp
  | cons c added ih =>
    rw [List.foldl_cons, ih]
    cases c with
    | nothing => rfl
    | header keyword version => rfl
    | declaration d => cases d <;> simp [add, Contribution.declaration?]

theorem ofStatements_eq_ok_iff :
    ofStatements o source ss = .ok document ↔
      ∃ added, List.Forall₂ (fun d c => contribution o source d = .ok c) (descriptions ss) added ∧
        added.foldl add { source } = document := by
  simp only [← mapM_eq_ok_iff]
  rw [ofStatements]
  cases (descriptions ss).mapM (contribution o source) with
  | error e => simp [bind, Except.bind]
  | ok added => simp [bind, Except.bind, pure, Except.pure]

/-- The declarations of a document are those that its subjects add. -/
theorem mem_declarations_iff (h : ofStatements o source ss = .ok document)
    {declaration : Declaration} :
    declaration ∈ document.declarations ↔
      ∃ d ∈ descriptions ss, contribution o source d = .ok (.declaration declaration) := by
  obtain ⟨added, hadded, rfl⟩ := ofStatements_eq_ok_iff.1 h
  rw [declarations_foldl_add, List.nil_append, List.mem_filterMap]
  constructor
  · rintro ⟨c, hc, hdeclaration⟩
    obtain ⟨d, hd, hcontribution⟩ := exists_left_of_mem hadded hc
    cases c with
    | nothing | header keyword version => cases hdeclaration
    | declaration d' =>
      obtain rfl := Option.some.inj hdeclaration
      exact ⟨d, hd, hcontribution⟩
  · rintro ⟨d, hd, hcontribution⟩
    obtain ⟨c, hc, hd⟩ := exists_left_of_mem hadded.flip hd
    obtain rfl : c = .declaration declaration := Except.ok.inj (hd.symm.trans hcontribution)
    exact ⟨_, hc, rfl⟩

end Document

/-! ### Classes and properties -/

/-- What a subject declares: a class if it is one, or else a property if it is one, or else a value
of an enumeration. -/
theorem contribution_declaration_cases {declaration : Declaration}
    (h : contribution o source d = .ok (.declaration declaration)) :
    ∃ iri, d.subject = .iri iri ∧
      ((rdfs "Class" ∈ d.types ∧ declaration = .cls (classOf o (localName iri) d)) ∨
        (rdfs "Class" ∉ d.types ∧ rdf "Property" ∈ d.types ∧
          ∃ p, propertyOf o source (localName iri) d = .ok p ∧ declaration = .property p) ∨
        (rdfs "Class" ∉ d.types ∧ rdf "Property" ∉ d.types ∧
          ∃ v, valueOf? o (localName iri) d = some v ∧ declaration = .value v)) := by
  rw [contribution] at h
  split at h
  case h_1 iri hsubject =>
    refine ⟨iri, hsubject, ?_⟩
    simp only [List.contains_iff_mem] at h
    split at h
    · cases h
    by_cases hclass : rdfs "Class" ∈ d.types
    · rw [if_pos hclass] at h
      cases h
      exact .inl ⟨hclass, rfl⟩
    rw [if_neg hclass] at h
    by_cases hproperty : rdf "Property" ∈ d.types
    · rw [if_pos hproperty] at h
      cases hp : propertyOf o source (localName iri) d with
      | error e =>
        rw [hp] at h
        cases h
      | ok p =>
        rw [hp] at h
        cases h
        exact .inr (.inl ⟨hclass, hproperty, p, rfl, rfl⟩)
    rw [if_neg hproperty] at h
    -- Heads of files and categories declare nothing.
    split at h
    · cases h
    split at h
    · cases h
    cases hv : valueOf? o (localName iri) d with
    | none =>
      rw [hv] at h
      cases h
    | some v =>
      rw [hv] at h
      cases h
      exact .inr (.inr ⟨hclass, hproperty, v, rfl, rfl⟩)
  case h_2 => cases h

/-- A named subject that is a class adds its declaration, if it adds anything. -/
theorem contribution_of_mem_class {iri : String} {c : Contribution} (hsubject : d.subject = .iri iri)
    (hclass : rdfs "Class" ∈ d.types) (h : contribution o source d = .ok c) :
    c = .declaration (.cls (classOf o (localName iri) d)) := by
  rw [contribution, hsubject] at h
  dsimp only at h
  split at h
  · cases h
  · rw [if_pos (List.contains_iff_mem.2 hclass)] at h
    exact (Except.ok.inj h).symm

theorem exists_of_contribution_class {c : ClassDeclaration}
    (h : contribution o source d = .ok (.declaration (.cls c))) : ∃ id, classOf o id d = c := by
  obtain ⟨iri, -, ⟨-, hc⟩ | ⟨-, -, p, -, hp⟩ | ⟨-, -, v, -, hv⟩⟩ := contribution_declaration_cases h
  · exact ⟨localName iri, (Declaration.cls.inj hc).symm⟩
  · cases hp
  · cases hv

theorem exists_of_contribution_property {p : PropertyDeclaration}
    (h : contribution o source d = .ok (.declaration (.property p))) :
    ∃ id, propertyOf o source id d = .ok p := by
  obtain ⟨iri, -, ⟨-, hc⟩ | ⟨-, -, p', hp, heq⟩ | ⟨-, -, v, -, hv⟩⟩ :=
    contribution_declaration_cases h
  · cases hc
  · rw [Declaration.property.inj heq]
    exact ⟨localName iri, hp⟩
  · cases hv

/-- What a property refers to. It has a domain and a type. -/
theorem eq_of_propertyOf {p : PropertyDeclaration} (h : propertyOf o source id d = .ok p) :
    d.firstLocal? (rdfs "domain") = some p.domain ∧
      p.range = (d.first? (rdfs "range")).map typeReference ∧
      p.dataType = (d.first? (cims "dataType")).map typeReference ∧
      p.valueType ≠ none := by
  rw [propertyOf] at h
  cases hdomain : d.firstLocal? (rdfs "domain") with
  | none =>
    rw [hdomain] at h
    cases h
  | some domain =>
    rw [hdomain] at h
    dsimp only [bind, Except.bind] at h
    split at h
    · cases h
    · rename_i htype
      cases h
      refine ⟨rfl, rfl, rfl, fun hnone => htype ?_⟩
      -- Without a type there would be neither a data type nor a range.
      rw [PropertyDeclaration.valueType, Option.orElse_eq_orElse, Option.orElse_eq_or] at hnone
      obtain ⟨hdataType, hrange⟩ := Option.or_eq_none_iff.1 hnone
      exact Bool.and_eq_true_iff.2
        ⟨Option.isNone_iff_eq_none.2 hrange, Option.isNone_iff_eq_none.2 hdataType⟩

/-! ### Errors -/

theorem source_of_propertyOf {e : LoadError} (h : propertyOf o source id d = .error e) :
    e.source = source := by
  rw [propertyOf] at h
  cases hdomain : d.firstLocal? (rdfs "domain") with
  | none =>
    rw [hdomain] at h
    obtain rfl := Except.error.inj h
    rfl
  | some domain =>
    rw [hdomain] at h
    dsimp only [bind, Except.bind] at h
    split at h
    · obtain rfl := Except.error.inj h
      rfl
    · cases h

theorem source_of_contribution {e : LoadError} (h : contribution o source d = .error e) :
    e.source = source := by
  rw [contribution] at h
  split at h
  · dsimp only at h
    split at h
    · obtain rfl := Except.error.inj h
      rfl
    split at h
    · cases h
    split at h
    · exact source_of_propertyOf (map_eq_error_iff.1 h)
    split at h
    · cases h
    split at h <;> cases h
  · cases h

/-- What is wrong with the text of a file names the file. -/
theorem Document.source_of_ofText {content : String} {e : LoadError}
    (h : ofText o source content = .error e) : e.source = source := by
  rw [ofText] at h
  cases hss : statementsOf o content with
  | error fault =>
    rw [hss] at h
    obtain rfl := Except.error.inj h
    rfl
  | ok ss =>
    rw [hss] at h
    dsimp only [Except.mapError, bind, Except.bind] at h
    rw [ofStatements] at h
    cases hadded : (descriptions ss).mapM (contribution o source) with
    | error e' =>
      rw [hadded] at h
      obtain rfl := Except.error.inj h
      obtain ⟨_, _, _, -, -, hd⟩ := mapM_eq_error_iff.1 hadded
      exact source_of_contribution hd
    | ok added =>
      rw [hadded] at h
      cases h

/-- A text is read in steps: its characters make tokens, these make statements, and the statements
make the document. -/
theorem Document.ofText_of_statements {content : String} {cs : List Char} {base : Iri}
    (ss : List Statement) (hchars : content.toList = cs)
    (henvelope : (Xml.checkEnvelope rdfNamespace "RDF" (Xml.tokens (withoutByteOrderMark cs)).1
      (Xml.tokens (withoutByteOrderMark cs)).2).isOk = true)
    (hbase : Iri.parse? o.baseIri = some base)
    (hss : statements? base (Xml.tokens (withoutByteOrderMark cs)).1
      (Xml.tokens (withoutByteOrderMark cs)).2 = some ss)
    (hdocument : (ofStatements o source ss).toOption = some document) :
    ofText o source content = .ok document := by
  obtain ⟨u, hu⟩ := exists_of_isOk henvelope
  have hstatements : statementsOf o content = .ok ss := by
    rw [statementsOf, hchars]
    dsimp only
    rw [hu, hbase]
    dsimp only [bind, Except.bind, Except.mapError]
    rw [hss]
    rfl
  rw [ofText, hstatements]
  exact toOption_eq_some_iff.1 hdocument

end CimSchema
