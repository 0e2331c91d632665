import CimSchema.Proofs.Load.Subjects
import CimSchema.Proofs.Reorder

/-!
# What each named subject is

The types of a named subject make it a class, or else a property, or else the head of the file, or
else a category, or else a value of an enumeration. A file is read as a whole or not at all: the
first subject that lacks something stops it, and otherwise each class, property and value is
declared once, in the order in which the subjects came first. The keyword is found wherever it
stands: the heads of the file come before a property `shortName`, and of the heads the last one
counts.

## Main definitions

* `Rdf.IsProperty`, `Rdf.IsHead`, `Rdf.IsValue` - what a named subject is.
* `Rdf.missing?` - the error of a named subject that lacks something.
* `Rdf.Declares` - what a named subject declares.
* `Rdf.headKeyword?`, `Rdf.shortName?` - the keywords that a named subject gives.

## Main results

* `contribution_eq_error_iff`, `matches_contribution` - what a named subject adds to a document.
* `Document.ofStatements_classifies` - the document of some statements, or the first error.
-/

namespace CimSchema

namespace Rdf

/-- The text that is read for a predicate of a named subject, its words with single spaces between,
if there are any. -/
def text? (ss : List Statement) (iri predicate : String) : Option String :=
  ((value? ss iri predicate).map Text.collapse).filter (!·.isEmpty)

/-! ### Roles -/

/-- A named subject that is a property, and no class. -/
def IsProperty (ss : List Statement) (iri : String) : Prop :=
  rdf "Property" ∈ typesOf ss iri ∧ rdfs "Class" ∉ typesOf ss iri

/-- A named subject that is the head of the file, and neither a class nor a property. -/
def IsHead (ss : List Statement) (iri : String) : Prop :=
  owl "Ontology" ∈ typesOf ss iri ∧ rdfs "Class" ∉ typesOf ss iri ∧
    rdf "Property" ∉ typesOf ss iri

/-- A type that belongs to no vocabulary of schemas. -/
def IsForeign (type : String) : Prop :=
  ∀ vocabulary ∈ [rdfNamespace, rdfsNamespace, owlNamespace, cimsNamespace],
    ¬ vocabulary.toList <+: type.toList

instance : DecidablePred IsForeign := fun type =>
  inferInstanceAs (Decidable (∀ vocabulary ∈ [rdfNamespace, rdfsNamespace, owlNamespace,
    cimsNamespace], ¬ vocabulary.toList <+: type.toList))

/-- A named subject that has no other role, but a type that belongs to no vocabulary of schemas. -/
def IsValue (ss : List Statement) (iri : String) : Prop :=
  (∀ type ∈ [rdfs "Class", rdf "Property", owl "Ontology", cims "ClassCategory"],
    type ∉ typesOf ss iri) ∧ ∃ type ∈ typesOf ss iri, IsForeign type

/-- A named subject that declares something. -/
def IsDeclared (ss : List Statement) (iri : String) : Prop :=
  rdfs "Class" ∈ typesOf ss iri ∨ rdf "Property" ∈ typesOf ss iri ∨ IsValue ss iri

instance (ss : List Statement) : DecidablePred (IsProperty ss) := fun iri =>
  inferInstanceAs (Decidable (_ ∧ rdfs "Class" ∉ typesOf ss iri))

instance (ss : List Statement) : DecidablePred (IsHead ss) := fun iri =>
  inferInstanceAs (Decidable (_ ∧ _ ∧ rdf "Property" ∉ typesOf ss iri))

instance (ss : List Statement) : DecidablePred (IsValue ss) := fun iri =>
  inferInstanceAs (Decidable (_ ∧ ∃ type ∈ typesOf ss iri, IsForeign type))

instance (ss : List Statement) : DecidablePred (IsDeclared ss) := fun iri =>
  inferInstanceAs (Decidable (_ ∨ _ ∨ IsValue ss iri))

/-! ### What named subjects add -/

/-- The error of a named subject that lacks something: a local name, or, if it is a property, a
domain, or both a range and a data type. -/
def missing? (source : String) (ss : List Statement) (iri : String) : Option LoadError :=
  if localName iri = "" then some (.missing source s!"<{iri}>" .identifier)
  else if IsProperty ss iri then
    if value? ss iri (rdfs "domain") = none then some (.missing source (localName iri) .domain)
    else if value? ss iri (rdfs "range") = none ∧ value? ss iri (cims "dataType") = none then
      some (.missing source (localName iri) .type)
    else none
  else none

/-- The declaration of a named subject. A value belongs to the enumeration that the first of its
foreign types names. -/
inductive Declares (source : String) (ss : List Statement) (iri : String) : Declaration → Prop
  | cls (hclass : rdfs "Class" ∈ typesOf ss iri) :
    Declares source ss iri (.cls (classOf {} (localName iri) (namedDescription ss iri)))
  | property {p : PropertyDeclaration} (hproperty : IsProperty ss iri)
    (hp : propertyOf {} source (localName iri) (namedDescription ss iri) = .ok p) :
    Declares source ss iri (.property p)
  | value {type : String} (hvalue : IsValue ss iri)
    (htype : (typesOf ss iri).find? (IsForeign ·) = some type) :
    Declares source ss iri (.value {
      id := localName iri
      label := text? ss iri (rdfs "label")
      comment := text? ss iri (rdfs "comment")
      enumeration := localName type })

/-- The keyword that the head of a file gives. -/
def headKeyword? (ss : List Statement) (iri : String) : Option String :=
  if IsHead ss iri then text? ss iri (dcatNamespace ++ "keyword") else none

/-- The keyword that the fixed value of a property `shortName` gives. -/
def shortName? (ss : List Statement) (iri : String) : Option String :=
  if IsProperty ss iri ∧ memberName (text? ss iri (rdfs "label")) (localName iri) = "shortName" then
    (value? ss iri (cims "isFixed")).map Text.trim
  else none

end Rdf

/-! ### Contributions -/

open Rdf

/-- The keyword that the head of a file adds. -/
def Contribution.headKeyword? : Contribution → Option String
  | header keyword _ => keyword
  | _ => none

/-- The keyword that a property `shortName` adds. -/
def Contribution.shortName? : Contribution → Option String
  | declaration (.property p) => if p.name = "shortName" then p.fixed else none
  | _ => none

variable {source iri : String} {ss : List Statement}

theorem textOf_namedDescription {predicate : String} (hpredicate : predicate ≠ rdf "type") :
    textOf {} (namedDescription ss iri) predicate = text? ss iri predicate := by
  rw [textOf, first?_namedDescription hpredicate, text?]
  rfl

/-- A property that is read has the name and the fixed value that are stated. -/
theorem shortName?_of_propertyOf {p : PropertyDeclaration}
    (h : propertyOf {} source (localName iri) (namedDescription ss iri) = .ok p) :
    p.name = memberName (text? ss iri (rdfs "label")) (localName iri) ∧
      p.fixed = (value? ss iri (cims "isFixed")).map Text.trim := by
  rw [propertyOf] at h
  cases hdomain : (namedDescription ss iri).firstLocal? (rdfs "domain") with
  | none =>
    rw [hdomain] at h
    cases h
  | some domain =>
    rw [hdomain] at h
    dsimp only [bind, Except.bind] at h
    split at h
    · cases h
    · cases h
      refine ⟨?_, congrArg (Option.map Text.trim) (first?_namedDescription (by decide) iri)⟩
      rw [PropertyDeclaration.name, textOf_namedDescription (by decide)]

theorem propertyOf_eq_error_iff {e : LoadError} :
    propertyOf {} source (localName iri) (namedDescription ss iri) = .error e ↔
      (if value? ss iri (rdfs "domain") = none then some (.missing source (localName iri) .domain)
      else if value? ss iri (rdfs "range") = none ∧ value? ss iri (cims "dataType") = none then
        some (.missing source (localName iri) .type)
      else none) = some e := by
  rw [propertyOf, Description.firstLocal?, first?_namedDescription (by decide),
    first?_namedDescription (by decide), first?_namedDescription (by decide)]
  cases value? ss iri (rdfs "domain") with
  | none => simp [throw, throwThe, MonadExceptOf.throw]
  | some domain =>
    cases value? ss iri (rdfs "range") <;> cases value? ss iri (cims "dataType") <;>
      simp [bind, Except.bind, pure, Except.pure, throw, throwThe, MonadExceptOf.throw]

theorem valueOf?_namedDescription (ss : List Statement) (iri : String) :
    valueOf? {} (localName iri) (namedDescription ss iri) =
      ((typesOf ss iri).find? (IsForeign ·)).map fun type =>
        { id := localName iri
          label := text? ss iri (rdfs "label")
          comment := text? ss iri (rdfs "comment")
          enumeration := localName type } := by
  have hforeign (type : String) :
      (!schemaNamespaces.any (·.toList.isPrefixOf type.toList)) = decide (IsForeign type) := by
    rw [Bool.eq_iff_iff, decide_eq_true_iff, Bool.not_eq_true', ← Bool.not_eq_true,
      List.any_eq_true]
    simp only [List.isPrefixOf_iff_prefix, not_exists, not_and]
    rfl
  rw [valueOf?, textOf_namedDescription (by decide), textOf_namedDescription (by decide)]
  simp only [hforeign]
  rfl

/-- What a named subject adds to a document is what its role says. -/
structure Contribution.Matches (source : String) (ss : List Statement) (iri : String)
    (c : Contribution) : Prop where
  declaration : Option.Rel (Declares source ss) (Option.guard (IsDeclared ss ·) iri) c.declaration?
  headKeyword : c.headKeyword? = Rdf.headKeyword? ss iri
  shortName : c.shortName? = Rdf.shortName? ss iri

section Roles

variable {p : PropertyDeclaration} {type : String}

theorem matches_class (hclass : rdfs "Class" ∈ typesOf ss iri) :
    (Contribution.declaration
      (.cls (classOf {} (localName iri) (namedDescription ss iri)))).Matches source ss iri where
  declaration := by
    rw [Option.guard, if_pos (decide_eq_true (.inl hclass))]
    exact .some (.cls hclass)
  headKeyword := by
    rw [Rdf.headKeyword?, if_neg fun h => h.2.1 hclass]
    rfl
  shortName := by
    rw [Rdf.shortName?, if_neg fun h => h.1.2 hclass]
    rfl

theorem matches_property (hproperty : IsProperty ss iri)
    (hp : propertyOf {} source (localName iri) (namedDescription ss iri) = .ok p) :
    (Contribution.declaration (.property p)).Matches source ss iri where
  declaration := by
    rw [Option.guard, if_pos (decide_eq_true (.inr (.inl hproperty.1)))]
    exact .some (.property hproperty hp)
  headKeyword := by
    rw [Rdf.headKeyword?, if_neg fun h => h.2.2 hproperty.1]
    rfl
  shortName := by
    obtain ⟨hname, hfixed⟩ := shortName?_of_propertyOf hp
    rw [Contribution.shortName?, Rdf.shortName?, hname, hfixed]
    simp only [hproperty, true_and]

/-- A subject that is neither a class nor a property names no keyword by itself. -/
theorem shortName?_eq_none (hproperty : rdf "Property" ∉ typesOf ss iri) :
    Rdf.shortName? ss iri = none :=
  if_neg fun h => hproperty h.1.1

theorem guard_isDeclared_eq_none (hclass : rdfs "Class" ∉ typesOf ss iri)
    (hproperty : rdf "Property" ∉ typesOf ss iri) (hvalue : ¬ IsValue ss iri) :
    Option.guard (IsDeclared ss ·) iri = none := by
  refine if_neg (mt of_decide_eq_true ?_)
  rintro (h | h | h)
  · exact hclass h
  · exact hproperty h
  · exact hvalue h

theorem matches_head (hhead : IsHead ss iri) (version : Option String) :
    (Contribution.header (text? ss iri (dcatNamespace ++ "keyword")) version).Matches
      source ss iri where
  declaration := by
    have hvalue : ¬ IsValue ss iri := fun h => h.1 (owl "Ontology") (by simp) hhead.1
    rw [guard_isDeclared_eq_none hhead.2.1 hhead.2.2 hvalue]
    exact .none
  headKeyword := (if_pos hhead).symm
  shortName := (shortName?_eq_none hhead.2.2).symm

theorem matches_nothing (hclass : rdfs "Class" ∉ typesOf ss iri)
    (hproperty : rdf "Property" ∉ typesOf ss iri) (hhead : ¬ IsHead ss iri)
    (hvalue : ¬ IsValue ss iri) : Contribution.nothing.Matches source ss iri where
  declaration := by
    rw [guard_isDeclared_eq_none hclass hproperty hvalue]
    exact .none
  headKeyword := (if_neg hhead).symm
  shortName := (shortName?_eq_none hproperty).symm

theorem matches_value (hvalue : IsValue ss iri)
    (htype : (typesOf ss iri).find? (IsForeign ·) = some type) :
    (Contribution.declaration (.value {
      id := localName iri
      label := text? ss iri (rdfs "label")
      comment := text? ss iri (rdfs "comment")
      enumeration := localName type })).Matches source ss iri where
  declaration := by
    rw [Option.guard, if_pos (decide_eq_true (.inr (.inr hvalue)))]
    exact .some (.value hvalue htype)
  headKeyword := by
    have hhead : ¬ IsHead ss iri := fun h => hvalue.1 (owl "Ontology") (by simp) h.1
    exact (if_neg hhead).symm
  shortName := by
    have hproperty : rdf "Property" ∉ typesOf ss iri := hvalue.1 _ (by simp)
    exact (shortName?_eq_none hproperty).symm

end Roles

/-- A named subject that lacks something has its error, and any other adds what its role says. -/
theorem contribution_namedDescription (source : String) (ss : List Statement) (iri : String) :
    match contribution {} source (namedDescription ss iri) with
    | .error e => missing? source ss iri = some e
    | .ok c => missing? source ss iri = none ∧ c.Matches source ss iri := by
  have hsubject : (namedDescription ss iri).subject = .iri iri := rfl
  rw [contribution, hsubject]
  simp only [types_namedDescription, List.contains_iff_mem, String.isEmpty_iff]
  by_cases hempty : localName iri = ""
  · rw [if_pos hempty]
    exact if_pos hempty
  rw [if_neg hempty, missing?, if_neg hempty]
  by_cases hclass : rdfs "Class" ∈ typesOf ss iri
  · rw [if_pos hclass]
    exact ⟨if_neg fun h => h.2 hclass, matches_class hclass⟩
  rw [if_neg hclass]
  by_cases hproperty : rdf "Property" ∈ typesOf ss iri
  · have hisProperty : IsProperty ss iri := ⟨hproperty, hclass⟩
    rw [if_pos hproperty, if_pos hisProperty]
    cases hp : propertyOf {} source (localName iri) (namedDescription ss iri) with
    | error e => exact propertyOf_eq_error_iff.1 hp
    | ok p =>
      refine ⟨?_, matches_property hisProperty hp⟩
      rw [Option.eq_none_iff_forall_ne_some]
      intro e he
      cases hp.symm.trans (propertyOf_eq_error_iff.2 he)
  have hnone : ¬ IsProperty ss iri := fun h => hproperty h.1
  rw [if_neg hproperty, if_neg hnone]
  by_cases hhead : owl "Ontology" ∈ typesOf ss iri
  · rw [if_pos hhead, textOf_namedDescription (by decide)]
    exact ⟨rfl, matches_head ⟨hhead, hclass, hproperty⟩ _⟩
  have hnohead : ¬ IsHead ss iri := fun h => hhead h.1
  rw [if_neg hhead]
  by_cases hcategory : cims "ClassCategory" ∈ typesOf ss iri
  · have hvalue : ¬ IsValue ss iri := fun h => h.1 (cims "ClassCategory") (by simp) hcategory
    rw [if_pos hcategory]
    exact ⟨rfl, matches_nothing hclass hproperty hnohead hvalue⟩
  rw [if_neg hcategory, valueOf?_namedDescription]
  cases hfind : (typesOf ss iri).find? (IsForeign ·) with
  | none =>
    have hvalue : ¬ IsValue ss iri := by
      rintro ⟨-, type, htype, hforeign⟩
      exact List.find?_eq_none.1 hfind type htype (decide_eq_true hforeign)
    exact ⟨rfl, matches_nothing hclass hproperty hnohead hvalue⟩
  | some type =>
    have hvalue : IsValue ss iri := by
      refine ⟨?_, type, List.mem_of_find?_eq_some hfind, ?_⟩
      · simp [hclass, hproperty, hhead, hcategory]
      · have hforeign := List.find?_some hfind
        exact of_decide_eq_true hforeign
    exact ⟨rfl, matches_value hvalue hfind⟩

theorem contribution_eq_error_iff {e : LoadError} :
    contribution {} source (namedDescription ss iri) = .error e ↔
      missing? source ss iri = some e := by
  have h := contribution_namedDescription source ss iri
  cases hc : contribution {} source (namedDescription ss iri) with
  | error f =>
    rw [hc] at h
    rw [h, Option.some_inj, Except.error.injEq]
  | ok c =>
    rw [hc] at h
    simp [h.1]

theorem exists_contribution_iff :
    (∃ c, contribution {} source (namedDescription ss iri) = .ok c) ↔
      missing? source ss iri = none := by
  rw [Option.eq_none_iff_forall_ne_some]
  simp only [ne_eq, ← contribution_eq_error_iff]
  cases contribution {} source (namedDescription ss iri) <;> simp

theorem matches_of_contribution {c : Contribution}
    (h : contribution {} source (namedDescription ss iri) = .ok c) : c.Matches source ss iri := by
  have hmatches := contribution_namedDescription source ss iri
  rw [h] at hmatches
  exact hmatches.2

/-! ### Documents -/

namespace Document

/-- The keyword of a file is that of its last head that gives one, and else that of the first
property `shortName` that does. -/
theorem keyword_foldl_add (added : List Contribution) (document : Document)
    (h : document.keyword = none) :
    (added.foldl add document).keyword =
      (added.reverse.findSome? (·.headKeyword?)).or (added.findSome? (·.shortName?)) := by
  induction added using List.reverseRecOn with
  | nil => exact h
  | append_singleton added c ih =>
    rw [List.foldl_append, List.foldl_cons, List.foldl_nil, List.reverse_append,
      List.reverse_singleton, List.singleton_append, findSome?_cons_eq_or, List.findSome?_append,
      findSome?_cons_eq_or, List.findSome?_nil, Option.or_none]
    cases c with
    | nothing => simp [add, ih, Contribution.headKeyword?, Contribution.shortName?]
    | header keyword version =>
      simp [add, ih, Contribution.headKeyword?, Contribution.shortName?, Option.or_assoc]
    | declaration d =>
      cases d <;>
        simp [add, ih, Contribution.headKeyword?, Contribution.shortName?, Option.or_assoc]

/-- **Roles.** The first named subject that lacks something stops the reading of a file. If none
does, each class, property and value of an enumeration is declared once, in the order in which the
subjects came first; the keyword is that of the last head that gives one, and else the fixed value
of the first property `shortName` that has one. -/
theorem ofStatements_classifies (source : String) (ss : List Statement) :
    match (namedSubjects ss).findSome? (missing? source ss) with
    | some e => ofStatements {} source ss = .error e
    | none =>
      ∃ document, ofStatements {} source ss = .ok document ∧
        List.Forall₂ (Declares source ss) ((namedSubjects ss).filter (IsDeclared ss ·))
          document.declarations ∧
        document.keyword =
          ((namedSubjects ss).reverse.findSome? (headKeyword? ss)).or
            ((namedSubjects ss).findSome? (shortName? ss)) := by
  rw [ofStatements_eq_named]
  cases hfirst : (namedSubjects ss).findSome? (missing? source ss) with
  | some e =>
    obtain ⟨before, iri, after, hnamed, hiri, hbefore⟩ := List.findSome?_eq_some_iff.1 hfirst
    have herror : ((namedSubjects ss).mapM fun iri =>
        contribution {} source (namedDescription ss iri)) = .error e :=
      mapM_eq_error_iff.2 ⟨before, iri, after, hnamed,
        fun other hother => exists_contribution_iff.2 (hbefore other hother),
        contribution_eq_error_iff.2 hiri⟩
    dsimp only
    rw [herror]
    rfl
  | none =>
    cases hmapM : (namedSubjects ss).mapM fun iri =>
        contribution {} source (namedDescription ss iri) with
    | error e =>
      obtain ⟨before, iri, after, hnamed, -, hiri⟩ := mapM_eq_error_iff.1 hmapM
      have hcomplete := List.findSome?_eq_none_iff.1 hfirst iri (by simp [hnamed])
      cases hcomplete.symm.trans (contribution_eq_error_iff.1 hiri)
    | ok added =>
      have hmatches := (mapM_eq_ok_iff.1 hmapM).imp fun _ _ h => matches_of_contribution h
      refine ⟨added.foldl add { source }, rfl, ?_, ?_⟩
      · rw [declarations_foldl_add, List.nil_append, ← List.filterMap_eq_filter]
        exact List.rel_filterMap (fun _ _ h => h.declaration) hmatches
      · rw [keyword_foldl_add added _ rfl,
          findSome?_eq_of_forall₂ (List.rel_reverse hmatches) fun _ _ h => h.headKeyword.symm,
          findSome?_eq_of_forall₂ hmatches fun _ _ h => h.shortName.symm]

end Document

end CimSchema
