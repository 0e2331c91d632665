import CimSchema.Proofs.Load.Subjects

/-!
# Interleaved statements and carried literals

A file may break up what it states of a subject, and may put a literal on a blank node of its own,
before or after the node is used. None of this counts: a document depends on the order in which the
named subjects come first, and on what is stated of each subject in itself.

## Main definitions

* `Rdf.SameStatements` - the same is stated of each subject, in whatever order of the subjects.
* `Rdf.inlined` - statements with the carried literals in their places, and no blank nodes as
  subjects.

## Main results

* `Rdf.SameStatements.namedDescription_eq`, `Rdf.namedDescription_inlined` - the descriptions of
  named subjects stay the same.
* `Document.ofStatements_eq_of_sameStatements` - so do the document and the error.
-/

namespace CimSchema

namespace Rdf

variable {ss ss' : List Statement}

/-! ### Interleaved statements -/

/-- The same is stated of each subject, in the same order, and the named subjects come first in the
same order. -/
structure SameStatements (ss ss' : List Statement) : Prop where
  named : namedSubjects ss' = namedSubjects ss
  about : ∀ n, ss'.filter (·.subject = n) = ss.filter (·.subject = n)

/-- Of nodes that are no subjects nothing is stated in either list. -/
theorem sameStatements_iff :
    SameStatements ss ss' ↔ namedSubjects ss' = namedSubjects ss ∧
      ∀ n ∈ (ss ++ ss').map (·.subject),
        ss'.filter (·.subject = n) = ss.filter (·.subject = n) := by
  refine ⟨fun h => ⟨h.named, fun n _ => h.about n⟩, fun ⟨hnamed, habout⟩ => ⟨hnamed, fun n => ?_⟩⟩
  by_cases hn : n ∈ (ss ++ ss').map (·.subject)
  · exact habout n hn
  · have hnone (ts : List Statement) (hts : ts ⊆ ss ++ ss') : ts.filter (·.subject = n) = [] :=
      List.filter_eq_nil_iff.2 fun s hs hsubject =>
        hn (List.mem_map.2 ⟨s, hts hs, of_decide_eq_true hsubject⟩)
    rw [hnone ss (List.subset_append_left ss ss'), hnone ss' (List.subset_append_right ss ss')]

instance (ss ss' : List Statement) : Decidable (SameStatements ss ss') :=
  decidable_of_iff _ sameStatements_iff.symm

namespace SameStatements

variable (h : SameStatements ss ss')
include h

theorem firstText?_eq (n : Node) (predicate : String) :
    firstText? ss' n predicate = firstText? ss n predicate := by
  have hsplit (ts : List Statement) :
      ts.filter (fun s => s.subject = n ∧ s.predicate = predicate) =
        (ts.filter (·.subject = n)).filter (·.predicate = predicate) := by
    rw [List.filter_filter]
    simp only [Bool.decide_and, Bool.and_comm]
  rw [firstText?, firstText?, hsplit, hsplit, h.about]

theorem inline_eq (x : Term) : x.inline ss' = x.inline ss := by
  cases x with
  | literal text => rfl
  | node n => rw [Term.inline, Term.inline, h.firstText?_eq]

theorem namedDescription_eq (iri : String) :
    namedDescription ss' iri = namedDescription ss iri := by
  have hdescribed : described ss' (.iri iri) = described ss (.iri iri) := by
    rw [described, described, h.about]
  rw [Rdf.namedDescription_eq, Rdf.namedDescription_eq, hdescribed]
  simp only [h.inline_eq]

end SameStatements

/-! ### Carried literals -/

/-- The statements with literals in the place of the blank nodes that carry them, without those
about blank nodes. -/
def inlined (ss : List Statement) : List Statement :=
  (ss.map fun s => { s with object := s.object.inline ss }).filter (!·.subject.isBlank)

theorem namedSubjects_inlined (ss : List Statement) :
    namedSubjects (inlined ss) = namedSubjects ss := by
  rw [namedSubjects, inlined, List.filterMap_filter, List.filterMap_map, namedSubjects]
  congr 2
  funext s
  obtain ⟨subject, predicate, object⟩ := s
  cases subject <;> rfl

/-- What is stated of a named subject is kept, with the literals in their places. -/
theorem filter_inlined (ss : List Statement) (iri : String) :
    (inlined ss).filter (·.subject = .iri iri) =
      (ss.filter (·.subject = .iri iri)).map fun s => { s with object := s.object.inline ss } := by
  rw [inlined, List.filter_filter, List.filter_map]
  congr 2
  funext s
  obtain ⟨subject, predicate, object⟩ := s
  cases subject <;> simp [Node.isBlank]

theorem Statement.type?_inline (ss : List Statement) (s : Statement) :
    Statement.type? { s with object := s.object.inline ss } = s.type? := by
  obtain ⟨subject, predicate, object⟩ := s
  cases object with
  | literal text => rfl
  | node n =>
    cases n with
    | iri text => rfl
    | labelled label | anonymous number =>
      -- Neither a blank node nor a literal is a type.
      dsimp only [Term.inline]
      split
      · split <;> rfl
      · rfl

theorem Statement.value?_inline (ss : List Statement) (s : Statement) :
    Statement.value? { s with object := s.object.inline ss } =
      s.value?.map fun (p, x) => (p, x.inline ss) := by
  rw [value?, type?_inline, value?]
  cases s.type? <;> rfl

theorem described_inlined (ss : List Statement) (iri : String) :
    described (inlined ss) (.iri iri) =
      { described ss (.iri iri) with
        values := (described ss (.iri iri)).values.map fun (p, x) => (p, x.inline ss) } := by
  rw [described, filter_inlined, List.filterMap_map, List.filterMap_map, described]
  congr 1
  · exact List.filterMap_congr fun s _ => Statement.type?_inline ss s
  · rw [List.map_filterMap]
    exact List.filterMap_congr fun s _ => Statement.value?_inline ss s

/-- Without statements about blank nodes no blank node carries anything. -/
theorem Term.inline_inlined (ss : List Statement) (x : Term) : x.inline (inlined ss) = x := by
  cases x with
  | literal text => rfl
  | node n =>
    rw [inline]
    split
    · rename_i hblank
      have hnone : (inlined ss).filter (fun s => s.subject = n ∧ s.predicate = rdfs "Literal") =
          [] := by
        refine List.filter_eq_nil_iff.2 fun s hs h => ?_
        have hnamed := (List.mem_filter.1 hs).2
        rw [(of_decide_eq_true h).1, hblank] at hnamed
        cases hnamed
      rw [firstText?, hnone]
      rfl
    · rfl

theorem namedDescription_inlined (ss : List Statement) (iri : String) :
    namedDescription (inlined ss) iri = namedDescription ss iri := by
  rw [namedDescription_eq, described_inlined, namedDescription_eq]
  simp only [Term.inline_inlined, List.map_map]
  rfl

end Rdf

/-! ### Documents -/

open Rdf

variable {o : LoadOptions} {source : String} {ss ss' : List Statement}

/-- A document depends on the order of the named subjects and on what is stated of each. -/
theorem Document.ofStatements_congr (hnamed : namedSubjects ss' = namedSubjects ss)
    (hdescription : ∀ iri, namedDescription ss' iri = namedDescription ss iri) :
    ofStatements o source ss' = ofStatements o source ss := by
  rw [ofStatements_eq_named, ofStatements_eq_named, hnamed]
  simp only [hdescription]

/-- **Interleaving.** Where the named subjects come first in the same order and the same is stated
of each subject, the document or the error is the same. It stays the same where each literal that a
blank node carries stands in the place of the node, and nothing is stated of blank nodes. -/
theorem Document.ofStatements_eq_of_sameStatements (o : LoadOptions) (source : String)
    (ss : List Statement) :
    (∀ ss', SameStatements ss ss' → ofStatements o source ss' = ofStatements o source ss) ∧
      ofStatements o source (inlined ss) = ofStatements o source ss :=
  ⟨fun _ h => ofStatements_congr h.named h.namedDescription_eq,
    ofStatements_congr (namedSubjects_inlined ss) (namedDescription_inlined ss)⟩

/-- A feeder and its name, where the fixed value of the name is carried by a blank node. The comment
of the feeder and the blank node come last. -/
def feederStatements : List Statement :=
  let feeder := Node.iri "http://iec.ch/TC57/CIM100#Feeder"
  let name := Node.iri "http://iec.ch/TC57/CIM100#Feeder.name"
  let fixed := Node.anonymous 0
  [⟨feeder, rdf "type", .node (.iri (rdfs "Class"))⟩,
    ⟨name, rdf "type", .node (.iri (rdf "Property"))⟩,
    ⟨name, rdfs "domain", .node feeder⟩,
    ⟨name, cims "dataType", .node (.iri (xsdNamespace ++ "string"))⟩,
    ⟨name, cims "isFixed", .node fixed⟩,
    ⟨feeder, rdfs "comment", .literal "a part of a grid"⟩,
    ⟨fixed, rdfs "Literal", .node (.labelled "note")⟩,
    ⟨fixed, rdfs "Literal", .literal "north"⟩]

/-- The same statements, the blank node first and each subject in one place. -/
def groupedFeederStatements : List Statement :=
  [.anonymous 0, .iri "http://iec.ch/TC57/CIM100#Feeder",
    .iri "http://iec.ch/TC57/CIM100#Feeder.name"].flatMap fun n =>
      feederStatements.filter (·.subject = n)

theorem Document.ofStatements_groupedFeederStatements :
    SameStatements feederStatements groupedFeederStatements ∧
      groupedFeederStatements ≠ feederStatements ∧
      (inlined feederStatements).length = 6 ∧
      (Document.ofStatements {} "feeder.rdf" feederStatements).isOk = true ∧
      Document.ofStatements {} "feeder.rdf" groupedFeederStatements =
        Document.ofStatements {} "feeder.rdf" feederStatements ∧
      Document.ofStatements {} "feeder.rdf" (inlined feederStatements) =
        Document.ofStatements {} "feeder.rdf" feederStatements := by
  have hsame : SameStatements feederStatements groupedFeederStatements := by decide +kernel
  obtain ⟨hinterleaved, hinlined⟩ :=
    Document.ofStatements_eq_of_sameStatements {} "feeder.rdf" feederStatements
  exact ⟨hsame, by decide +kernel, by decide +kernel, by decide +kernel, hinterleaved _ hsame,
    hinlined⟩

end CimSchema
