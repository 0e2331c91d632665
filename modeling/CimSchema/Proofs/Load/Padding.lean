import CimSchema.Load.Document
import CimSchema.Proofs.Error
import CimSchema.Proofs.Rdf.Description
import CimSchema.Proofs.Reorder
import CimSchema.Proofs.Text.Words

/-!
# Blanks around literals

Literals are read as texts or as names. A text is trimmed or cut into words, so that blanks at its
ends make no difference. A name is taken as it stands, blanks included. So two documents that differ
in the blanks around literals are read alike if the literals that are read as names are the same.

## Main definitions

* `Rdf.Statement.Pads` - one statement is another with blanks put around its literal.
* `Rdf.namingPredicates` - the predicates whose objects are read as names.
* `Rdf.PadsTexts` - statements are others with blanks put around literals that are read as texts.
* `Rdf.Description.Pads` - the same for what is stated of one subject.

## Main results

* `Rdf.descriptions_pads` - what is stated of each subject is padded in the same way.
* `contribution_eq_of_pads` - a subject adds the same to a document.
* `Document.ofStatements_eq_of_padsTexts` - the document or the error is the same.
* `Document.ofStatements_padWhere_naming` - a padded name gives another document.
-/

namespace CimSchema

namespace Rdf

variable {ss ss' : List Statement} {n : Node} {x x' : Term} {d d' : Description}
  {predicate : String}

/-! ### Padded statements -/

/-- One object is another with blanks put around its text, if it is a literal. -/
inductive Term.Pads : Term → Term → Prop
  | node (n : Node) : Pads (.node n) (.node n)
  | literal {s t : String} (h : Text.Pads s t) : Pads (.literal s) (.literal t)

/-- One statement is another with blanks put around its literal. -/
structure Statement.Pads (s s' : Statement) : Prop where
  subject : s'.subject = s.subject
  predicate : s'.predicate = s.predicate
  object : s.object.Pads s'.object

/-- The statements `ss'` are `ss` with blanks put around literals, those excepted whose subject and
predicate `exact` relates. -/
def PadsExcept (exact : Node → String → Prop) (ss ss' : List Statement) : Prop :=
  List.Forall₂ (fun s s' => s.Pads s' ∧ (exact s.subject s.predicate → s'.object = s.object)) ss ss'

/-- The predicates whose objects are read as names. -/
def namingPredicates : List String :=
  [rdfs "domain", rdfs "range", cims "dataType", rdfs "subClassOf", cims "belongsToCategory",
    cims "multiplicity", cims "inverseRoleName"]

/-- Whether what a predicate says of a node is read as a name: in itself, or because the node
carries the value for a predicate whose object is read as a name. -/
def GivesName (ss : List Statement) (n : Node) (predicate : String) : Prop :=
  predicate ∈ namingPredicates ∨
    predicate = rdfs "Literal" ∧ ∃ s ∈ ss, s.predicate ∈ namingPredicates ∧ s.object = .node n

instance (ss : List Statement) (n : Node) (predicate : String) :
    Decidable (GivesName ss n predicate) :=
  inferInstanceAs (Decidable (_ ∨ _ ∧ ∃ s ∈ ss, _ ∧ _))

/-- The statements `ss'` are `ss` with blanks put around literals that are read as texts. -/
abbrev PadsTexts (ss ss' : List Statement) : Prop :=
  PadsExcept (GivesName ss) ss ss'

theorem Term.Pads.refl (x : Term) : x.Pads x := by
  cases x with
  | node n => exact .node n
  | literal text => exact .literal (.refl text)

theorem Term.Pads.rel_text? (h : x.Pads x') {exact : Prop} (hexact : exact → x' = x) :
    Option.Rel (fun s t => Text.Pads s t ∧ (exact → t = s)) x.text? x'.text? := by
  cases h with
  | literal h => exact .some ⟨h, fun h => Term.literal.inj (hexact h)⟩
  | node n =>
    cases n with
    | iri text => exact .some ⟨.refl text, fun _ => rfl⟩
    | labelled label | anonymous number => exact .none

theorem Statement.Pads.type?_eq {s s' : Statement} (h : s.Pads s') : s'.type? = s.type? := by
  obtain ⟨subject, predicate, object⟩ := s
  obtain ⟨subject', predicate', object'⟩ := s'
  obtain rfl : predicate' = predicate := h.predicate
  cases h.object <;> rfl

/-! ### Padded descriptions -/

/-- The description `d'` is `d` with blanks put around literals, those of the predicates excepted of
which `exact` holds. -/
structure Description.Pads (exact : String → Prop) (d d' : Description) : Prop where
  subject : d'.subject = d.subject
  types : d'.types = d.types
  values : List.Forall₂ (fun v v' => v'.1 = v.1 ∧ v.2.Pads v'.2 ∧ (exact v.1 → v'.2 = v.2))
    d.values d'.values

section PadsExcept

variable {exact : Node → String → Prop} (h : PadsExcept exact ss ss')
include h

theorem PadsExcept.subjects_eq : subjects ss' = subjects ss := by
  have hsubjects : ss'.map (·.subject) = ss.map (·.subject) := by
    rw [← List.forall₂_eq_eq_eq, List.forall₂_map_left_iff, List.forall₂_map_right_iff]
    exact h.flip.imp fun _ _ hs => hs.1.subject
  rw [subjects, subjects, hsubjects]

theorem PadsExcept.about (n : Node) :
    List.Forall₂ (fun s s' => s.Pads s' ∧ (exact n s.predicate → s'.object = s.object))
      (ss.filter (·.subject = n)) (ss'.filter (·.subject = n)) := by
  induction h with
  | nil => exact .nil
  | @cons s s' rest rest' hs _ ih =>
    by_cases hn : s.subject = n
    · have hn' : s'.subject = n := hs.1.subject.trans hn
      rw [List.filter_cons_of_pos (by simpa using hn), List.filter_cons_of_pos (by simpa using hn')]
      exact .cons ⟨hs.1, hn ▸ hs.2⟩ ih
    · have hn' : s'.subject ≠ n := hs.1.subject ▸ hn
      rw [List.filter_cons_of_neg (by simpa using hn), List.filter_cons_of_neg (by simpa using hn')]
      exact ih

/-- What is stated of one subject is padded as the statements about it are. -/
theorem PadsExcept.described (n : Node) :
    (described ss n).Pads (exact n) (described ss' n) where
  subject := rfl
  types := filterMap_eq_of_forall₂ (h.about n).flip fun _ _ hs => hs.1.type?_eq
  values := by
    refine List.rel_filterMap (fun s s' hs => ?_) (h.about n)
    rw [Statement.value?, Statement.value?, hs.1.type?_eq]
    split
    · exact .none
    · exact .some ⟨hs.1.predicate, hs.1.object, hs.2⟩

end PadsExcept

section Description

variable {exact : String → Prop} (h : d.Pads exact d')
include h

/-- What is found for a predicate is padded, or the same if the predicate is excepted. -/
theorem Description.Pads.rel_first? (predicate : String) :
    Option.Rel (fun s t => Text.Pads s t ∧ (exact predicate → t = s)) (d.first? predicate)
      (d'.first? predicate) := by
  refine rel_findSome? h.values fun ⟨p, x⟩ ⟨p', x'⟩ hv => ?_
  obtain ⟨hp, hobject, hexact⟩ := hv
  dsimp only at hp hobject hexact ⊢
  rw [hp]
  split
  · rename_i hpredicate
    exact hobject.rel_text? (hpredicate ▸ hexact)
  · exact .none

theorem Description.Pads.first?_eq (hexact : exact predicate) :
    d'.first? predicate = d.first? predicate :=
  eq_of_rel (h.rel_first? predicate) fun _ _ hs => hs.2 hexact

end Description

section PadsExcept

variable {exact : Node → String → Prop} (h : PadsExcept exact ss ss')
include h

/-- What a node carries is padded, or the same if literals of the node are excepted. -/
theorem PadsExcept.rel_carried? (n : Node) :
    Option.Rel (fun s t => Text.Pads s t ∧ (exact n (rdfs "Literal") → t = s))
      (carried? (describe ss) n) (carried? (describe ss') n) := by
  rw [carried?, carried?]
  split
  · by_cases hn : n ∈ subjects ss
    · rw [get?_describe hn, get?_describe (h.subjects_eq ▸ hn)]
      exact (h.described n).rel_first? (rdfs "Literal")
    · -- Nothing is stated of this node.
      have hn' : n ∉ (describe ss').keys := by rwa [keys_describe, h.subjects_eq]
      rw [FirstSeen.get?_eq_none_iff.2 (keys_describe ss ▸ hn), FirstSeen.get?_eq_none_iff.2 hn']
      exact .none
  · exact .none

/-- A padded object, or the value that it carries, is read as a padded value. -/
theorem PadsExcept.carry (hx : x.Pads x') :
    (x.carry (describe ss)).Pads (x'.carry (describe ss')) := by
  cases hx with
  | literal htext => exact .literal htext
  | node n =>
    rw [Term.carry, Term.carry]
    have hcarried := h.rel_carried? n
    generalize carried? (describe ss) n = o at hcarried ⊢
    generalize carried? (describe ss') n = o' at hcarried ⊢
    cases hcarried with
    | none => exact .node n
    | some hs => exact .literal hs.1

end PadsExcept

/-- An object is read as the same value if it is the same and no value that it carries is padded. -/
theorem PadsTexts.carry_eq (h : PadsTexts ss ss') (hpredicate : predicate ∈ namingPredicates)
    (hx : ⟨n, predicate, x⟩ ∈ ss) : x.carry (describe ss') = x.carry (describe ss) := by
  cases x with
  | literal text => rfl
  | node n =>
    have hcarried : carried? (describe ss') n = carried? (describe ss) n :=
      eq_of_rel (h.rel_carried? n) fun _ _ hs => hs.2 (.inr ⟨rfl, _, hx, hpredicate, rfl⟩)
    rw [Term.carry, Term.carry, hcarried]

/-- What is stated of each subject is padded, but not what is read as a name. -/
theorem descriptions_pads (h : PadsTexts ss ss') :
    List.Forall₂ (Description.Pads (· ∈ namingPredicates)) (descriptions ss)
      (descriptions ss') := by
  rw [descriptions_eq, descriptions_eq, h.subjects_eq, List.forall₂_map_left_iff,
    List.forall₂_map_right_iff, List.forall₂_same]
  intro n _
  have hdescribed := h.described n
  refine ⟨rfl, hdescribed.types, ?_⟩
  obtain ⟨hlength, hvalues⟩ := List.forall₂_iff_zip.1 hdescribed.values
  rw [Description.carry, Description.carry, List.forall₂_map_left_iff, List.forall₂_map_right_iff]
  refine List.forall₂_iff_zip.2 ⟨hlength, fun {v v'} hv => ?_⟩
  obtain ⟨hpredicate, hobject, hexact⟩ := hvalues hv
  refine ⟨hpredicate, PadsExcept.carry h hobject, fun hnaming => ?_⟩
  dsimp only at hnaming ⊢
  rw [hexact (.inl hnaming)]
  exact h.carry_eq hnaming (mem_of_mem_values_described (List.of_mem_zip hv).1)

end Rdf

/-! ### Documents -/

open Rdf

section Contribution

variable {o : LoadOptions} {source id : String} {ss ss' : List Statement} {d d' : Description}
  {predicate : String} {exact : String → Prop}

theorem textOf_eq_of_pads (h : d.Pads exact d') (ho : o.normalizeWhitespace ∨ o.trimText)
    (predicate : String) : textOf o d' predicate = textOf o d predicate := by
  rw [textOf, textOf]
  congr 1
  refine (map_eq_of_rel (h.rel_first? predicate) fun s t hst => ?_).symm
  by_cases hnormalize : o.normalizeWhitespace
  · rw [if_pos hnormalize, if_pos hnormalize, hst.1.collapse_eq]
  · rw [if_neg hnormalize, if_neg hnormalize, if_pos (ho.resolve_left hnormalize),
      if_pos (ho.resolve_left hnormalize), hst.1.trim_eq]

theorem stereotypesOf_eq_of_pads (h : d.Pads exact d') : stereotypesOf d' = stereotypesOf d := by
  rw [stereotypesOf, stereotypesOf]
  congr 1
  refine (filterMap_eq_of_forall₂ h.values fun ⟨p, x⟩ ⟨p', x'⟩ hv => ?_).symm
  obtain ⟨rfl, hobject, -⟩ := hv
  cases hobject with
  | node n => rfl
  | literal hst =>
    dsimp only
    rw [hst.trim_eq]

theorem map_first?_eq_of_pads {α : Type} (h : d.Pads exact d') (predicate : String)
    {f : String → α} (hf : ∀ s t, Text.Pads s t → f t = f s) :
    (d'.first? predicate).map f = (d.first? predicate).map f :=
  (map_eq_of_rel (h.rel_first? predicate) fun s t hst => (hf s t hst.1).symm).symm

section Contribution

variable (h : d.Pads (· ∈ namingPredicates) d') (ho : o.normalizeWhitespace ∨ o.trimText)
include h ho

theorem classOf_eq_of_pads : classOf o id d' = classOf o id d := by
  rw [classOf, classOf]
  congr 1
  · exact textOf_eq_of_pads h ho _
  · exact textOf_eq_of_pads h ho _
  · exact congrArg (Option.map localName) (h.first?_eq (by decide))
  · exact stereotypesOf_eq_of_pads h
  · exact congrArg (Option.map localName) (h.first?_eq (by decide))

theorem propertyOf_eq_of_pads : propertyOf o source id d' = propertyOf o source id d := by
  have hfirst (p : String) (hp : p ∈ namingPredicates) : d'.first? p = d.first? p :=
    h.first?_eq hp
  have hlocal (p : String) (hp : p ∈ namingPredicates) : d'.firstLocal? p = d.firstLocal? p :=
    congrArg (Option.map localName) (hfirst p hp)
  have hused := map_first?_eq_of_pads h (cims "AssociationUsed")
    (f := fun s => Text.sameAscii (localName (Text.trim s)) "yes") fun s t hst => by
      rw [hst.trim_eq]
  have hfixed := map_first?_eq_of_pads h (cims "isFixed") (f := Text.trim)
    fun s t hst => hst.trim_eq
  rw [propertyOf, propertyOf, hlocal (rdfs "domain") (by decide), hfirst (rdfs "range") (by decide),
    hfirst (cims "dataType") (by decide), hlocal (cims "multiplicity") (by decide),
    hlocal (cims "inverseRoleName") (by decide), textOf_eq_of_pads h ho, textOf_eq_of_pads h ho,
    hused, hfixed, stereotypesOf_eq_of_pads h]

theorem valueOf?_eq_of_pads : valueOf? o id d' = valueOf? o id d := by
  rw [valueOf?, valueOf?, h.types, textOf_eq_of_pads h ho, textOf_eq_of_pads h ho]

/-- A subject adds the same to a document whatever blanks stand around its texts. -/
theorem contribution_eq_of_pads : contribution o source d' = contribution o source d := by
  have hversion : (d'.first? (owl "versionIRI") <|> d'.first? (owl "versionInfo")).map Text.trim =
      (d.first? (owl "versionIRI") <|> d.first? (owl "versionInfo")).map Text.trim := by
    rw [Option.orElse_eq_orElse, Option.orElse_eq_or, Option.orElse_eq_or,
      Option.map_or, Option.map_or, map_first?_eq_of_pads h _ fun s t hst => hst.trim_eq,
      map_first?_eq_of_pads h _ fun s t hst => hst.trim_eq]
  simp only [contribution, h.subject, h.types, classOf_eq_of_pads h ho,
    propertyOf_eq_of_pads h ho, valueOf?_eq_of_pads h ho, textOf_eq_of_pads h ho, hversion]

end Contribution

end Contribution

/-- **Padded texts.** Where texts are trimmed or cut into words, blanks around the literals that are
not read as names make no difference to the document that is read, or to the error. -/
theorem Document.ofStatements_eq_of_padsTexts {o : LoadOptions} {source : String}
    {ss ss' : List Statement} (h : PadsTexts ss ss') (ho : o.normalizeWhitespace ∨ o.trimText) :
    ofStatements o source ss' = ofStatements o source ss := by
  have hadded : (descriptions ss).mapM (contribution o source) =
      (descriptions ss').mapM (contribution o source) :=
    mapM_eq_of_forall₂ (descriptions_pads h) fun _ _ hd => (contribution_eq_of_pads hd ho).symm
  rw [ofStatements, ofStatements, hadded]

/-- The statements with blanks around the literals of the predicates of which `padded` holds. -/
def padWhere (padded : String → Bool) (ss : List Statement) : List Statement :=
  ss.map fun s =>
    match s.object with
    | .literal text =>
      if padded s.predicate then { s with object := .literal (" " ++ text ++ "\n") } else s
    | .node _ => s

theorem padsExcept_padWhere {exact : Node → String → Prop} {padded : String → Bool}
    {ss : List Statement} (h : ∀ s ∈ ss, exact s.subject s.predicate → padded s.predicate = false) :
    PadsExcept exact ss (padWhere padded ss) := by
  rw [PadsExcept, padWhere, List.forall₂_map_right_iff, List.forall₂_same]
  intro ⟨subject, predicate, object⟩ hs
  specialize h _ hs
  cases object with
  | node n => exact ⟨⟨rfl, rfl, .refl _⟩, fun _ => rfl⟩
  | literal text =>
    dsimp only at h ⊢
    cases hpadded : padded predicate with
    | false => exact ⟨⟨rfl, rfl, .refl _⟩, fun _ => rfl⟩
    | true =>
      have htext : Text.Pads text (" " ++ text ++ "\n") :=
        ⟨[' '], ['\n'], by simp, List.forall_mem_singleton.2 rfl, List.forall_mem_singleton.2 rfl⟩
      refine ⟨⟨rfl, rfl, .literal htext⟩, fun hexact => ?_⟩
      cases hpadded.symm.trans (h hexact)

/-- What is stated of a bay and its station, with a literal for each thing that is read. The fixed
value is carried by a blank node. -/
def bayStatements : List Statement :=
  let bay := Node.iri "http://iec.ch/TC57/CIM100#Bay"
  let station := Node.iri "http://iec.ch/TC57/CIM100#Bay.station"
  let fixed := Node.labelled "fixed"
  [⟨bay, rdf "type", .node (.iri (rdfs "Class"))⟩,
    ⟨bay, rdfs "subClassOf", .literal "Equipment"⟩,
    ⟨bay, cims "belongsToCategory", .literal "Core"⟩,
    ⟨bay, cims "stereotype", .literal "Entsoe"⟩,
    ⟨bay, rdfs "comment", .literal "a part of a station"⟩,
    ⟨station, rdf "type", .node (.iri (rdf "Property"))⟩,
    ⟨station, rdfs "domain", .literal "Bay"⟩,
    ⟨station, rdfs "range", .literal "Station"⟩,
    ⟨station, cims "dataType", .literal "String"⟩,
    ⟨station, cims "multiplicity", .literal "M:1..1"⟩,
    ⟨station, cims "inverseRoleName", .literal "Station.bays"⟩,
    ⟨station, cims "AssociationUsed", .literal "Yes"⟩,
    ⟨station, cims "isFixed", .node fixed⟩,
    ⟨fixed, rdfs "Literal", .literal "north"⟩]

theorem Document.ofStatements_padWhere_bay :
    PadsTexts bayStatements (padWhere (· ∉ namingPredicates) bayStatements) ∧
      padWhere (· ∉ namingPredicates) bayStatements ≠ bayStatements ∧
      (Document.ofStatements {} "bay.rdf" bayStatements).isOk = true ∧
      Document.ofStatements {} "bay.rdf" (padWhere (· ∉ namingPredicates) bayStatements) =
        Document.ofStatements {} "bay.rdf" bayStatements := by
  have hpads : PadsTexts bayStatements (padWhere (· ∉ namingPredicates) bayStatements) :=
    padsExcept_padWhere (by decide +kernel)
  exact ⟨hpads, by decide +kernel, by decide +kernel,
    Document.ofStatements_eq_of_padsTexts hpads (.inl rfl)⟩

/-- Blanks around the literal of any predicate that is read as a name make another document. -/
theorem Document.ofStatements_padWhere_naming :
    (∀ predicate ∈ namingPredicates,
      List.Forall₂ Statement.Pads bayStatements (padWhere (· = predicate) bayStatements)) ∧
      ¬ ∃ predicate ∈ namingPredicates,
        Document.ofStatements {} "bay.rdf" (padWhere (· = predicate) bayStatements) =
          Document.ofStatements {} "bay.rdf" bayStatements := by
  refine ⟨fun predicate _ => ?_, by decide +kernel⟩
  have hpads : PadsExcept (fun _ _ => False) bayStatements
      (padWhere (· = predicate) bayStatements) := padsExcept_padWhere fun _ _ h => h.elim
  exact List.Forall₂.imp (fun _ _ hs => hs.1) hpads

end CimSchema
