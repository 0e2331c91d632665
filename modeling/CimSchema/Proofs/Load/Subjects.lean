import CimSchema.Proofs.Load.Document

/-!
# What is stated of named subjects

Only named subjects add something to a document. What is known of them is stated here by the
statements alone: which of them there are, and which types and values they have, where a blank node
stands for the literal that it carries.

## Main definitions

* `Rdf.namedSubjects` - the named subjects, in the order in which they came first.
* `Rdf.firstText?` - the first object of a predicate that is no blank node.
* `Rdf.Term.inline` - an object, or the literal that it carries.
* `Rdf.typesOf`, `Rdf.value?` - the types and values of a named subject.
* `Rdf.namedDescription` - the description of a named subject.

## Main results

* `Rdf.Term.carry_eq_inline`, `Rdf.first?_namedDescription` - what descriptions say, read off the
  statements.
* `Document.ofStatements_eq_named` - a document is put together from its named subjects.
-/

namespace CimSchema

namespace Rdf

variable {ss : List Statement} {n : Node} {predicate : String}

/-! ### Subjects -/

/-- The IRI of a node that is named. -/
def Node.iri? : Node → Option String
  | iri text => some text
  | _ => none

theorem Node.iri?_eq_some_iff {text : String} : n.iri? = some text ↔ n = .iri text := by
  cases n <;> simp [iri?]

/-- The IRIs of the named subjects, in the order in which they came first. -/
def namedSubjects (ss : List Statement) : List String :=
  (ss.filterMap (·.subject.iri?)).eraseDups

theorem filterMap_subjects (ss : List Statement) :
    (subjects ss).filterMap (·.iri?) = namedSubjects ss := by
  rw [subjects, filterMap_eraseDups, List.filterMap_map, namedSubjects]
  · rfl
  · intro n n' text hn hn'
    rw [Node.iri?_eq_some_iff.1 hn, Node.iri?_eq_some_iff.1 hn']

/-! ### Values -/

/-- The text of the first object of a predicate that is no blank node. -/
def firstText? (ss : List Statement) (n : Node) (predicate : String) : Option String :=
  (ss.filter fun s => s.subject = n ∧ s.predicate = predicate).findSome? (·.object.text?)

/-- An object, where the first text that a blank node states as its literal stands in its place. -/
def Term.inline (ss : List Statement) : Term → Term
  | node n =>
    if n.isBlank then
      match firstText? ss n (rdfs "Literal") with
      | some text => literal text
      | none => node n
    else node n
  | literal text => literal text

/-- The types that a named subject is stated to have, in order. -/
def typesOf (ss : List Statement) (iri : String) : List String :=
  (ss.filter (·.subject = .iri iri)).filterMap (·.type?)

/-- The text of the first object of a predicate that is no blank node, or is one that carries a
literal. -/
def value? (ss : List Statement) (iri predicate : String) : Option String :=
  (ss.filter fun s => s.subject = .iri iri ∧ s.predicate = predicate).findSome?
    fun s => (s.object.inline ss).text?

/-- What is stated of a named subject. -/
def namedDescription (ss : List Statement) (iri : String) : Description :=
  (described ss (.iri iri)).carry (describe ss)

/-- What is found among the values of a description is found among the statements. Only a type is
no value. -/
theorem findSome?_described (hpredicate : predicate ≠ rdf "type") {α : Type}
    (g : Term → Option α) :
    ((described ss n).values.findSome? fun (p, x) => if p = predicate then g x else none) =
      (ss.filter fun s => s.subject = n ∧ s.predicate = predicate).findSome? (g ·.object) := by
  rw [described, ← List.head?_filterMap, ← List.head?_filterMap, List.filterMap_filterMap,
    List.filterMap_filter, List.filterMap_filter]
  congr 1
  refine List.filterMap_congr fun s _ => ?_
  by_cases hp : s.predicate = predicate
  · have htype : s.type? = none := by
      rw [Option.eq_none_iff_forall_ne_some]
      exact fun type h => hpredicate (hp ▸ (Statement.type?_eq_some_iff.1 h).1)
    simp [Statement.value?, htype, hp]
  · have hvalue : (s.value?.bind fun (p, x) => if p = predicate then g x else none) = none := by
      rw [Statement.value?]
      cases s.type? <;> simp [hp]
    simp [hvalue, hp]

theorem first?_described (hpredicate : predicate ≠ rdf "type") :
    (described ss n).first? predicate = firstText? ss n predicate :=
  findSome?_described hpredicate Term.text?

theorem carried?_describe (ss : List Statement) (n : Node) :
    carried? (describe ss) n = if n.isBlank then firstText? ss n (rdfs "Literal") else none := by
  rw [carried?]
  split
  · by_cases hn : n ∈ subjects ss
    · rw [get?_describe hn]
      exact first?_described (by decide)
    · -- Of a node that is no subject nothing is stated.
      have hnone : ss.filter (fun s => s.subject = n ∧ s.predicate = rdfs "Literal") = [] := by
        refine List.filter_eq_nil_iff.2 fun s hs h => hn ?_
        rw [subjects, List.mem_eraseDups]
        exact List.mem_map.2 ⟨s, hs, (of_decide_eq_true h).1⟩
      rw [FirstSeen.get?_eq_none_iff.2 (keys_describe ss ▸ hn), firstText?, hnone]
      rfl
  · rfl

theorem Term.carry_eq_inline (ss : List Statement) (x : Term) :
    x.carry (describe ss) = x.inline ss := by
  cases x with
  | literal text => rfl
  | node n =>
    rw [carry, inline, carried?_describe]
    cases n.isBlank <;> rfl

theorem namedDescription_eq (ss : List Statement) (iri : String) :
    namedDescription ss iri =
      { described ss (.iri iri) with
        values := (described ss (.iri iri)).values.map fun (p, x) => (p, x.inline ss) } := by
  rw [namedDescription, Description.carry]
  simp only [Term.carry_eq_inline]

theorem types_namedDescription (ss : List Statement) (iri : String) :
    (namedDescription ss iri).types = typesOf ss iri := rfl

theorem first?_namedDescription (hpredicate : predicate ≠ rdf "type") (iri : String) :
    (namedDescription ss iri).first? predicate = value? ss iri predicate := by
  rw [namedDescription_eq, Description.first?, List.findSome?_map]
  exact findSome?_described hpredicate fun x => (x.inline ss).text?

end Rdf

/-! ### Documents -/

open Rdf

variable {o : LoadOptions} {source : String}

/-- Results that are folded at the end may be folded one by one. -/
theorem map_foldl_mapM {ε α β γ : Type} (f : α → Except ε β) (g : γ → β → γ) (xs : List α) (c : γ) :
    (xs.mapM f).map (·.foldl g c) = xs.foldlM (fun c x => (f x).map (g c)) c := by
  induction xs generalizing c with
  | nil => rfl
  | cons x xs ih =>
    rw [List.mapM_cons, List.foldlM_cons]
    cases f x with
    | error e => rfl
    | ok b =>
      change _ = xs.foldlM _ (g c b)
      rw [← ih]
      cases xs.mapM f <;> rfl

theorem Document.ofStatements_eq (o : LoadOptions) (source : String) (ss : List Statement) :
    ofStatements o source ss =
      ((descriptions ss).mapM (contribution o source)).map (·.foldl add { source }) := by
  rw [ofStatements]
  cases (descriptions ss).mapM (contribution o source) <;> rfl

/-- A document is put together from what its named subjects add; blank nodes add nothing. -/
theorem Document.ofStatements_eq_named (o : LoadOptions) (source : String) (ss : List Statement) :
    ofStatements o source ss =
      ((namedSubjects ss).mapM fun iri => contribution o source (namedDescription ss iri)).map
        (·.foldl add { source }) := by
  rw [ofStatements_eq, map_foldl_mapM, map_foldl_mapM, descriptions_eq, List.foldlM_map,
    ← filterMap_subjects, List.foldlM_filterMap]
  congr 1
  funext document n
  cases n <;> rfl

end CimSchema
