import CimSchema.Proofs.FirstSeen
import CimSchema.Rdf.Description

/-!
# What statements say of their subjects

Statements are taken in one after the other, and what each says of its subject is kept. In the end
the description of a subject holds exactly what the statements about it say, in their order.

## Main definitions

* `Term.IsIri` - an object that is an IRI.
* `Statement.type?`, `Statement.value?` - what a statement says of its subject.
* `subjects` - what is described.
* `described` - what is stated of one subject.

## Main results

* `descriptions_eq` - the descriptions in closed form.
* `exists_description` - a type that is stated is found in a description.
* `holds_of_first?` - what holds of all objects of a predicate holds of those that are found.
-/

namespace CimSchema.Rdf

variable {ss : List Statement} {n : Node} {d : Description}

/-- Whether an object is an IRI that has a property. -/
def Term.IsIri (holds : String → Prop) : Term → Prop
  | node (.iri iri) => holds iri
  | _ => False

instance (holds : String → Prop) [DecidablePred holds] : DecidablePred (Term.IsIri holds)
  | .node (.iri iri) => inferInstanceAs (Decidable (holds iri))
  | .node (.labelled _) | .node (.anonymous _) | .literal _ => inferInstanceAs (Decidable False)

/-- The type that a statement gives its subject. -/
def Statement.type? (s : Statement) : Option String :=
  match s.object with
  | .node (.iri type) => if s.predicate = rdf "type" then some type else none
  | _ => none

/-- The value that a statement gives its subject, if it gives no type. -/
def Statement.value? (s : Statement) : Option (String × Term) :=
  match s.type? with
  | some _ => none
  | none => some (s.predicate, s.object)

/-- The subjects of statements, in the order in which they came first. -/
def subjects (ss : List Statement) : List Node :=
  (ss.map (·.subject)).eraseDups

/-- What is stated of a subject, as it is stated. -/
def described (ss : List Statement) (n : Node) : Description where
  subject := n
  types := (ss.filter (·.subject = n)).filterMap (·.type?)
  values := (ss.filter (·.subject = n)).filterMap (·.value?)

/-- A description with the values in the place of the blank nodes that carry them. -/
def Description.carry (t : FirstSeen Node Description) (d : Description) : Description :=
  { d with values := d.values.map fun (p, object) => (p, object.carry t) }

theorem Statement.type?_eq_some_iff {s : Statement} {type : String} :
    s.type? = some type ↔ s.predicate = rdf "type" ∧ s.object = .node (.iri type) := by
  rw [type?]
  cases s.object with
  | literal text => simp
  | node n => cases n <;> simp

theorem Description.add_eq (d : Description) (s : Statement) :
    d.add s = { d with
      types := d.types ++ s.type?.toList
      values := d.values ++ s.value?.toList } := by
  rw [add, Statement.value?, Statement.type?]
  cases s.object with
  | literal text => simp
  | node n =>
    cases n with
    | labelled label => simp
    | anonymous number => simp
    | iri type => by_cases htype : s.predicate = rdf "type" <;> simp [htype]

theorem Description.foldl_add (ss : List Statement) (d : Description) :
    ss.foldl add d = { d with
      types := d.types ++ ss.filterMap (·.type?)
      values := d.values ++ ss.filterMap (·.value?) } := by
  induction ss generalizing d with
  | nil => simp
  | cons s ss ih =>
    rw [List.foldl_cons, ih, add_eq]
    cases htype : s.type? <;> cases hvalue : s.value? <;> simp [htype, hvalue]

/-! ### Descriptions in closed form -/

theorem keys_describe (ss : List Statement) : (describe ss).keys = subjects ss := by
  rw [describe, FirstSeen.keys_foldl_upsert, subjects, ← foldl_addNew]
  rfl

theorem get?_describe (hn : n ∈ subjects ss) : (describe ss).get? n = some (described ss n) := by
  have hne : ss.filter (·.subject = n) ≠ [] := by
    obtain ⟨s, hs, hsubject⟩ := List.mem_map.1 (List.mem_eraseDups.1 hn)
    exact List.ne_nil_of_mem (List.mem_filter.2 ⟨hs, decide_eq_true hsubject⟩)
  rw [describe, FirstSeen.get?_foldl_upsert]
  -- Whichever statement comes first, it opens the description of this subject.
  rw [List.foldl_ext _ (fun o s => some (Description.add (o.getD { subject := n }) s)) _
    fun o s hs => by rw [of_decide_eq_true (List.mem_filter.1 hs).2]]
  refine (FirstSeen.foldl_getD (fun s (d : Description) => d.add s) _ none { subject := n }).trans ?_
  rw [if_neg hne, Description.foldl_add]
  rfl

theorem values_describe (ss : List Statement) :
    (describe ss).values = (subjects ss).map (described ss) := by
  have hnodup : (describe ss).keys.Nodup := by
    rw [keys_describe]
    exact nodup_eraseDups _
  rw [← List.filterMap_some (l := (describe ss).values), FirstSeen.filterMap_values hnodup,
    keys_describe, ← List.filterMap_eq_map]
  refine List.filterMap_congr fun n hn => ?_
  rw [get?_describe hn]
  rfl

/-- The subjects in the order in which they came first, each with what is stated of it. -/
theorem descriptions_eq (ss : List Statement) :
    descriptions ss = (subjects ss).map fun n => (described ss n).carry (describe ss) := by
  rw [descriptions, values_describe, List.map_map]
  rfl

/-! ### Statements and descriptions -/

theorem mem_types_described {type : String} :
    type ∈ (described ss n).types ↔ ⟨n, rdf "type", .node (.iri type)⟩ ∈ ss := by
  rw [described, List.mem_filterMap]
  constructor
  · rintro ⟨⟨subject, predicate, object⟩, hs, htype⟩
    obtain ⟨hs, hsubject⟩ := List.mem_filter.1 hs
    obtain ⟨rfl, rfl⟩ := Statement.type?_eq_some_iff.1 htype
    rw [← of_decide_eq_true hsubject]
    exact hs
  · intro hs
    have habout : _ ∈ ss.filter (·.subject = n) := List.mem_filter.2 ⟨hs, decide_eq_true rfl⟩
    exact ⟨_, habout, Statement.type?_eq_some_iff.2 ⟨rfl, rfl⟩⟩

theorem mem_of_mem_values_described {predicate : String} {object : Term}
    (h : (predicate, object) ∈ (described ss n).values) : ⟨n, predicate, object⟩ ∈ ss := by
  rw [described] at h
  obtain ⟨s, hs, hvalue⟩ := List.mem_filterMap.1 h
  obtain ⟨hs, hsubject⟩ := List.mem_filter.1 hs
  rw [Statement.value?] at hvalue
  split at hvalue
  · cases hvalue
  · obtain ⟨rfl, rfl⟩ := Prod.mk.inj (Option.some.inj hvalue)
    rw [← of_decide_eq_true hsubject]
    exact hs

/-- A type that is stated of a subject is found in its description. -/
theorem exists_description {type : String} (h : ⟨n, rdf "type", .node (.iri type)⟩ ∈ ss) :
    ∃ d ∈ descriptions ss, d.subject = n ∧ type ∈ d.types := by
  have hn : n ∈ subjects ss := List.mem_eraseDups.2 (List.mem_map.2 ⟨_, h, rfl⟩)
  rw [descriptions_eq]
  exact ⟨_, List.mem_map_of_mem hn, rfl, mem_types_described.2 h⟩

/-- A description holds what is stated of its subject, or what a blank node carries for it. -/
theorem exists_statement (hd : d ∈ descriptions ss) {predicate : String} {object : Term}
    (h : (predicate, object) ∈ d.values) :
    ∃ stated, ⟨d.subject, predicate, stated⟩ ∈ ss ∧ object = stated.carry (describe ss) := by
  rw [descriptions_eq] at hd
  obtain ⟨n, -, rfl⟩ := List.mem_map.1 hd
  obtain ⟨⟨predicate', stated⟩, hstated, heq⟩ := List.mem_map.1 h
  obtain ⟨rfl, rfl⟩ := Prod.mk.inj heq
  exact ⟨stated, mem_of_mem_values_described hstated, rfl⟩

/-- Where all objects of a predicate are IRIs, what holds of them holds of the one that is found. -/
theorem holds_of_first? {holds : String → Prop} (hd : d ∈ descriptions ss) {predicate text : String}
    (hall : ∀ s ∈ ss, s.predicate = predicate → s.object.IsIri holds)
    (h : d.first? predicate = some text) : holds text := by
  obtain ⟨⟨predicate', object⟩, hvalue, hobject⟩ := List.exists_of_findSome?_eq_some h
  dsimp only at hobject
  split at hobject
  · rename_i hpredicate
    obtain ⟨stated, hstated, rfl⟩ := exists_statement hd hvalue
    have hiri : stated.IsIri holds := hall _ hstated hpredicate
    match stated with
    | .node (.iri iri) =>
      -- An IRI is no blank node, and stands for itself.
      obtain rfl : iri = text := Option.some.inj hobject
      exact hiri
    | .node (.labelled _) | .node (.anonymous _) | .literal _ => exact hiri.elim
  · cases hobject

end CimSchema.Rdf
