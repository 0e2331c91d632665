import CimSchema.Merge.PropertyTable
import CimSchema.Proofs.FirstSeen

/-!
# What is merged of a member

## Main definitions

* `signedProperties` - the property declarations of some files, each with the keyword of its file.
* `memberKeys` - the members that they declare.
* `mergedProperty?` - what the declarations of a member say together.

## Main results

* `PropertyTable.keys_members`, `PropertyTable.get?_members` - what the table of some files holds.
* `MergedProperty.foldl_declare`, `mergedProperty?_eq` - a later declaration only fills in what is
  missing.
* `key_of_mergedProperty?` - what is merged keeps its class and its name.
-/

namespace CimSchema

/-- The property declarations of some files, each with the keyword of its file. -/
def signedProperties (documents : List Document) : List (Option String × PropertyDeclaration) :=
  documents.flatMap fun d => d.properties.map fun p => (d.keyword, p)

/-- The member that a property declares. -/
def PropertyDeclaration.key (p : PropertyDeclaration) : MemberKey :=
  (p.domain, p.name)

/-- The members that some files declare, in the order in which they came first. -/
def memberKeys (documents : List Document) : List MemberKey :=
  ((signedProperties documents).map (·.2.key)).eraseDups

/-- The declarations of a member, each with the keyword of its file. -/
def declarationsOf (documents : List Document) (key : MemberKey) :
    List (Option String × PropertyDeclaration) :=
  (signedProperties documents).filter (·.2.key = key)

/-- What the declarations of a member say together. -/
def mergedProperty? (documents : List Document) (key : MemberKey) : Option MergedProperty :=
  match declarationsOf documents key with
  | [] => none
  | (origin, d) :: later =>
    some (later.foldl (fun p e => p.declare e.1 e.2) { declaration := d, origins := origin.toList })

theorem mem_signedProperties_iff {documents : List Document}
    {e : Option String × PropertyDeclaration} :
    e ∈ signedProperties documents ↔ ∃ d ∈ documents, ∃ p ∈ d.properties, (d.keyword, p) = e := by
  rw [signedProperties, List.mem_flatMap]
  simp only [List.mem_map]

theorem key_mem_memberKeys {documents : List Document} {e : Option String × PropertyDeclaration}
    (h : e ∈ signedProperties documents) : e.2.key ∈ memberKeys documents :=
  List.mem_eraseDups.2 (List.mem_map.2 ⟨e, h, rfl⟩)

/-- Merging a declaration with itself changes nothing. -/
theorem MergedProperty.declare_self (origin : Option String) (d : PropertyDeclaration) :
    MergedProperty.declare { declaration := d } origin d =
      { declaration := d, origins := origin.toList } := by
  cases origin <;> simp [MergedProperty.declare, addNew]

/-- A later declaration only fills in what is missing. -/
theorem MergedProperty.foldl_declare (later : List (Option String × PropertyDeclaration))
    (p : MergedProperty) :
    later.foldl (fun p e => p.declare e.1 e.2) p =
      { declaration :=
          { p.declaration with
            comment := p.declaration.comment.or (later.findSome? (·.2.comment))
            fixed := p.declaration.fixed.or (later.findSome? (·.2.fixed))
            inverseRole := p.declaration.inverseRole.or (later.findSome? (·.2.inverseRole))
            associationUsed :=
              p.declaration.associationUsed.or (later.findSome? (·.2.associationUsed)) }
        origins := (later.filterMap (·.1)).foldl addNew p.origins } := by
  induction later generalizing p with
  | nil => simp
  | cons e later ih =>
    rw [List.foldl_cons, ih]
    cases horigin : e.1 <;> simp [declare, Option.or_assoc, findSome?_cons_eq_or, horigin]

/-- What the first declaration of a member says, with the first comment, fixed value, inverse and
use that any of them gives. -/
theorem mergedProperty?_eq (documents : List Document) (key : MemberKey) :
    mergedProperty? documents key =
      (declarationsOf documents key).head?.map fun e =>
        { declaration :=
            { e.2 with
              comment := (declarationsOf documents key).findSome? (·.2.comment)
              fixed := (declarationsOf documents key).findSome? (·.2.fixed)
              inverseRole := (declarationsOf documents key).findSome? (·.2.inverseRole)
              associationUsed := (declarationsOf documents key).findSome? (·.2.associationUsed) }
          origins := ((declarationsOf documents key).filterMap (·.1)).eraseDups } := by
  rw [mergedProperty?]
  cases declarationsOf documents key with
  | nil => rfl
  | cons e later =>
    obtain ⟨origin, d⟩ := e
    dsimp only
    rw [MergedProperty.foldl_declare, ← foldl_addNew]
    simp only [findSome?_cons_eq_or]
    cases origin <;> rfl

/-- The declarations of a member declare this member together. -/
theorem key_of_mergedProperty? {documents : List Document} {key : MemberKey} {p : MergedProperty}
    (h : mergedProperty? documents key = some p) : p.declaration.key = key := by
  rw [mergedProperty?_eq] at h
  obtain ⟨e, he, rfl⟩ := Option.map_eq_some_iff.1 h
  -- Neither the class nor the name is filled in.
  exact of_decide_eq_true (List.mem_filter.1 (List.mem_of_head? he)).2

/-- Only a member that is declared has something to be merged. -/
theorem mem_memberKeys_of_mergedProperty? {documents : List Document} {key : MemberKey}
    {p : MergedProperty} (h : mergedProperty? documents key = some p) :
    key ∈ memberKeys documents := by
  rw [mergedProperty?_eq] at h
  obtain ⟨e, he, -⟩ := Option.map_eq_some_iff.1 h
  obtain ⟨he, hkey⟩ := List.mem_filter.1 (List.mem_of_head? he)
  exact of_decide_eq_true hkey ▸ key_mem_memberKeys he

theorem exists_mergedProperty? {documents : List Document} {key : MemberKey}
    (h : key ∈ memberKeys documents) : ∃ p, mergedProperty? documents key = some p := by
  rw [memberKeys, List.mem_eraseDups, List.mem_map] at h
  obtain ⟨e, he, hkey⟩ := h
  have hmem : e ∈ declarationsOf documents key := List.mem_filter.2 ⟨he, decide_eq_true hkey⟩
  rw [mergedProperty?]
  cases hdeclared : declarationsOf documents key with
  | nil =>
    rw [hdeclared] at hmem
    cases hmem
  | cons => exact ⟨_, rfl⟩

namespace PropertyTable

theorem members_foldl_add (xs : List (Option String × PropertyDeclaration)) (t : PropertyTable) :
    (xs.foldl (fun t e => t.add e.1 e.2) t).members =
      xs.foldl (fun members e =>
        members.upsert e.2.key { declaration := e.2 } (·.declare e.1 e.2)) t.members := by
  induction xs generalizing t with
  | nil => rfl
  | cons e xs ih => exact ih (t.add e.1 e.2)

theorem ofDocuments_eq (documents : List Document) :
    ofDocuments documents = (signedProperties documents).foldl (fun t e => t.add e.1 e.2) {} := by
  rw [ofDocuments, signedProperties, List.foldl_flatMap]
  simp only [List.foldl_map]

theorem keys_members (documents : List Document) :
    (ofDocuments documents).members.keys = memberKeys documents := by
  rw [ofDocuments_eq, members_foldl_add, FirstSeen.keys_foldl_upsert, memberKeys, ← foldl_addNew]
  rfl

theorem get?_members (documents : List Document) (key : MemberKey) :
    (ofDocuments documents).members.get? key = mergedProperty? documents key := by
  rw [ofDocuments_eq, members_foldl_add, FirstSeen.get?_foldl_upsert, mergedProperty?]
  rw [declarationsOf]
  cases (signedProperties documents).filter (·.2.key = key) with
  | nil => rfl
  | cons e later =>
    -- The first declaration is merged into an entry that was made of itself.
    refine (FirstSeen.foldl_some (fun e => MergedProperty.mk e.2 [])
      (fun e (p : MergedProperty) => p.declare e.1 e.2) later _).trans ?_
    exact congrArg (fun p => some (later.foldl _ p)) (MergedProperty.declare_self e.1 e.2)

theorem get?_ofDocuments (documents : List Document) (domain name : String) :
    (ofDocuments documents).get? domain name = mergedProperty? documents (domain, name) :=
  get?_members documents (domain, name)

theorem keys_foldl_add (xs : List (Option String × PropertyDeclaration)) (t : PropertyTable) :
    (xs.foldl (fun t e => t.add e.1 e.2) t).keys =
      xs.foldl (fun keys e => keys.upsert e.2.id e.2.key id) t.keys := by
  induction xs generalizing t with
  | nil => rfl
  | cons e xs ih => exact ih (t.add e.1 e.2)

/-- The `id`s that stand for members, in the order in which they came first. -/
theorem keys_keys (documents : List Document) :
    (ofDocuments documents).keys.keys = ((signedProperties documents).map (·.2.id)).eraseDups := by
  rw [ofDocuments_eq, keys_foldl_add, FirstSeen.keys_foldl_upsert, ← foldl_addNew]
  rfl

/-- A property `id` stands for the member that was first declared with it. -/
theorem get?_keys (documents : List Document) (id : String) :
    (ofDocuments documents).keys.get? id =
      ((signedProperties documents).filter (·.2.id = id)).head?.map (·.2.key) := by
  rw [ofDocuments_eq, keys_foldl_add, FirstSeen.get?_foldl_upsert]
  cases (signedProperties documents).filter (·.2.id = id) with
  | nil => rfl
  | cons e later =>
    -- Later declarations with the `id` leave the member as it is.
    refine (FirstSeen.foldl_some (fun e => e.2.key) (fun _ key => key) later e.2.key).trans ?_
    rw [List.foldl_fixed]
    rfl

theorem byId?_ofDocuments (documents : List Document) (id : String) :
    (ofDocuments documents).byId? id =
      ((signedProperties documents).filter (·.2.id = id)).head?.bind fun e =>
        mergedProperty? documents e.2.key := by
  rw [byId?, get?_keys, Option.bind_map]
  congr 1
  funext e
  exact get?_members documents e.2.key

theorem nodup_keys_members (documents : List Document) :
    (ofDocuments documents).members.keys.Nodup := by
  rw [keys_members]
  exact nodup_eraseDups _

end PropertyTable

end CimSchema
