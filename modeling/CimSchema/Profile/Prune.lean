import CimSchema.Model.Basic
import CimSchema.Name.Unseen
import CimSchema.Profile.Basic

/-!
# The part of a model that a profile selects

Kept are the classes that the profile selects, with their selected members, and every class that
the type of a kept attribute needs, with all members that are not excluded. What then leads out of
the kept part is cut: a class whose base is not kept becomes a root, an association whose target is
not kept is dropped, and a link to an inverse end that is not kept is removed.

## Main definitions

* `Profile.selectMembers` - a class with the members that are kept.
* `Profile.gather` - the kept classes, before anything is cut.
* `Profile.prune` - the part of a model that a profile selects.
-/

namespace CimSchema

namespace Profile

/-- Whether a member of a kept class is kept. A value type keeps all that is not excluded. -/
def keepsMember (p : Profile) (c : ClassRecord) (member : String) (origins : List String) : Bool :=
  if c.kind.isValueType then !p.excludesMember c.name member
  else p.includesMember c.name member origins

/-- Whether an attribute is kept: the member is, and its type needs no excluded class. -/
def keepsAttribute (p : Profile) (c : ClassRecord) (a : Attribute) : Bool :=
  p.keepsMember c a.name a.origins
    && a.valueType.referencedClasses.all (fun name => !p.excludesClass name)

/-- A class with the members that are kept. -/
def selectMembers (p : Profile) (c : ClassRecord) : ClassRecord :=
  { c with
    attributes := c.attributes.filter (p.keepsAttribute c)
    associations := c.associations.filter fun a => p.keepsMember c a.name a.origins }

end Profile

/-- The classes that the types of a class's attributes need. -/
def ClassRecord.dependencies (c : ClassRecord) : List String :=
  c.attributes.flatMap (·.valueType.referencedClasses)

/-- The records of those `names` that the model has and that are not `queued`, each name once. -/
def Model.fresh (m : Model) (queued : List String) : List String → List ClassRecord
  | [] => []
  | name :: names =>
    if name ∈ queued then m.fresh queued names
    else
      match m.get? name with
      | none => m.fresh queued names
      | some c => c :: m.fresh (name :: queued) names

theorem Model.names_fresh {m : Model} {queued names : List String} {x : String}
    (h : x ∈ (m.fresh queued names).map (·.name)) : x ∈ m.names ∧ x ∉ queued := by
  fun_induction Model.fresh m queued names with
  | case1 => simp at h
  | case2 _ _ _ _ ih => exact ih h
  | case3 _ _ _ _ _ ih => exact ih h
  | case4 queued name names hq c hc ih =>
    rw [List.map_cons, List.mem_cons] at h
    rcases h with rfl | h
    · rw [name_of_get? hc]
      exact ⟨mem_names_of_get? hc, hq⟩
    · have := ih h
      exact ⟨this.1, fun hx => this.2 (by simp [hx])⟩

theorem Model.nodup_fresh (m : Model) (queued names : List String) :
    ((m.fresh queued names).map (·.name)).Nodup := by
  fun_induction Model.fresh m queued names with
  | case1 => simp
  | case2 _ _ _ _ ih => exact ih
  | case3 _ _ _ _ _ ih => exact ih
  | case4 queued name names hq c hc ih =>
    rw [List.map_cons, List.nodup_cons]
    refine ⟨fun h => (names_fresh h).2 ?_, ih⟩
    simp [name_of_get? hc]

namespace Profile

/-- Keeps the classes of `queue` and then those that their kept attributes need. The names in
`queued` are in the queue or were in it. -/
def gatherFrom (p : Profile) (m : Model) (kept : NameMap ClassRecord) (queued : List String) :
    List ClassRecord → NameMap ClassRecord
  | [] => kept
  | c :: queue =>
    let record := p.selectMembers c
    let fresh := m.fresh queued record.dependencies
    p.gatherFrom m (kept.insert record.name record) (fresh.map (·.name) ++ queued) (queue ++ fresh)
termination_by queue => unseen m.names queued + queue.length
decreasing_by
  have h := unseen_append_add_length_le
    (m.nodup_fresh queued (p.selectMembers c).dependencies)
    (fun _ h => (Model.names_fresh h).1) (fun _ h => (Model.names_fresh h).2)
  simp only [List.length_map, List.length_append, List.length_cons] at h ⊢
  omega

/-- The kept classes with their kept members. -/
def gather (p : Profile) (m : Model) : NameMap ClassRecord :=
  let selected := m.classes.filter p.includesClass
  p.gatherFrom m .empty (selected.map (·.name)) selected

end Profile

/-- A class without what leads out of the classes `kept`. -/
def ClassRecord.cutEdges (c : ClassRecord) (kept : List String) : ClassRecord :=
  { c with
    base := c.base.filter kept.contains
    associations := c.associations.filter fun a => kept.contains a.target }

/-- A link whose end the model still has; any other is removed. -/
def InverseLink.keptIn (m : Model) : InverseLink → InverseLink
  | resolved owner name multiplicity =>
    if ((m.get? owner).bind (·.association? name)).isSome then resolved owner name multiplicity
    else none
  | link => link

/-- A model without links to associations that it lacks. -/
def Model.clearInverses (m : Model) : Model :=
  .ofList (m.classes.map fun c =>
    { c with
      associations := c.associations.map fun a => { a with inverse := a.inverse.keptIn m } })

/-- The part of a model that a profile selects. -/
def Profile.prune (p : Profile) (m : Model) : Model :=
  let kept := p.gather m
  (Model.ofList (kept.values.map (·.cutEdges kept.keys))).clearInverses

end CimSchema
