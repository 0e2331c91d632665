import CimSchema.Proofs.Profile.Gather

/-!
# A pruned model is closed

Pruning works in several passes: members are selected, classes that their types need are taken in,
and what then leads out of the kept classes is cut. This module shows that the passes fit together:
a pruned model names no class that was dropped, and nothing in it is excluded.

## Main definitions

* `Profile.Closed` - a part of a model that refers only to what it holds and the profile allows.

## Main results

* `Profile.prune_closed` - the part of a model that a profile selects is closed.
-/

namespace CimSchema

/-- `part`, as a part of `m`, holds nothing that the profile excludes and refers to nothing that is
dropped. -/
structure Profile.Closed (p : Profile) (m part : Model) : Prop where
  class_allowed : ∀ c ∈ part.classes, c.name ∉ p.exclude
  attribute_allowed : ∀ c ∈ part.classes, ∀ a ∈ c.attributes, c.name ++ "." ++ a.name ∉ p.exclude
  association_allowed :
    ∀ c ∈ part.classes, ∀ a ∈ c.associations, c.name ++ "." ++ a.name ∉ p.exclude
  base_left : ∀ c ∈ part.classes, ∀ base, c.base = some base → base ∈ part.names
  target_left : ∀ c ∈ part.classes, ∀ a ∈ c.associations, a.target ∈ part.names
  type_allowed :
    ∀ c ∈ part.classes, ∀ a ∈ c.attributes, ∀ name ∈ a.valueType.referencedClasses,
      name ∉ p.exclude
  type_left :
    ∀ c ∈ part.classes, ∀ a ∈ c.attributes, ∀ name ∈ a.valueType.referencedClasses,
      name ∈ m.names → name ∈ part.names
  inverse_left :
    ∀ c ∈ part.classes, ∀ a ∈ c.associations, ∀ owner name multiplicity,
      a.inverse = .resolved owner name multiplicity →
        ∃ d ∈ part.classes, d.name = owner ∧ ∃ b ∈ d.associations, b.name = name

theorem InverseLink.keptIn_eq_resolved_iff {m : Model} {link : InverseLink} {owner name : String}
    {multiplicity : Multiplicity} :
    link.keptIn m = .resolved owner name multiplicity ↔
      link = .resolved owner name multiplicity ∧
        ∃ d b, m.get? owner = some d ∧ d.association? name = some b := by
  -- Only a resolved link is looked at, and it stays the same or goes.
  cases link with
  | none => simp [keptIn]
  | inconsistent other => simp [keptIn]
  | resolved owner' name' multiplicity' =>
    rw [keptIn]
    split
    · rename_i h
      obtain ⟨b, hbind⟩ := Option.isSome_iff_exists.1 h
      obtain ⟨d, hd, hb⟩ := Option.bind_eq_some_iff.1 hbind
      constructor
      · intro heq
        cases heq
        exact ⟨rfl, d, b, hd, hb⟩
      · exact And.left
    · rename_i h
      constructor
      · intro heq
        cases heq
      · rintro ⟨heq, d, b, hd, hb⟩
        cases heq
        exact absurd (by simp [hd, hb]) h

namespace Profile

variable {p : Profile} {m : Model} {c : ClassRecord}

theorem excludesClass_iff {name : String} : p.excludesClass name = true ↔ name ∈ p.exclude := by
  rw [excludesClass, NameSet.contains, decide_eq_true_iff]

theorem excludesMember_iff {className member : String} :
    p.excludesMember className member = true ↔ className ++ "." ++ member ∈ p.exclude := by
  rw [excludesMember, NameSet.contains, decide_eq_true_iff]

theorem not_mem_exclude_of_includesClass (h : p.includesClass c = true) : c.name ∉ p.exclude := by
  rw [includesClass, Bool.and_eq_true] at h
  simpa [← excludesClass_iff] using h.1

/-- A kept member is not excluded, in a class that is selected as in one that is only needed. -/
theorem not_mem_exclude_of_keepsMember {member : String} {origins : List String}
    (h : p.keepsMember c member origins = true) : c.name ++ "." ++ member ∉ p.exclude := by
  rw [← excludesMember_iff]
  rw [keepsMember] at h
  split at h
  · simpa using h
  · rw [includesMember, Bool.and_eq_true] at h
    simpa using h.1

theorem mem_dependencies_iff {name : String} :
    name ∈ c.dependencies ↔ ∃ a ∈ c.attributes, name ∈ a.valueType.referencedClasses := by
  rw [ClassRecord.dependencies, List.mem_flatMap]

theorem mem_attributes_selectMembers {a : Attribute} :
    a ∈ (p.selectMembers c).attributes ↔
      a ∈ c.attributes ∧ p.keepsMember c a.name a.origins = true ∧
        ∀ name ∈ a.valueType.referencedClasses, name ∉ p.exclude := by
  rw [selectMembers, List.mem_filter, keepsAttribute, Bool.and_eq_true, List.all_eq_true]
  simp [← excludesClass_iff]

/-- Not even a class that is only needed is excluded: a type that needs an excluded class takes its
attribute with it. -/
theorem Keeps.not_mem_exclude (h : p.Keeps m c) : c.name ∉ p.exclude := by
  cases h with
  | selected _ h => exact not_mem_exclude_of_includesClass h
  -- No profile is asked about a class that is needed; the attribute that needs it was asked.
  | @needed _ _ name _ hn hd =>
    obtain ⟨a, ha, hname⟩ := mem_dependencies_iff.1 hn
    rw [Model.name_of_get? hd]
    exact (mem_attributes_selectMembers.1 ha).2.2 name hname

/-- An association of a cut record is one that the profile selects and whose target is kept. -/
theorem mem_associations_cut {kept : Model} {keys : List String} {a : Association}
    (h : a ∈ (((p.selectMembers c).cutEdges keys).clearInverses kept).associations) :
    ∃ b ∈ c.associations, p.keepsMember c b.name b.origins = true ∧ b.target ∈ keys ∧
      a = { b with inverse := b.inverse.keptIn kept } := by
  obtain ⟨b, hb, rfl⟩ := List.mem_map.1 h
  obtain ⟨hb, htarget⟩ := List.mem_filter.1 hb
  obtain ⟨hb, hkeeps⟩ := List.mem_filter.1 hb
  exact ⟨b, hb, hkeeps, List.contains_iff_mem.1 htarget, rfl⟩

theorem exists_of_mem_prune (h : c ∈ (p.prune m).classes) :
    ∃ d, p.Keeps m d ∧ d.name = c.name ∧ (p.gather m).get? d.name = some (p.selectMembers d) ∧
      c = ((p.selectMembers d).cutEdges (p.gather m).keys).clearInverses (p.cut m) := by
  obtain ⟨d, hd, hname, hget, hc⟩ :=
    exists_of_get?_prune ((Model.get?_eq_some_iff (p.nodup_names_prune m)).2 ⟨h, rfl⟩)
  exact ⟨d, hd, hname, hname ▸ hget, hc⟩

/-- An association of the cut model is still there when dangling links are removed. -/
theorem exists_association_prune {d : ClassRecord} {b : Association} {owner name : String}
    (hd : (p.cut m).get? owner = some d) (hb : d.association? name = some b) :
    ∃ c ∈ (p.prune m).classes, c.name = owner ∧ ∃ a ∈ c.associations, a.name = name := by
  have hc : (p.prune m).get? owner = some (d.clearInverses (p.cut m)) := by
    rw [get?_prune, hd, Option.map_some]
  refine ⟨_, Model.mem_classes_of_get? hc, Model.name_of_get? hc, ?_⟩
  exact ⟨_, List.mem_map_of_mem (List.mem_of_find?_eq_some hb), by simpa using List.find?_some hb⟩

theorem base_mem_names_prune (hc : c ∈ (p.prune m).classes) {base : String}
    (h : c.base = some base) : base ∈ (p.prune m).names := by
  obtain ⟨d, -, -, -, rfl⟩ := exists_of_mem_prune hc
  rw [names_prune]
  exact List.contains_iff_mem.1 (Option.filter_eq_some_iff.1 h).2

theorem target_mem_names_prune (hc : c ∈ (p.prune m).classes) {a : Association}
    (ha : a ∈ c.associations) : a.target ∈ (p.prune m).names := by
  obtain ⟨d, -, -, -, rfl⟩ := exists_of_mem_prune hc
  obtain ⟨b, -, -, htarget, rfl⟩ := mem_associations_cut ha
  rw [names_prune]
  exact htarget

theorem type_mem_names_prune (hc : c ∈ (p.prune m).classes) {a : Attribute}
    (ha : a ∈ c.attributes) {name : String} (h : name ∈ a.valueType.referencedClasses)
    (hm : name ∈ m.names) : name ∈ (p.prune m).names := by
  obtain ⟨d, -, -, hget, rfl⟩ := exists_of_mem_prune hc
  rw [names_prune]
  exact mem_keys_gather_of_needed hget (mem_dependencies_iff.2 ⟨a, ha, h⟩) hm

/-- **Closedness.** The part of a model that a profile selects holds nothing that the profile
excludes and refers to nothing that is dropped. -/
theorem prune_closed (p : Profile) (m : Model) : p.Closed m (p.prune m) where
  class_allowed c hc := by
    obtain ⟨d, hd, hname, -, -⟩ := exists_of_mem_prune hc
    exact hname ▸ hd.not_mem_exclude
  attribute_allowed c hc a ha := by
    obtain ⟨d, -, -, -, rfl⟩ := exists_of_mem_prune hc
    exact not_mem_exclude_of_keepsMember (mem_attributes_selectMembers.1 ha).2.1
  association_allowed c hc a ha := by
    obtain ⟨d, -, -, -, rfl⟩ := exists_of_mem_prune hc
    obtain ⟨b, -, hkeeps, -, rfl⟩ := mem_associations_cut ha
    exact not_mem_exclude_of_keepsMember hkeeps
  base_left c hc base hbase := base_mem_names_prune hc hbase
  target_left c hc a ha := target_mem_names_prune hc ha
  type_allowed c hc a ha := by
    obtain ⟨d, -, -, -, rfl⟩ := exists_of_mem_prune hc
    exact (mem_attributes_selectMembers.1 ha).2.2
  type_left c hc a ha name hname hm := type_mem_names_prune hc ha hname hm
  inverse_left c hc a ha owner name multiplicity hlink := by
    -- The links were checked against the cut model, whose associations all stay.
    obtain ⟨d, -, -, -, rfl⟩ := exists_of_mem_prune hc
    obtain ⟨b, -, -, -, rfl⟩ := mem_associations_cut ha
    obtain ⟨-, e, b', he, hb'⟩ := InverseLink.keptIn_eq_resolved_iff.1 hlink
    exact exists_association_prune he hb'

end Profile

end CimSchema
