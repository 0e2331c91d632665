import CimSchema.Proofs.Profile.Absorb
import Mathlib.Order.Bounds.Defs

/-!
# A profile selects no more than it must

Which classes are needed can be said without a walk: the classes that are kept are the least set that
holds the selected classes and all that its attributes need. This module shows that a pruned model
has exactly these classes, and that of each record only what leads out of them is lost.

## Main definitions

* `Profile.WantsMember`, `Profile.WantsAttribute` - the members that a kept class keeps.
* `Profile.Saturated` - sets of names that lack no class.
* `ClassRecord.LeftOf`, `Association.LeftOf` - what is left of a record.
* `Profile.Selection` - the part of a model that a profile selects, apart from how it is found.
* `Model.Complete` - a model that has all that its edges name.

## Main results

* `Profile.saturated_names_prune`, `Profile.Saturated.mem_of_keeps` - the classes that are left
  lack none, and none of them can be spared.
* `Profile.leftOf_remnant` - what is left of a record.
* `Profile.prune_selection` - a pruned model is the selection of the profile, and the profile of the
  whole schema changes nothing in a complete model.
-/

namespace CimSchema

/-! ### What a selection is -/

/-- Whether a class that is kept keeps a member: it is not excluded, and the profile includes it
unless the class is a value type. -/
def Profile.WantsMember (p : Profile) (c : ClassRecord) (member : String) (origins : List String) :
    Prop :=
  c.name ++ "." ++ member ∉ p.exclude ∧
    (c.kind = .regular → p.includesMember c.name member origins = true)

instance (p : Profile) (c : ClassRecord) (member : String) (origins : List String) :
    Decidable (p.WantsMember c member origins) :=
  inferInstanceAs (Decidable (_ ∧ (c.kind = .regular → _)))

/-- Whether a class that is kept keeps an attribute: the member is kept, and no class that its type
needs is excluded. -/
def Profile.WantsAttribute (p : Profile) (c : ClassRecord) (a : Attribute) : Prop :=
  p.WantsMember c a.name a.origins ∧ ∀ name ∈ a.valueType.referencedClasses, name ∉ p.exclude

instance (p : Profile) (c : ClassRecord) (a : Attribute) : Decidable (p.WantsAttribute c a) :=
  inferInstanceAs (Decidable (_ ∧ ∀ name ∈ a.valueType.referencedClasses, _))

/-- A set of names that holds the classes that the profile selects and, with a class, those classes
of the model that the types of its kept attributes need. -/
structure Profile.Saturated (p : Profile) (m : Model) (names : Set String) : Prop where
  selected : ∀ c ∈ m.classes, p.includesClass c = true → c.name ∈ names
  needed : ∀ c ∈ m.classes, c.name ∈ names → ∀ a ∈ c.attributes, p.WantsAttribute c a →
    ∀ name ∈ a.valueType.referencedClasses, name ∈ m.names → name ∈ names

/-- `a` is the association `b` as the model `part` keeps it: without its link, if this is to an
association that `part` lacks. -/
structure Association.LeftOf (part : Model) (a b : Association) : Prop where
  same : { a with inverse := b.inverse } = b
  inverse_left : (∀ owner name multiplicity, b.inverse = .resolved owner name multiplicity →
    part.hasAssociation owner name = true) → a.inverse = b.inverse
  inverse_lost : ∀ owner name multiplicity, b.inverse = .resolved owner name multiplicity →
    part.hasAssociation owner name = false → a.inverse = .none

/-- `c` is the record `d` as the model `part` keeps it: without its base, if `part` lacks that, with
the members that the profile keeps, and of the associations only those whose target is kept. -/
structure ClassRecord.LeftOf (p : Profile) (part : Model) (c d : ClassRecord) : Prop where
  same : { c with base := d.base, attributes := d.attributes, associations := d.associations } = d
  base_iff : ∀ base, c.base = some base ↔ d.base = some base ∧ base ∈ part.names
  attributes : c.attributes = d.attributes.filter fun a => p.WantsAttribute d a
  associations : List.Forall₂ (Association.LeftOf part) c.associations
    (d.associations.filter fun a => p.WantsMember d a.name a.origins ∧ a.target ∈ part.names)

/-- `part` is what the profile selects of `m`: its classes are the least set of names that lacks
none, and each is its record in `m` without what leads out of `part`. -/
structure Profile.Selection (p : Profile) (m part : Model) : Prop where
  nodup_names : part.names.Nodup
  least : IsLeast {names | p.Saturated m names} {name | name ∈ part.names}
  left : ∀ c ∈ part.classes, ∃ d ∈ m.classes, c.name = d.name ∧ c.LeftOf p part d

/-- A model that has all bases, targets and ends of links that it names. -/
structure Model.Complete (m : Model) : Prop where
  base_mem : ∀ c ∈ m.classes, ∀ base, c.base = some base → base ∈ m.names
  target_mem : ∀ c ∈ m.classes, ∀ a ∈ c.associations, a.target ∈ m.names
  inverse_mem : ∀ c ∈ m.classes, ∀ a ∈ c.associations, ∀ owner name multiplicity,
    a.inverse = .resolved owner name multiplicity → m.hasAssociation owner name = true

namespace Profile

variable {p : Profile} {m : Model} {c : ClassRecord} {names : Set String}

theorem keepsMember_iff {member : String} {origins : List String} :
    p.keepsMember c member origins = true ↔ p.WantsMember c member origins := by
  constructor
  · intro h
    refine ⟨not_mem_exclude_of_keepsMember h, fun hkind => ?_⟩
    rwa [keepsMember, hkind] at h
  · rintro ⟨hexclude, hincludes⟩
    rw [keepsMember]
    split
    · rw [← excludesMember_iff] at hexclude
      simpa using hexclude
    · rename_i hkind
      exact hincludes (by simpa [ClassKind.isValueType] using hkind)

theorem keepsAttribute_iff {a : Attribute} : p.keepsAttribute c a = true ↔ p.WantsAttribute c a := by
  rw [keepsAttribute, Bool.and_eq_true, keepsMember_iff, List.all_eq_true, WantsAttribute]
  simp [← excludesClass_iff]

theorem mem_dependencies_selectMembers_iff {name : String} :
    name ∈ (p.selectMembers c).dependencies ↔
      ∃ a ∈ c.attributes, p.WantsAttribute c a ∧ name ∈ a.valueType.referencedClasses := by
  rw [mem_dependencies_iff]
  simp only [selectMembers, List.mem_filter, keepsAttribute_iff, and_assoc]

/-! ### The classes that are left -/

theorem mem_names_prune_iff (hm : m.names.Nodup) {name : String} :
    name ∈ (p.prune m).names ↔ ∃ c, p.Keeps m c ∧ c.name = name := by
  rw [names_prune, mem_keys_gather_iff hm]

/-- The classes that are left lack none. -/
theorem saturated_names_prune (hm : m.names.Nodup) (p : Profile) :
    p.Saturated m {name | name ∈ (p.prune m).names} where
  selected c hc h := (mem_names_prune_iff hm).2 ⟨c, .selected hc h, rfl⟩
  needed c hc hleft a ha hwants name hname hknown := by
    obtain ⟨d, hd, hdname⟩ := (mem_names_prune_iff hm).1 hleft
    obtain rfl := Model.eq_of_name_eq hm hd.mem_classes hc hdname
    obtain ⟨e, he⟩ := Model.mem_names_iff.1 hknown
    have hneeded : name ∈ (p.selectMembers d).dependencies :=
      mem_dependencies_selectMembers_iff.2 ⟨a, ha, hwants, hname⟩
    exact (mem_names_prune_iff hm).2 ⟨e, .needed hd hneeded he, Model.name_of_get? he⟩

/-- None of the classes that are kept can be spared. -/
theorem Saturated.mem_of_keeps (h : p.Saturated m names) (hc : p.Keeps m c) : c.name ∈ names := by
  -- On the way on which the class was come across: it starts at a selected class.
  induction hc with
  | selected hc hincludes => exact h.selected _ hc hincludes
  | @needed c d name hc hneeded hd ih =>
    obtain ⟨a, ha, hwants, hname⟩ := mem_dependencies_selectMembers_iff.1 hneeded
    rw [Model.name_of_get? hd]
    exact h.needed c hc.mem_classes ih a ha hwants name hname (Model.mem_names_of_get? hd)

theorem isLeast_names_prune (hm : m.names.Nodup) (p : Profile) :
    IsLeast {names | p.Saturated m names} {name | name ∈ (p.prune m).names} := by
  refine ⟨saturated_names_prune hm p, fun names hnames name hname => ?_⟩
  obtain ⟨c, hc, rfl⟩ := (mem_names_prune_iff hm).1 hname
  exact Saturated.mem_of_keeps hnames hc

/-! ### What is left of a record -/

/-- Links are checked before they are cleared, which makes no difference. -/
theorem hasAssociation_prune (p : Profile) (m : Model) (owner name : String) :
    (p.prune m).hasAssociation owner name = (p.cut m).hasAssociation owner name :=
  Model.hasAssociation_of_get?_eq (get?_prune p m owner) name

/-- An association that is left, and its link. -/
theorem leftOf_keptIn (p : Profile) (m : Model) (a : Association) :
    Association.LeftOf (p.prune m) { a with inverse := a.inverse.keptIn (p.cut m) } a where
  same := rfl
  inverse_left h := by
    cases hlink : a.inverse with
    | none | inconsistent name => rfl
    | resolved owner name multiplicity =>
      dsimp only
      rw [InverseLink.keptIn_resolved, ← hasAssociation_prune, if_pos (h _ _ _ hlink)]
  inverse_lost owner name multiplicity hlink h := by
    dsimp only
    rw [hlink, InverseLink.keptIn_resolved, ← hasAssociation_prune, h]
    rfl

/-- What a profile leaves of a kept record. -/
theorem leftOf_remnant (p : Profile) (m : Model) (c : ClassRecord) :
    (p.remnant m c).LeftOf p (p.prune m) c where
  same := rfl
  base_iff base := by
    rw [names_prune, ← List.contains_iff_mem]
    exact Option.filter_eq_some_iff
  attributes := by
    refine List.filter_congr fun a _ => ?_
    rw [Bool.eq_iff_iff, keepsAttribute_iff, decide_eq_true_iff]
  associations := by
    have hwanted : (c.associations.filter fun a =>
          p.keepsMember c a.name a.origins && decide (a.target ∈ (p.prune m).names)) =
        c.associations.filter fun a =>
          p.WantsMember c a.name a.origins ∧ a.target ∈ (p.prune m).names := by
      refine List.filter_congr fun a _ => ?_
      rw [Bool.eq_iff_iff, Bool.and_eq_true, keepsMember_iff, decide_eq_true_iff, decide_eq_true_iff]
    rw [remnant, ClassRecord.clearInverses, List.forall₂_map_left_iff, associations_cutEdges,
      hwanted]
    exact List.forall₂_same.2 fun a _ => leftOf_keptIn p m a

theorem selection_prune (hm : m.names.Nodup) (p : Profile) : p.Selection m (p.prune m) where
  nodup_names := p.nodup_names_prune m
  least := isLeast_names_prune hm p
  left c hc := by
    obtain ⟨d, hd, hname, -, rfl⟩ := exists_of_mem_prune hc
    exact ⟨d, hd.mem_classes, hname.symm, leftOf_remnant p m d⟩

/-! ### The whole schema -/

theorem wantsMember_all (c : ClassRecord) (member : String) (origins : List String) :
    all.WantsMember c member origins :=
  ⟨List.not_mem_nil, fun _ => rfl⟩

theorem selectMembers_all (c : ClassRecord) : all.selectMembers c = c := by
  have hattributes : c.attributes.filter (all.keepsAttribute c) = c.attributes :=
    List.filter_eq_self.2 fun a _ =>
      keepsAttribute_iff.2 ⟨wantsMember_all c a.name a.origins, fun _ _ => List.not_mem_nil⟩
  have hassociations :
      c.associations.filter (fun a => all.keepsMember c a.name a.origins) = c.associations :=
    List.filter_eq_self.2 fun a _ => keepsMember_iff.2 (wantsMember_all c a.name a.origins)
  rw [selectMembers, hattributes, hassociations]

/-- Where all that a record names is kept, nothing is cut. -/
theorem cutEdges_eq_self {keys : List String} (hbase : ∀ base, c.base = some base → base ∈ keys)
    (htarget : ∀ a ∈ c.associations, a.target ∈ keys) : c.cutEdges keys = c := by
  have hbases : c.base.filter keys.contains = c.base := by
    cases h : c.base with
    | none => rfl
    | some base => exact Option.filter_eq_some_iff.2 ⟨rfl, List.contains_iff_mem.2 (hbase base h)⟩
  have hassociations : c.associations.filter (fun a => keys.contains a.target) = c.associations :=
    List.filter_eq_self.2 fun a ha => List.contains_iff_mem.2 (htarget a ha)
  rw [ClassRecord.cutEdges, hbases, hassociations]

/-- Where a model has all ends of links, no link is cleared. -/
theorem clearInverses_eq_self (h : ∀ a ∈ c.associations, ∀ owner name multiplicity,
    a.inverse = .resolved owner name multiplicity → m.hasAssociation owner name = true) :
    c.clearInverses m = c := by
  have hlink (a : Association) (ha : a ∈ c.associations) :
      ({ a with inverse := a.inverse.keptIn m } : Association) = a := by
    have hkept : a.inverse.keptIn m = a.inverse := by
      cases hinverse : a.inverse with
      | none | inconsistent name => rfl
      | resolved owner name multiplicity =>
        rw [InverseLink.keptIn_resolved, if_pos (h a ha owner name multiplicity hinverse)]
    rw [hkept]
  rw [ClassRecord.clearInverses, List.map_congr_left hlink, List.map_id']

theorem keys_gather_all (m : Model) : ∀ c ∈ m.classes, c.name ∈ (all.gather m).keys :=
  fun _ hc => mem_keys_gather_of_selected hc rfl

theorem cut_all (hm : m.names.Nodup) (h : m.Complete) : all.cut m = m := by
  have hnodup : (all.cut m).names.Nodup := by
    rw [names_cut]
    exact (all.gather m).nodup_keys
  have hkeys {name : String} (hname : name ∈ m.names) : name ∈ (all.gather m).keys := by
    obtain ⟨c, hc, rfl⟩ := List.mem_map.1 hname
    exact keys_gather_all m c hc
  refine Model.eq_of_get?_eq hnodup hm fun name => ?_
  rw [get?_cut]
  by_cases hname : name ∈ m.names
  · obtain ⟨c, hc, rfl⟩ := List.mem_map.1 hname
    have hcut : c.cutEdges (all.gather m).keys = c :=
      cutEdges_eq_self (fun base hbase => hkeys (h.base_mem c hc base hbase))
        fun a ha => hkeys (h.target_mem c hc a ha)
    rw [get?_gather_of_keeps hm (.selected hc rfl), selectMembers_all, Option.map_some, hcut,
      (Model.get?_eq_some_iff hm).2 ⟨hc, rfl⟩]
  · have hlost : name ∉ (all.gather m).keys := by
      intro hkept
      obtain ⟨c, hc, rfl⟩ := (mem_keys_gather_iff hm).1 hkept
      exact hname (List.mem_map_of_mem hc.mem_classes)
    rw [NameMap.get?_eq_none_iff.2 hlost, Model.get?_eq_none_iff.2 hname, Option.map_none]

/-- The profile of the whole schema changes nothing in a complete model. -/
theorem prune_all (hm : m.names.Nodup) (h : m.Complete) : all.prune m = m := by
  refine Model.eq_of_get?_eq (all.nodup_names_prune m) hm fun name => ?_
  rw [get?_prune, cut_all hm h]
  cases hget : m.get? name with
  | none => rfl
  | some c =>
    rw [Option.map_some, clearInverses_eq_self (h.inverse_mem c (Model.mem_classes_of_get? hget))]

/-- **Least selection.** Of a model without two classes of one name, a profile leaves the least set
of classes that lacks none, and of these all that does not lead out of them. The profile of the
whole schema leaves a complete model as it is. -/
theorem prune_selection (hm : m.names.Nodup) (p : Profile) :
    p.Selection m (p.prune m) ∧ (m.Complete → all.prune m = m) :=
  ⟨selection_prune hm p, prune_all hm⟩

/-- A breaker in a bay. Where it stands is told by two structured values that need each other. -/
def bayPlan : Model where
  classes := [
    { name := "Bay", kind := .regular
      associations := [
        { name := "Breakers", declaringClass := "Bay", target := "Breaker", multiplicity := .list
          inverse := .resolved "Breaker" "Bay" .single, used := true, documentation := none
          origins := [] }] },
    { name := "Breaker", base := some "Switch", kind := .regular
      attributes := [
        { name := "place", declaringClass := "Breaker", valueType := .compound "Place"
          multiplicity := .single, documentation := none, default := none, origins := [] }]
      associations := [
        { name := "Bay", declaringClass := "Breaker", target := "Bay", multiplicity := .single
          inverse := .resolved "Bay" "Breakers" .list, used := true, documentation := none
          origins := [] }] },
    { name := "Distance", kind := .compound
      attributes := [
        { name := "start", declaringClass := "Distance", valueType := .compound "Place"
          multiplicity := .single, documentation := none, default := none, origins := [] }] },
    { name := "Place", kind := .compound
      attributes := [
        { name := "distance", declaringClass := "Place", valueType := .compound "Distance"
          multiplicity := .optional, documentation := none, default := none, origins := [] }] },
    { name := "Switch", kind := .regular }]
  sorted := by decide

theorem complete_bayPlan : bayPlan.Complete where
  base_mem := by simp [bayPlan, Model.names]
  target_mem := by decide
  inverse_mem := by
    intro c hc a ha owner name multiplicity hlink
    have hall : ∀ c ∈ bayPlan.classes, ∀ a ∈ c.associations, a.inverse.keptIn bayPlan = a.inverse := by
      decide
    have hkept := hall c hc a ha
    rw [hlink] at hkept
    exact Model.hasAssociation_iff.2 (InverseLink.keptIn_eq_resolved_iff.1 hkept).2

theorem prune_selection_bayPlan :
    bayPlan.names.Nodup ∧ bayPlan.Complete ∧
      (bareBays.prune bayPlan).names = ["Bay", "Breaker", "Distance", "Place"] ∧
      bareBays.Selection bayPlan (bareBays.prune bayPlan) ∧
      all.prune bayPlan = bayPlan := by
  have hm : bayPlan.names.Nodup := by decide
  refine ⟨hm, complete_bayPlan, ?_, (prune_selection hm bareBays).1,
    (prune_selection hm bareBays).2 complete_bayPlan⟩
  rw [names_prune]
  decide +kernel

end Profile

end CimSchema
