import CimSchema.Proofs.Profile.Closed
import Mathlib.Data.List.Forall2

/-!
# Wider profiles keep more

Which classes a class needs depends on the profile, because only the types of kept attributes count.
Still, what is selected and what is not excluded can only grow with the profile, and so can all that
is found from there.

## Main definitions

* `Profile.Within` - one profile is at least as wide as another.
* `ClassRecord.PartOf`, `Model.PartOf` - one record, or one model, is a part of another.

## Main results

* `Profile.Keeps.mono` - a wider profile keeps the same records and more.
* `Profile.prune_mono` - a wider profile selects a larger part of a model.
-/

namespace CimSchema

/-- `q` is at least as wide as `p`. -/
structure Profile.Within (p q : Profile) : Prop where
  includeAll : p.includeAll = true → q.includeAll = true
  classes : ∀ name selection, p.classes.get? name = some selection →
    ∃ wider, q.classes.get? name = some wider ∧
      ∀ member, selection.includes member = true → wider.includes member = true
  origins : ∀ keyword ∈ p.origins, keyword ∈ q.origins
  exclude : ∀ identifier ∈ q.exclude, identifier ∈ p.exclude

/-- `a` and `b` are the same association, and an inverse end that `a` leads to is that of `b`. -/
structure Association.PartOf (a b : Association) : Prop where
  same : { a with inverse := b.inverse } = b
  inverse : ∀ owner name multiplicity, a.inverse = .resolved owner name multiplicity →
    b.inverse = .resolved owner name multiplicity

/-- `c` is `d` without some members, or without its base. -/
structure ClassRecord.PartOf (c d : ClassRecord) : Prop where
  same : { c with base := d.base, attributes := d.attributes, associations := d.associations } = d
  base : ∀ base, c.base = some base → d.base = some base
  attributes : c.attributes.Sublist d.attributes
  associations : List.SublistForall₂ Association.PartOf c.associations d.associations

/-- Each class of `m` is a part of a class of `n`. -/
def Model.PartOf (m n : Model) : Prop :=
  ∀ c ∈ m.classes, ∃ d ∈ n.classes, c.name = d.name ∧ c.PartOf d

/-- A link that stays where fewer associations are left stays where there are more. -/
theorem InverseLink.keptIn_mono {m n : Model} {link : InverseLink} {owner name : String}
    {multiplicity : Multiplicity}
    (h : ∀ d b, m.get? owner = some d → d.association? name = some b →
      ∃ e b', n.get? owner = some e ∧ e.association? name = some b')
    (hlink : link.keptIn m = .resolved owner name multiplicity) :
    link.keptIn n = .resolved owner name multiplicity := by
  obtain ⟨rfl, d, b, hd, hb⟩ := keptIn_eq_resolved_iff.1 hlink
  exact keptIn_eq_resolved_iff.2 ⟨rfl, h d b hd hb⟩

namespace Profile

variable {p q : Profile} {m : Model} {c : ClassRecord}

theorem Within.not_excludesClass (h : p.Within q) {name : String}
    (hp : (!p.excludesClass name) = true) : (!q.excludesClass name) = true := by
  rw [Bool.not_eq_true', Bool.eq_false_iff, Ne, excludesClass_iff] at hp ⊢
  exact fun hq => hp (h.exclude name hq)

theorem Within.not_excludesMember (h : p.Within q) {className member : String}
    (hp : (!p.excludesMember className member) = true) :
    (!q.excludesMember className member) = true := by
  rw [Bool.not_eq_true', Bool.eq_false_iff, Ne, excludesMember_iff] at hp ⊢
  exact fun hq => hp (h.exclude _ hq)

theorem Within.any_origins (h : p.Within q) {keywords : List String}
    (hp : keywords.any p.origins.contains = true) : keywords.any q.origins.contains = true := by
  obtain ⟨keyword, hk, ho⟩ := List.any_eq_true.1 hp
  refine List.any_eq_true.2 ⟨keyword, hk, decide_eq_true ?_⟩
  exact h.origins keyword (of_decide_eq_true ho)

theorem Within.includesClass (h : p.Within q) (hp : p.includesClass c = true) :
    q.includesClass c = true := by
  rw [Profile.includesClass, Bool.and_eq_true, Bool.or_eq_true, Bool.or_eq_true] at hp ⊢
  obtain ⟨hexclude, hp⟩ := hp
  refine ⟨h.not_excludesClass hexclude, ?_⟩
  rcases hp with (hall | hname) | horigin
  · exact .inl (.inl (h.includeAll hall))
  · obtain ⟨selection, hs⟩ := Option.isSome_iff_exists.1 hname
    obtain ⟨wider, hw, -⟩ := h.classes c.name selection hs
    exact .inl (.inr (Option.isSome_iff_exists.2 ⟨wider, hw⟩))
  · exact .inr (h.any_origins horigin)

theorem Within.includesMember (h : p.Within q) {className member : String} {origins : List String}
    (hp : p.includesMember className member origins = true) :
    q.includesMember className member origins = true := by
  rw [Profile.includesMember, Bool.and_eq_true, Bool.or_eq_true, Bool.or_eq_true] at hp ⊢
  obtain ⟨hexclude, hp⟩ := hp
  refine ⟨h.not_excludesMember hexclude, ?_⟩
  rcases hp with (hall | hname) | horigin
  · exact .inl (.inl (h.includeAll hall))
  · cases hs : p.classes.get? className with
    | none => simp [hs] at hname
    | some selection =>
      obtain ⟨wider, hw, hincludes⟩ := h.classes className selection hs
      rw [hs] at hname
      rw [hw]
      exact .inl (.inr (hincludes member hname))
  · exact .inr (h.any_origins horigin)

theorem Within.keepsMember (h : p.Within q) {member : String} {origins : List String}
    (hp : p.keepsMember c member origins = true) : q.keepsMember c member origins = true := by
  -- Both profiles look at the kind of the class first, and agree on it.
  rw [Profile.keepsMember] at hp ⊢
  split at hp
  · rw [if_pos ‹_›]
    exact h.not_excludesMember hp
  · rw [if_neg ‹_›]
    exact h.includesMember hp

theorem Within.keepsAttribute (h : p.Within q) {a : Attribute}
    (hp : p.keepsAttribute c a = true) : q.keepsAttribute c a = true := by
  rw [Profile.keepsAttribute, Bool.and_eq_true, List.all_eq_true] at hp ⊢
  exact ⟨h.keepsMember hp.1, fun name hname => h.not_excludesClass (hp.2 name hname)⟩

theorem Within.attributes_sublist (h : p.Within q) (c : ClassRecord) :
    (p.selectMembers c).attributes.Sublist (q.selectMembers c).attributes :=
  List.monotone_filter_right c.attributes fun _ => h.keepsAttribute

theorem Within.mem_dependencies (h : p.Within q) {name : String}
    (hp : name ∈ (p.selectMembers c).dependencies) : name ∈ (q.selectMembers c).dependencies := by
  obtain ⟨a, ha, hname⟩ := mem_dependencies_iff.1 hp
  exact mem_dependencies_iff.2 ⟨a, (h.attributes_sublist c).subset ha, hname⟩

/-- A wider profile keeps the same records and more. -/
theorem Keeps.mono (h : p.Within q) (hc : p.Keeps m c) : q.Keeps m c := by
  -- On the records that are kept: what leads to a record leads to it under both profiles.
  induction hc with
  | selected hc hp => exact .selected hc (h.includesClass hp)
  | needed _ hn hd ih => exact .needed ih (h.mem_dependencies hn) hd

section Gathered

variable (hm : m.names.Nodup) (h : p.Within q)
include hm h

theorem Within.mem_keys_gather {name : String} (hp : name ∈ (p.gather m).keys) :
    name ∈ (q.gather m).keys := by
  obtain ⟨r, hr⟩ := NameMap.mem_keys_iff.1 hp
  obtain ⟨c, hc, rfl, -⟩ := keeps_of_get?_gather hr
  exact NameMap.mem_keys_iff.2 ⟨_, get?_gather_of_keeps hm (hc.mono h)⟩

theorem Within.associations_sublist (c : ClassRecord) :
    ((p.selectMembers c).cutEdges (p.gather m).keys).associations.Sublist
      ((q.selectMembers c).cutEdges (q.gather m).keys).associations := by
  rw [ClassRecord.cutEdges, ClassRecord.cutEdges, selectMembers, selectMembers]
  rw [List.filter_filter, List.filter_filter]
  refine List.monotone_filter_right c.associations fun a ha => ?_
  rw [Bool.and_eq_true, List.contains_iff_mem] at ha ⊢
  exact ⟨h.mem_keys_gather hm ha.1, h.keepsMember ha.2⟩

/-- An association that is left under a profile is left under a wider one. -/
theorem Within.exists_association_cut {owner name : String} {d : ClassRecord} {b : Association}
    (hd : (p.cut m).get? owner = some d) (hb : d.association? name = some b) :
    ∃ e b', (q.cut m).get? owner = some e ∧ e.association? name = some b' := by
  rw [get?_cut, Option.map_eq_some_iff] at hd
  obtain ⟨r, hr, rfl⟩ := hd
  obtain ⟨c, hc, rfl, rfl⟩ := keeps_of_get?_gather hr
  have he : (q.cut m).get? c.name =
      some ((q.selectMembers c).cutEdges (q.gather m).keys) := by
    rw [get?_cut, get?_gather_of_keeps hm (hc.mono h), Option.map_some]
  -- The first association of this name may be another one under the wider profile.
  have hsome : (((q.selectMembers c).cutEdges (q.gather m).keys).association? name).isSome := by
    rw [ClassRecord.association?, List.find?_isSome]
    refine ⟨b, (h.associations_sublist hm c).subset (List.mem_of_find?_eq_some hb), ?_⟩
    simpa using List.find?_some hb
  obtain ⟨b', hb'⟩ := Option.isSome_iff_exists.1 hsome
  exact ⟨_, b', he, hb'⟩

theorem Within.partOf (c : ClassRecord) :
    (((p.selectMembers c).cutEdges (p.gather m).keys).clearInverses (p.cut m)).PartOf
      (((q.selectMembers c).cutEdges (q.gather m).keys).clearInverses (q.cut m)) where
  same := rfl
  base base hbase := by
    obtain ⟨hbase, hkept⟩ := Option.filter_eq_some_iff.1 hbase
    refine Option.filter_eq_some_iff.2 ⟨hbase, ?_⟩
    rw [List.contains_iff_mem] at hkept ⊢
    exact h.mem_keys_gather hm hkept
  attributes := h.attributes_sublist c
  associations := by
    rw [ClassRecord.clearInverses, ClassRecord.clearInverses]
    rw [List.sublistForall₂_map_left_iff, List.sublistForall₂_map_right_iff]
    -- The two sides differ only in what each profile makes of the same inverse.
    rw [List.sublistForall₂_iff]
    refine ⟨_, List.forall₂_same.2 fun a _ => ⟨rfl, fun owner name multiplicity hlink => ?_⟩,
      h.associations_sublist hm c⟩
    exact InverseLink.keptIn_mono (fun _ _ => h.exists_association_cut hm) hlink

end Gathered

/-- **Monotonicity.** Of a model without two classes of one name, a wider profile selects a larger
part. -/
theorem prune_mono (hm : m.names.Nodup) (h : p.Within q) : (p.prune m).PartOf (q.prune m) := by
  intro c hc
  -- Both parts hold what is left of the same record of the model.
  obtain ⟨d, hd, hname, -, rfl⟩ := exists_of_mem_prune hc
  have hq := get?_prune_of_keeps hm (hd.mono h)
  refine ⟨_, Model.mem_classes_of_get? hq, ?_, h.partOf hm d⟩
  rw [Model.name_of_get? hq, hname]

/-- Breakers, which are switches, with their bays and relays, each of which leads back. -/
def switchgear : Model where
  classes := [
    { name := "Bay", kind := .regular
      associations := [
        { name := "Breakers", declaringClass := "Bay", target := "Breaker", multiplicity := .list
          inverse := .resolved "Breaker" "Bay" .single, used := true, documentation := none
          origins := [] }] },
    { name := "Breaker", base := some "Switch", kind := .regular
      attributes := [
        { name := "normalOpen", declaringClass := "Breaker", valueType := .primitive "Boolean"
          multiplicity := .single, documentation := none, default := none, origins := [] },
        { name := "phase", declaringClass := "Breaker", valueType := .enumeration "Phase"
          multiplicity := .single, documentation := none, default := none, origins := [] }]
      associations := [
        { name := "Bay", declaringClass := "Breaker", target := "Bay", multiplicity := .single
          inverse := .resolved "Bay" "Breakers" .list, used := true, documentation := none
          origins := [] },
        { name := "Relay", declaringClass := "Breaker", target := "Relay", multiplicity := .optional
          inverse := .resolved "Relay" "Breaker" .single, used := true, documentation := none
          origins := [] }] },
    { name := "Phase", kind := .enumeration, enumValues := [⟨"A", none⟩, ⟨"B", none⟩] },
    { name := "Relay", kind := .regular
      associations := [
        { name := "Breaker", declaringClass := "Relay", target := "Breaker", multiplicity := .single
          inverse := .resolved "Breaker" "Relay" .optional, used := true, documentation := none
          origins := [] }] },
    { name := "Switch", kind := .regular }]
  sorted := by decide

/-- Bays, breakers without their phases, and relays without what leads back to breakers. -/
def bareBreakers : Profile :=
  { name := "bare breakers", classes := .ofList [("Bay", .all),
    ("Breaker", .only (.ofList ["Bay", "Relay", "normalOpen"])), ("Relay", .only .empty)] }

/-- Bays, breakers, relays and switches with all that belongs to them. -/
def wholeSwitchgear : Profile :=
  { name := "switchgear", classes := .ofList [("Bay", .all), ("Breaker", .all), ("Relay", .all),
    ("Switch", .all)] }

theorem bareBreakers_within : bareBreakers.Within wholeSwitchgear where
  includeAll := by decide
  classes name selection h := by
    have hkeys : ∀ name ∈ bareBreakers.classes.keys,
        wholeSwitchgear.classes.get? name = some .all := by
      decide
    exact ⟨.all, hkeys name (NameMap.mem_keys_iff.2 ⟨selection, h⟩), fun _ _ => rfl⟩
  origins := by decide
  exclude := by decide

/-- The narrower profile keeps the link to bays, which lead back in both parts, and neither the link
to relays nor the base. -/
theorem prune_bareBreakers_partOf :
    switchgear.names.Nodup ∧ bareBreakers.Within wholeSwitchgear ∧
      ((bareBreakers.prune switchgear).get? "Breaker").map (fun c =>
        (c.base, c.attributes.map (·.name), c.associations.map fun a => (a.name, a.inverse))) =
          some (none, ["normalOpen"],
            [("Bay", .resolved "Bay" "Breakers" .list), ("Relay", .none)]) ∧
      ((wholeSwitchgear.prune switchgear).get? "Breaker").map (fun c =>
        (c.base, c.attributes.map (·.name), c.associations.map fun a => (a.name, a.inverse))) =
          some (some "Switch", ["normalOpen", "phase"],
            [("Bay", .resolved "Bay" "Breakers" .list),
              ("Relay", .resolved "Relay" "Breaker" .single)]) ∧
      (bareBreakers.prune switchgear).PartOf (wholeSwitchgear.prune switchgear) := by
  have hm : switchgear.names.Nodup := by decide
  refine ⟨hm, bareBreakers_within, ?_, ?_, prune_mono hm bareBreakers_within⟩
  · rw [get?_prune, get?_cut]
    simp only [ClassRecord.clearInverses, InverseLink.keptIn, get?_cut]
    decide +kernel
  · rw [get?_prune, get?_cut]
    simp only [ClassRecord.clearInverses, InverseLink.keptIn, get?_cut]
    decide +kernel

end Profile

end CimSchema
