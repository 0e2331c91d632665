import CimSchema.Proofs.Profile.Monotone

/-!
# Selecting from what a wider profile selected

What a profile selects can be selected in two steps: what a wider profile leaves of a model is
enough to select from. The second step looks at records that have lost members, bases and links
already. None of these counts for the narrower profile, which would have cut them as well.

## Main definitions

* `Profile.remnant` - what a profile leaves of a kept record.

## Main results

* `Profile.Within.keeps_prune_iff` - the records that are kept in the second step.
* `Profile.Within.get?_cut_prune` - what the second step makes of them, apart from their links.
* `Profile.prune_absorb` - a step with a wider profile changes nothing, and so does the same step
  twice.
-/

namespace CimSchema

/-- Whether a model has an association `name` in the class `owner`. -/
def Model.hasAssociation (m : Model) (owner name : String) : Bool :=
  ((m.get? owner).bind (·.association? name)).isSome

theorem Model.hasAssociation_iff {m : Model} {owner name : String} :
    m.hasAssociation owner name = true ↔
      ∃ d b, m.get? owner = some d ∧ d.association? name = some b := by
  rw [hasAssociation, Option.isSome_iff_exists]
  constructor
  · rintro ⟨b, hb⟩
    obtain ⟨d, hd, hb⟩ := Option.bind_eq_some_iff.1 hb
    exact ⟨d, b, hd, hb⟩
  · rintro ⟨d, b, hd, hb⟩
    exact ⟨b, Option.bind_eq_some_iff.2 ⟨d, hd, hb⟩⟩

theorem InverseLink.keptIn_resolved (m : Model) (owner name : String)
    (multiplicity : Multiplicity) :
    (resolved owner name multiplicity).keptIn m =
      if m.hasAssociation owner name then resolved owner name multiplicity else none :=
  rfl

/-- A link is checked once: to look for its end in a larger model first makes no difference. -/
theorem InverseLink.keptIn_keptIn {m n : Model} (link : InverseLink)
    (h : ∀ owner name, n.hasAssociation owner name = true → m.hasAssociation owner name = true) :
    (link.keptIn m).keptIn n = link.keptIn n := by
  cases link with
  | none | inconsistent name => rfl
  | resolved owner name multiplicity =>
    rw [keptIn_resolved, keptIn_resolved]
    by_cases hn : n.hasAssociation owner name = true
    · rw [if_pos (h owner name hn), if_pos hn, keptIn_resolved, if_pos hn]
    · rw [if_neg hn]
      split
      · rw [keptIn_resolved, if_neg hn]
      · rfl

/-- Only the associations that a model has count for its links. -/
theorem InverseLink.keptIn_congr {m n : Model} (link : InverseLink)
    (h : ∀ owner name, m.hasAssociation owner name = n.hasAssociation owner name) :
    link.keptIn m = link.keptIn n := by
  cases link with
  | none | inconsistent name => rfl
  | resolved owner name multiplicity => rw [keptIn_resolved, keptIn_resolved, h]

theorem ClassRecord.isSome_association?_clearInverses (c : ClassRecord) (m : Model)
    (name : String) :
    ((c.clearInverses m).association? name).isSome = (c.association? name).isSome := by
  rw [association?, clearInverses, List.find?_map, Option.isSome_map]
  rfl

/-- Clearing links leaves the associations. -/
theorem Model.hasAssociation_of_get?_eq {m n other : Model} {owner : String}
    (h : m.get? owner = (n.get? owner).map (·.clearInverses other)) (name : String) :
    m.hasAssociation owner name = n.hasAssociation owner name := by
  rw [hasAssociation, hasAssociation, h]
  cases n.get? owner with
  | none => rfl
  | some d => exact d.isSome_association?_clearInverses other name

namespace Profile

variable {p q : Profile} {m : Model} {c r : ClassRecord} {name : String}

theorem Within.refl (p : Profile) : p.Within p where
  includeAll h := h
  classes _ selection h := ⟨selection, h, fun _ hmember => hmember⟩
  origins _ h := h
  exclude _ h := h

/-- What a profile leaves of a kept record of the model `m`. -/
def remnant (q : Profile) (m : Model) (c : ClassRecord) : ClassRecord :=
  ((q.selectMembers c).cutEdges (q.gather m).keys).clearInverses (q.cut m)

theorem mem_keys_gather_iff (hm : m.names.Nodup) :
    name ∈ (p.gather m).keys ↔ ∃ c, p.Keeps m c ∧ c.name = name := by
  rw [NameMap.mem_keys_iff]
  constructor
  · rintro ⟨r, hr⟩
    obtain ⟨c, hc, hname, -⟩ := keeps_of_get?_gather hr
    exact ⟨c, hc, hname⟩
  · rintro ⟨c, hc, rfl⟩
    exact ⟨_, get?_gather_of_keeps hm hc⟩

/-! ### Records -/

/-- A narrower profile finds all the attributes that it selects. -/
theorem Within.attributes_remnant (h : p.Within q) (c : ClassRecord) :
    (p.selectMembers (q.remnant m c)).attributes = (p.selectMembers c).attributes := by
  have hfilter : (p.selectMembers (q.remnant m c)).attributes =
      (c.attributes.filter (q.keepsAttribute c)).filter (p.keepsAttribute c) := rfl
  rw [hfilter, List.filter_filter]
  refine List.filter_congr fun a _ => ?_
  by_cases hp : p.keepsAttribute c a = true
  · rw [hp, h.keepsAttribute hp, Bool.and_self]
  · rw [Bool.of_not_eq_true hp, Bool.false_and]

theorem Within.dependencies_remnant (h : p.Within q) (c : ClassRecord) :
    (p.selectMembers (q.remnant m c)).dependencies = (p.selectMembers c).dependencies := by
  rw [ClassRecord.dependencies, ClassRecord.dependencies, h.attributes_remnant]

/-- A record that a narrower profile keeps is left by the wider one, and nothing else is kept. -/
theorem Within.keeps_prune_iff (hm : m.names.Nodup) (h : p.Within q) :
    p.Keeps (q.prune m) r ↔ ∃ c, p.Keeps m c ∧ r = q.remnant m c := by
  constructor
  · intro hr
    induction hr with
    | selected hr hp =>
      obtain ⟨d, hd, -, -, rfl⟩ := exists_of_mem_prune hr
      exact ⟨d, .selected hd.mem_classes hp, rfl⟩
    | @needed r s name _ hname hs ih =>
      obtain ⟨c, hc, rfl⟩ := ih
      rw [h.dependencies_remnant] at hname
      -- The record that is needed is found in the model as it was.
      obtain ⟨d, hd, hdname, -, rfl⟩ := exists_of_get?_prune hs
      have hfound : m.get? name = some d := (Model.get?_eq_some_iff hm).2 ⟨hd.mem_classes, hdname⟩
      exact ⟨d, .needed hc hname hfound, rfl⟩
  · rintro ⟨c, hc, rfl⟩
    induction hc with
    | selected hc hp =>
      have hleft := get?_prune_of_keeps hm (.selected hc (h.includesClass hp))
      exact .selected (Model.mem_classes_of_get? hleft) hp
    | @needed c d name hc hname hd ih =>
      have hkept : q.Keeps m d := (Keeps.needed hc hname hd).mono h
      have hleft := get?_prune_of_keeps hm hkept
      rw [Model.name_of_get? hd] at hleft
      rw [← h.dependencies_remnant (m := m)] at hname
      exact .needed ih hname hleft

/-! ### The two steps -/

section Steps

variable (hm : m.names.Nodup) (h : p.Within q)
include hm h

theorem Within.keys_gather_prune : (p.gather (q.prune m)).keys = (p.gather m).keys := by
  refine NameSet.eq_of_increasing (NameMap.pairwise_keys _) (NameMap.pairwise_keys _) fun name => ?_
  rw [mem_keys_gather_iff (nodup_names_prune q m), mem_keys_gather_iff hm]
  constructor
  · rintro ⟨r, hr, rfl⟩
    obtain ⟨c, hc, rfl⟩ := (h.keeps_prune_iff hm).1 hr
    exact ⟨c, hc, rfl⟩
  · rintro ⟨c, hc, rfl⟩
    exact ⟨q.remnant m c, (h.keeps_prune_iff hm).2 ⟨c, hc, rfl⟩, rfl⟩

/-- A base that the narrower profile keeps was not cut before. -/
theorem Within.filter_base (base : Option String) :
    (base.filter (q.gather m).keys.contains).filter (p.gather m).keys.contains =
      base.filter (p.gather m).keys.contains := by
  rw [Option.filter_filter]
  congr 1
  funext name
  by_cases hp : (p.gather m).keys.contains name = true
  · have hq : (q.gather m).keys.contains name = true := by
      rw [List.contains_iff_mem] at hp ⊢
      exact h.mem_keys_gather hm hp
    rw [hp, hq, Bool.and_self]
  · rw [Bool.of_not_eq_true hp, Bool.and_false]

/-- An association that the narrower profile keeps was not dropped before. -/
theorem Within.filter_associations (c : ClassRecord) :
    ((((q.selectMembers c).cutEdges (q.gather m).keys).associations.filter
        fun a => p.keepsMember c a.name a.origins).filter
          fun a => (p.gather m).keys.contains a.target) =
      ((p.selectMembers c).cutEdges (p.gather m).keys).associations := by
  simp only [ClassRecord.cutEdges, selectMembers, List.filter_filter]
  refine List.filter_congr fun a _ => ?_
  by_cases hmember : p.keepsMember c a.name a.origins = true
  · by_cases htarget : (p.gather m).keys.contains a.target = true
    · have hq : (q.gather m).keys.contains a.target = true := by
        rw [List.contains_iff_mem] at htarget ⊢
        exact h.mem_keys_gather hm htarget
      rw [hmember, htarget, hq, h.keepsMember hmember]
      rfl
    · rw [Bool.of_not_eq_true htarget, Bool.false_and, Bool.false_and]
  · rw [Bool.of_not_eq_true hmember, Bool.false_and]

/-- A record that is cut in two steps differs from one that is cut at once in its links only. -/
theorem Within.cutEdges_remnant (c : ClassRecord) :
    (p.selectMembers (q.remnant m c)).cutEdges (p.gather m).keys =
      ((p.selectMembers c).cutEdges (p.gather m).keys).clearInverses (q.cut m) := by
  have hattributes : (p.selectMembers (q.remnant m c)).attributes =
      (p.selectMembers c).attributes :=
    h.attributes_remnant c
  have hassociations :
      ((p.selectMembers (q.remnant m c)).cutEdges (p.gather m).keys).associations =
      (((p.selectMembers c).cutEdges (p.gather m).keys).clearInverses (q.cut m)).associations := by
    -- What is checked of an association is not its link.
    have hmap := congrArg
      (List.map fun a : Association => { a with inverse := a.inverse.keptIn (q.cut m) })
      (h.filter_associations hm c)
    refine Eq.trans ?_ hmap
    rw [ClassRecord.cutEdges, selectMembers, remnant, ClassRecord.clearInverses]
    rw [List.filter_map, List.filter_map]
    rfl
  calc
    _ = { c with
          base := (c.base.filter (q.gather m).keys.contains).filter (p.gather m).keys.contains
          attributes := (p.selectMembers (q.remnant m c)).attributes
          associations :=
            ((p.selectMembers (q.remnant m c)).cutEdges (p.gather m).keys).associations } := rfl
    _ = _ := by
      rw [h.filter_base hm, hattributes, hassociations]
      rfl

theorem Within.get?_cut_prune (name : String) :
    (p.cut (q.prune m)).get? name = ((p.cut m).get? name).map (·.clearInverses (q.cut m)) := by
  rw [get?_cut, get?_cut, h.keys_gather_prune hm, Option.map_map]
  by_cases hname : name ∈ (p.gather m).keys
  · obtain ⟨c, hc, rfl⟩ := (mem_keys_gather_iff hm).1 hname
    have htwo : (p.gather (q.prune m)).get? c.name = some (p.selectMembers (q.remnant m c)) :=
      get?_gather_of_keeps (nodup_names_prune q m) ((h.keeps_prune_iff hm).2 ⟨c, hc, rfl⟩)
    rw [htwo, get?_gather_of_keeps hm hc, Option.map_some, Option.map_some]
    rw [Function.comp_apply, h.cutEdges_remnant hm]
  · have htwo : name ∉ (p.gather (q.prune m)).keys := by rwa [h.keys_gather_prune hm]
    rw [NameMap.get?_eq_none_iff.2 hname, NameMap.get?_eq_none_iff.2 htwo]
    rfl

theorem Within.hasAssociation_cut_prune (owner name : String) :
    (p.cut (q.prune m)).hasAssociation owner name = (p.cut m).hasAssociation owner name :=
  Model.hasAssociation_of_get?_eq (h.get?_cut_prune hm owner) name

theorem Within.hasAssociation_cut (owner name : String)
    (hp : (p.cut m).hasAssociation owner name = true) :
    (q.cut m).hasAssociation owner name = true := by
  obtain ⟨d, b, hd, hb⟩ := Model.hasAssociation_iff.1 hp
  exact Model.hasAssociation_iff.2 (h.exists_association_cut hm hd hb)

/-- Links that were cleared before would have been cleared in the second step. -/
theorem Within.clearInverses_clearInverses (c : ClassRecord) :
    (c.clearInverses (q.cut m)).clearInverses (p.cut (q.prune m)) = c.clearInverses (p.cut m) := by
  have hlink (link : InverseLink) :
      (link.keptIn (q.cut m)).keptIn (p.cut (q.prune m)) = link.keptIn (p.cut m) := by
    rw [InverseLink.keptIn_congr _ (h.hasAssociation_cut_prune hm)]
    exact link.keptIn_keptIn (h.hasAssociation_cut hm)
  simp only [ClassRecord.clearInverses, List.map_map, Function.comp_def, hlink]

/-- Selecting with a wider profile first makes no difference. -/
theorem Within.prune_prune : p.prune (q.prune m) = p.prune m := by
  refine Model.eq_of_get?_eq (nodup_names_prune p _) (nodup_names_prune p m) fun name => ?_
  rw [get?_prune, get?_prune, h.get?_cut_prune hm, Option.map_map]
  congr 1
  funext c
  exact h.clearInverses_clearInverses hm c

end Steps

/-- **Absorption.** Of a model without two classes of one name, a profile selects the same from what
a wider profile left as from the whole; and so it does from what it left itself. -/
theorem prune_absorb (hm : m.names.Nodup) (h : p.Within q) :
    p.prune (q.prune m) = p.prune m ∧ p.prune (p.prune m) = p.prune m :=
  ⟨h.prune_prune hm, (Within.refl p).prune_prune hm⟩

/-- A bay and its breakers, each of which leads to the other. -/
def bay : Model where
  classes := [
    { name := "Bay", kind := .regular
      associations := [
        { name := "Breakers", declaringClass := "Bay", target := "Breaker", multiplicity := .list
          inverse := .resolved "Breaker" "Bay" .single, used := true, documentation := none
          origins := [] }] },
    { name := "Breaker", base := some "Switch", kind := .regular
      associations := [
        { name := "Bay", declaringClass := "Breaker", target := "Bay", multiplicity := .single
          inverse := .resolved "Bay" "Breakers" .list, used := true, documentation := none
          origins := [] }] },
    { name := "Switch", kind := .regular }]
  sorted := by decide

/-- Breakers and their bays, neither with what breakers are nor with what bays lead to. -/
def bareBays : Profile :=
  { name := "bare bays", classes := .ofList [("Bay", .only .empty), ("Breaker", .all)] }

/-- Breakers and their bays with all that belongs to them. -/
def wholeBays : Profile :=
  { name := "bays", classes := .ofList [("Bay", .all), ("Breaker", .all), ("Switch", .all)] }

theorem bareBays_within : bareBays.Within wholeBays where
  includeAll := by decide
  classes name selection h := by
    have hkeys : ∀ name ∈ bareBays.classes.keys, wholeBays.classes.get? name = some .all := by
      decide
    exact ⟨.all, hkeys name (NameMap.mem_keys_iff.2 ⟨selection, h⟩), fun _ _ => rfl⟩
  origins := by decide
  exclude := by decide

theorem prune_absorb_bay :
    bay.names.Nodup ∧ bareBays.Within wholeBays ∧
      (bareBays.prune bay).names = ["Bay", "Breaker"] ∧
      ((bareBays.prune bay).get? "Breaker").map (fun c => (c.base, c.associations.map (·.inverse))) =
        some (none, [.none]) ∧
      bareBays.prune (wholeBays.prune bay) = bareBays.prune bay ∧
      bareBays.prune (bareBays.prune bay) = bareBays.prune bay := by
  have hm : bay.names.Nodup := by decide
  refine ⟨hm, bareBays_within, ?_, ?_, prune_absorb hm bareBays_within⟩
  · rw [names_prune]
    decide +kernel
  -- The base is not selected, and the end of the association that leads back is not either.
  · rw [get?_prune, get?_cut]
    simp only [ClassRecord.clearInverses, InverseLink.keptIn, get?_cut]
    decide +kernel

end Profile

end CimSchema
