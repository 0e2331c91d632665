import CimSchema.Profile.Prune
import CimSchema.Proofs.Model.Lookup

/-!
# What a profile keeps

The classes that a profile keeps are found by a walk: it starts at the selected classes and goes on
to the classes that the types of kept attributes need. The walk takes in nothing else, and it takes
in all of it.

## Main definitions

* `Profile.Keeps` - the records that are kept, apart from how they are found.
* `Profile.Walk` - what holds at each step of the walk.
* `Profile.cut` - the kept part of a model, before links to dropped ends are removed.

## Main results

* `Profile.keeps_of_get?_gather` - the walk takes in kept records only.
* `Profile.mem_keys_gather_of_selected`, `Profile.mem_keys_gather_of_needed` - it takes in what is
  selected and what is needed.
* `Profile.get?_gather_of_keeps` - where no name comes twice, it finds each kept record.
* `Profile.get?_prune`, `Profile.names_prune`, `Profile.classes_prune` - the pruned model.
-/

namespace CimSchema

/-- The records that are kept: those that the profile selects, and those that the types of the kept
attributes of a kept record need. -/
inductive Profile.Keeps (p : Profile) (m : Model) : ClassRecord → Prop where
  | selected {c : ClassRecord} (hc : c ∈ m.classes) (h : p.includesClass c = true) : p.Keeps m c
  | needed {c d : ClassRecord} {name : String} (hc : p.Keeps m c)
      (hn : name ∈ (p.selectMembers c).dependencies) (hd : m.get? name = some d) : p.Keeps m d

theorem Profile.Keeps.mem_classes {p : Profile} {m : Model} {c : ClassRecord} (h : p.Keeps m c) :
    c ∈ m.classes := by
  cases h with
  | selected hc _ => exact hc
  | needed _ _ hd => exact Model.mem_classes_of_get? hd

namespace Model

theorem exists_of_mem_fresh {m : Model} {queued names : List String} {c : ClassRecord}
    (h : c ∈ m.fresh queued names) : ∃ name ∈ names, m.get? name = some c := by
  fun_induction Model.fresh m queued names with
  | case1 => simp at h
  | case2 _ _ _ _ ih | case3 _ _ _ _ _ ih =>
    obtain ⟨name, hname, hc⟩ := ih h
    exact ⟨name, List.mem_cons_of_mem _ hname, hc⟩
  | case4 queued name names _ d hd ih =>
    rcases List.mem_cons.1 h with rfl | h
    · exact ⟨name, List.mem_cons_self, hd⟩
    · obtain ⟨other, hother, hc⟩ := ih h
      exact ⟨other, List.mem_cons_of_mem _ hother, hc⟩

theorem mem_fresh_or_queued {m : Model} {queued names : List String} {name : String}
    (hname : name ∈ names) (hm : name ∈ m.names) :
    name ∈ (m.fresh queued names).map (·.name) ++ queued := by
  -- A name in front is skipped because it is queued or unknown, or else it is queued now.
  rw [List.mem_append]
  fun_induction Model.fresh m queued names with
  | case1 => simp at hname
  | case2 queued first names hq ih =>
    rcases List.mem_cons.1 hname with rfl | hname
    · exact .inr hq
    · exact ih hname
  | case3 queued first names _ hnone ih =>
    rcases List.mem_cons.1 hname with rfl | hname
    · obtain ⟨c, hc⟩ := mem_names_iff.1 hm
      exact absurd (hnone.symm.trans hc) (by simp)
    · exact ih hname
  | case4 queued first names _ c hc ih =>
    rw [List.map_cons, name_of_get? hc, List.mem_cons]
    rcases List.mem_cons.1 hname with rfl | hname
    · exact .inl (.inl rfl)
    · rcases ih hname with h | h
      · exact .inl (.inr h)
      · rcases List.mem_cons.1 h with rfl | h
        · exact .inl (.inl rfl)
        · exact .inr h

end Model

namespace Profile

variable {p : Profile} {m : Model} {c r : ClassRecord} {name : String}

/-- What holds at each step of the walk over the kept classes. The classes in `queue` are still to
be visited; the names in `queued` are those that the walk has come across. -/
structure Walk (p : Profile) (m : Model) (kept : NameMap ClassRecord) (queued : List String)
    (queue : List ClassRecord) : Prop where
  kept_keeps : ∀ name r, kept.get? name = some r →
    ∃ c, p.Keeps m c ∧ c.name = name ∧ p.selectMembers c = r
  queue_keeps : ∀ c ∈ queue, p.Keeps m c
  /-- What the walk came across was visited or is still in the queue. -/
  come_across : ∀ name ∈ queued, name ∈ kept.keys ∨ name ∈ queue.map (·.name)
  /-- The walk came across all that a visited class needs. -/
  needed : ∀ name r, kept.get? name = some r →
    ∀ other ∈ r.dependencies, other ∈ m.names → other ∈ queued

theorem Walk.start (p : Profile) (m : Model) :
    p.Walk m .empty ((m.classes.filter p.includesClass).map (·.name))
      (m.classes.filter p.includesClass) where
  kept_keeps := by simp
  queue_keeps c hc := by
    obtain ⟨hc, h⟩ := List.mem_filter.1 hc
    exact .selected hc h
  come_across _ h := .inr h
  needed := by simp

/-- A visit to the first class of the queue. -/
theorem Walk.step {kept : NameMap ClassRecord} {queued : List String} {queue : List ClassRecord}
    (h : p.Walk m kept queued (c :: queue)) :
    p.Walk m (kept.insert c.name (p.selectMembers c))
      ((m.fresh queued (p.selectMembers c).dependencies).map (·.name) ++ queued)
      (queue ++ m.fresh queued (p.selectMembers c).dependencies) where
  kept_keeps name r hr := by
    -- Found is the class that was just visited, or one of an earlier visit.
    rw [NameMap.get?_insert] at hr
    split at hr
    · exact ⟨c, h.queue_keeps c List.mem_cons_self, (‹name = c.name›).symm, Option.some.inj hr⟩
    · exact h.kept_keeps name r hr
  queue_keeps d hd := by
    -- What is queued by this visit is needed by the class visited.
    rcases List.mem_append.1 hd with hd | hd
    · exact h.queue_keeps d (List.mem_cons_of_mem c hd)
    · obtain ⟨name, hname, hd⟩ := Model.exists_of_mem_fresh hd
      exact .needed (h.queue_keeps c List.mem_cons_self) hname hd
  come_across name hname := by
    -- The class visited leaves the queue, and has an entry instead.
    rw [NameMap.mem_keys_insert, List.map_append, List.mem_append]
    rcases List.mem_append.1 hname with hname | hname
    · exact .inr (.inr hname)
    · rcases h.come_across name hname with hkept | hqueue
      · exact .inl (.inr hkept)
      · rcases List.mem_cons.1 hqueue with rfl | hqueue
        · exact .inl (.inl rfl)
        · exact .inr (.inl hqueue)
  needed name r hr other hother hm := by
    rw [NameMap.get?_insert] at hr
    split at hr
    · obtain rfl := Option.some.inj hr
      exact Model.mem_fresh_or_queued hother hm
    · exact List.mem_append_right _ (h.needed name r hr other hother hm)

/-- A walk that goes on to its end, from any point. -/
theorem Walk.gatherFrom {kept : NameMap ClassRecord} {queued : List String}
    {queue : List ClassRecord} (h : p.Walk m kept queued queue) :
    ∃ queued', queued ⊆ queued' ∧ p.Walk m (p.gatherFrom m kept queued queue) queued' [] := by
  fun_induction Profile.gatherFrom p m kept queued queue with
  | case1 kept queued => exact ⟨queued, List.Subset.refl queued, h⟩
  | case2 kept queued c queue record fresh ih =>
    obtain ⟨queued', hsub, hend⟩ := ih h.step
    exact ⟨queued', List.Subset.trans (List.subset_append_right _ _) hsub, hend⟩

theorem exists_walk_gather (p : Profile) (m : Model) :
    ∃ queued, (m.classes.filter p.includesClass).map (·.name) ⊆ queued ∧
      p.Walk m (p.gather m) queued [] :=
  (Walk.start p m).gatherFrom

/-- The walk takes in kept records only. -/
theorem keeps_of_get?_gather (h : (p.gather m).get? name = some r) :
    ∃ c, p.Keeps m c ∧ c.name = name ∧ p.selectMembers c = r := by
  obtain ⟨_, _, hwalk⟩ := exists_walk_gather p m
  exact hwalk.kept_keeps name r h

theorem name_of_get?_gather (name : String) (r : ClassRecord)
    (h : (p.gather m).get? name = some r) : r.name = name := by
  obtain ⟨c, _, hname, rfl⟩ := keeps_of_get?_gather h
  exact hname

theorem mem_keys_gather_of_selected (hc : c ∈ m.classes) (h : p.includesClass c = true) :
    c.name ∈ (p.gather m).keys := by
  obtain ⟨_, hsub, hwalk⟩ := exists_walk_gather p m
  have hq := hsub (List.mem_map_of_mem (List.mem_filter.2 ⟨hc, h⟩))
  simpa using hwalk.come_across c.name hq

theorem mem_keys_gather_of_needed {other : String} (h : (p.gather m).get? name = some r)
    (hother : other ∈ r.dependencies) (hm : other ∈ m.names) : other ∈ (p.gather m).keys := by
  obtain ⟨_, _, hwalk⟩ := exists_walk_gather p m
  simpa using hwalk.come_across other (hwalk.needed name r h other hother hm)

theorem get?_gather_of_keeps (hm : m.names.Nodup) (h : p.Keeps m c) :
    (p.gather m).get? c.name = some (p.selectMembers c) := by
  -- Found under its name is a kept record, and no other record of the model has this name.
  have hkey : c.name ∈ (p.gather m).keys := by
    induction h with
    | selected hc h => exact mem_keys_gather_of_selected hc h
    | @needed c d name hc hn hd ih =>
      obtain ⟨r, hr⟩ := NameMap.mem_keys_iff.1 ih
      obtain ⟨c', hc', hname, rfl⟩ := keeps_of_get?_gather hr
      obtain rfl := Model.eq_of_name_eq hm hc'.mem_classes hc.mem_classes hname
      rw [Model.name_of_get? hd]
      exact mem_keys_gather_of_needed hr hn (Model.mem_names_iff.2 ⟨d, hd⟩)
  obtain ⟨r, hr⟩ := NameMap.mem_keys_iff.1 hkey
  obtain ⟨c', hc', hname, rfl⟩ := keeps_of_get?_gather hr
  rw [hr, Model.eq_of_name_eq hm hc'.mem_classes h.mem_classes hname]

end Profile

/-! ### The pruned model -/

/-- A record without links to associations that the model lacks. -/
def ClassRecord.clearInverses (c : ClassRecord) (m : Model) : ClassRecord :=
  { c with associations := c.associations.map fun a => { a with inverse := a.inverse.keptIn m } }

namespace Profile

variable {p : Profile} {m : Model} {c : ClassRecord} {name : String}

/-- The kept part of a model, before links to dropped ends are removed. -/
def cut (p : Profile) (m : Model) : Model :=
  .ofList ((p.gather m).values.map (·.cutEdges (p.gather m).keys))

theorem names_cut (p : Profile) (m : Model) : (p.cut m).names = (p.gather m).keys :=
  Model.names_ofList_values (f := (·.cutEdges (p.gather m).keys)) (fun _ => rfl) name_of_get?_gather

theorem get?_cut (p : Profile) (m : Model) (name : String) :
    (p.cut m).get? name = ((p.gather m).get? name).map (·.cutEdges (p.gather m).keys) :=
  Model.get?_ofList_values (f := (·.cutEdges (p.gather m).keys)) (fun _ => rfl)
    name_of_get?_gather name

theorem names_prune (p : Profile) (m : Model) : (p.prune m).names = (p.gather m).keys :=
  (Model.names_ofList_map (f := (·.clearInverses (p.cut m))) (fun _ => rfl) (p.cut m)).trans
    (p.names_cut m)

/-- The records of the pruned model, in the order of their names. -/
theorem classes_prune (p : Profile) (m : Model) :
    (p.prune m).classes = ((p.gather m).values.map (·.cutEdges (p.gather m).keys)).map
      (·.clearInverses (p.cut m)) := by
  have hcut : (p.cut m).classes = (p.gather m).values.map (·.cutEdges (p.gather m).keys) :=
    Model.classes_ofList_values (f := (·.cutEdges (p.gather m).keys)) (fun _ => rfl)
      name_of_get?_gather
  rw [← hcut]
  exact Model.classes_ofList_map (f := (·.clearInverses (p.cut m))) (fun _ => rfl) (p.cut m)

/-- Of the associations are left those that the profile keeps and whose target is left. -/
theorem associations_cutEdges (p : Profile) (m : Model) (c : ClassRecord) :
    ((p.selectMembers c).cutEdges (p.gather m).keys).associations =
      c.associations.filter fun a =>
        p.keepsMember c a.name a.origins && decide (a.target ∈ (p.prune m).names) := by
  rw [ClassRecord.cutEdges, selectMembers, List.filter_filter]
  refine List.filter_congr fun a _ => ?_
  rw [Bool.and_comm, names_prune, List.contains_eq_mem]

theorem get?_prune (p : Profile) (m : Model) (name : String) :
    (p.prune m).get? name = ((p.cut m).get? name).map (·.clearInverses (p.cut m)) :=
  Model.get?_ofList_map (f := (·.clearInverses (p.cut m))) (fun _ => rfl) (p.cut m) name

theorem nodup_names_prune (p : Profile) (m : Model) : (p.prune m).names.Nodup := by
  rw [names_prune]
  exact (p.gather m).nodup_keys

theorem get?_prune_of_keeps (hm : m.names.Nodup) (hc : p.Keeps m c) :
    (p.prune m).get? c.name =
      some (((p.selectMembers c).cutEdges (p.gather m).keys).clearInverses (p.cut m)) := by
  rw [get?_prune, get?_cut, get?_gather_of_keeps hm hc, Option.map_some, Option.map_some]

/-- A record of the pruned model is a kept record without what leads out of the kept part. -/
theorem exists_of_get?_prune (h : (p.prune m).get? name = some c) :
    ∃ d, p.Keeps m d ∧ d.name = name ∧ (p.gather m).get? name = some (p.selectMembers d) ∧
      c = ((p.selectMembers d).cutEdges (p.gather m).keys).clearInverses (p.cut m) := by
  rw [get?_prune, get?_cut, Option.map_map, Option.map_eq_some_iff] at h
  obtain ⟨r, hr, rfl⟩ := h
  obtain ⟨d, hd, hname, rfl⟩ := keeps_of_get?_gather hr
  exact ⟨d, hd, hname, hr, rfl⟩

end Profile

end CimSchema
