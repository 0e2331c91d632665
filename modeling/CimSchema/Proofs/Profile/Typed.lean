import CimSchema.Proofs.Profile.Closed
import CimSchema.Proofs.Resolve.Typed

/-!
# Types in a pruned model

Pruning keeps the classes that the types of kept attributes and the targets of kept associations
name, and keeps their shapes.

## Main results

* `Model.Typed.prune` - pruning a typed model leaves a typed model.
-/

namespace CimSchema

variable {p : Profile} {m : Model}

theorem ValueType.typeName_mem_referencedClasses (type : ValueType) :
    type.typeName ∈ type.referencedClasses := by
  cases type with
  | datatype measured => exact List.mem_cons_self
  | primitive | enumeration | compound => exact List.mem_singleton_self _

/-- A class that is left has the shape that it had. -/
theorem Profile.exists_mem_prune_of_mem (hm : m.names.Nodup) {d : ClassRecord}
    (hd : d ∈ m.classes) (h : d.name ∈ (p.prune m).names) :
    ∃ e ∈ (p.prune m).classes, e.name = d.name ∧ e.kind = d.kind := by
  obtain ⟨e, he, hname⟩ := List.mem_map.1 h
  refine ⟨e, he, hname, ?_⟩
  obtain ⟨b, hb, hbname, -, rfl⟩ := exists_of_mem_prune he
  obtain rfl := Model.eq_of_name_eq hm hb.mem_classes hd (hbname.trans hname)
  rfl

/-- Pruning a typed model leaves a typed model. -/
theorem Model.Typed.prune (hm : m.names.Nodup) (h : m.Typed) (p : Profile) : (p.prune m).Typed := by
  constructor
  · intro c hc a ha
    obtain ⟨b, hb, -, -, hcut⟩ := Profile.exists_of_mem_prune hc
    have hown : a ∈ b.attributes := by
      rw [hcut] at ha
      exact (Profile.mem_attributes_selectMembers.1 ha).1
    obtain ⟨d, hd, hname, hkind⟩ := h.attribute_typed b hb.mem_classes a hown
    -- The type of a kept attribute is itself a class that the profile keeps.
    have hleft : d.name ∈ (p.prune m).names := by
      rw [hname]
      refine Profile.type_mem_names_prune hc ha a.valueType.typeName_mem_referencedClasses ?_
      exact hname ▸ List.mem_map_of_mem hd
    obtain ⟨e, he, hename, hekind⟩ := Profile.exists_mem_prune_of_mem hm hd hleft
    exact ⟨e, he, hename.trans hname, hekind.trans hkind⟩
  · intro c hc a ha
    obtain ⟨b, hb, -, -, hcut⟩ := Profile.exists_of_mem_prune hc
    obtain ⟨own, hown, -, -, heq⟩ := Profile.mem_associations_cut (hcut ▸ ha)
    obtain ⟨d, hd, hname, hkind⟩ := h.association_typed b hb.mem_classes own hown
    have htarget : a.target = own.target := by rw [heq]
    -- An association without its target was dropped.
    have hleft : d.name ∈ (p.prune m).names := by
      rw [hname, ← htarget]
      exact Profile.target_mem_names_prune hc ha
    obtain ⟨e, he, hename, hekind⟩ := Profile.exists_mem_prune_of_mem hm hd hleft
    exact ⟨e, he, (hename.trans hname).trans htarget.symm, hekind.trans hkind⟩

end CimSchema
