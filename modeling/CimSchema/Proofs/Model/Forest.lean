import CimSchema.Proofs.Model.CycleSearch
import CimSchema.Proofs.Model.Lookup
import Mathlib.Data.List.Perm.Subperm

/-!
# Bases without cycles

A trail of bases that does not end at a name without base runs into itself, and what it runs into is
a cycle. So without cycles every trail ends, and the bases make a forest.

## Main definitions

* `Model.base?` - the base of a class.
* `Model.Forest` - a model in which every class leads to a class without base.

## Main results

* `Bases.exists_root` - without cycles a trail ends at a name without base.
* `Model.forest_of_cycles_eq_nil` - a model of known bases without cycles is a forest.
-/

namespace CimSchema

namespace Bases

variable {bases : Bases}

/-- Without cycles a trail ends at a name without base. -/
theorem exists_root (h : bases.cycles = []) (name : String) :
    ∃ root, (bases.trail name).getLast? = some root ∧ bases.get? root = none := by
  obtain ⟨rest, hrest⟩ := bases.exists_trail_eq_cons name
  obtain ⟨root, hroot⟩ : ∃ root, (bases.trail name).getLast? = some root :=
    ⟨_, List.getLast?_eq_some_getLast (hrest ▸ List.cons_ne_nil name rest)⟩
  refine ⟨root, hroot, ?_⟩
  by_contra hsome
  obtain ⟨base, hbase⟩ := Option.ne_none_iff_exists'.1 hsome
  -- The base of the last name is on the trail, which leads back from there to the last name.
  have hback : Reaches bases.get? base root := reaches_getLast (bases.isChain_trail name) hroot
    (mem_trail_of_mem_trail (List.mem_of_getLast? hroot) hbase)
  obtain ⟨cycle, hlisted, -⟩ := exists_mem_cycles (onCycle_iff.2 ⟨base, hbase, hback⟩)
  rw [h] at hlisted
  exact List.not_mem_nil hlisted

end Bases

/-- A name from which a chain leads to a name without base does not lead back to itself. -/
theorem not_transGen_of_isChain {next : String → Option String} {name : String} {rest : List String}
    (hchain : (name :: rest).IsChain (fun name base => next name = some base))
    (hroot : ∀ root, (name :: rest).getLast? = some root → next root = none) :
    ¬ Relation.TransGen (fun name base => next name = some base) name name := by
  induction rest generalizing name with
  | nil =>
    intro hcycle
    obtain ⟨base, hbase, -⟩ := Relation.TransGen.head'_iff.1 hcycle
    rw [hroot name rfl] at hbase
    cases hbase
  | cons base rest ih =>
    intro hcycle
    obtain ⟨other, hother, hback⟩ := Relation.TransGen.head'_iff.1 hcycle
    obtain ⟨hbase, hchain⟩ := List.isChain_cons_cons.1 hchain
    obtain rfl : base = other := Option.some.inj (hbase.symm.trans hother)
    exact ih hchain (fun root hlast => hroot root (by rw [List.getLast?_cons_cons]; exact hlast))
      (Relation.TransGen.tail' hback hother)

namespace Model

variable {m : Model} {name : String}

/-- The base of a class, by its last record. -/
def base? (m : Model) (name : String) : Option String :=
  (m.get? name).bind (·.base)

theorem get?_bases (m : Model) : m.bases.get? = m.base? := by
  funext name
  rw [bases, NameMap.get?_ofList_graph]
  by_cases h : name ∈ m.names
  · rw [if_pos h, base?]
  · rw [if_neg h, base?, get?_eq_none_iff.2 h, Option.bind_none]

/-- A model in which the ancestors of each class end at a class without base, and no class is its
own ancestor. -/
structure Forest (m : Model) : Prop where
  /-- The ancestors are found by following the bases. -/
  follows : ∀ c ∈ m.classes,
    (c.name :: m.ancestors c.name).IsChain (fun name base => m.base? name = some base)
  mem_names : ∀ c ∈ m.classes, ∀ name ∈ m.ancestors c.name, name ∈ m.names
  length_lt : ∀ c ∈ m.classes, (m.ancestors c.name).length < m.size
  rooted : ∀ c ∈ m.classes, ∃ root ∈ m.classes,
    (c.name :: m.ancestors c.name).getLast? = some root.name ∧ root.base = none
  acyclic : ∀ name,
    ¬ Relation.TransGen (fun name base => m.base? name = some base) name name

theorem cons_ancestors (m : Model) (name : String) :
    name :: m.ancestors name = m.bases.trail name := by
  obtain ⟨rest, hrest⟩ := m.bases.exists_trail_eq_cons name
  rw [ancestors, hrest, List.tail_cons]

theorem nodup_cons_ancestors (m : Model) (name : String) : (name :: m.ancestors name).Nodup := by
  rw [cons_ancestors]
  exact m.bases.nodup_trail name

theorem isChain_ancestors (m : Model) (name : String) :
    (name :: m.ancestors name).IsChain (fun name base => m.base? name = some base) := by
  rw [cons_ancestors, ← get?_bases]
  exact m.bases.isChain_trail name

theorem mem_names_of_mem_ancestors
    (hbases : ∀ c ∈ m.classes, ∀ base, c.base = some base → base ∈ m.names)
    {x : String} (hx : x ∈ m.ancestors name) : x ∈ m.names := by
  -- On the chain of bases: each name but the first is the base of a class.
  have hchain := m.isChain_ancestors name
  generalize m.ancestors name = chain at hx hchain
  induction chain generalizing name with
  | nil => exact absurd hx List.not_mem_nil
  | cons base rest ih =>
    obtain ⟨hbase, hchain⟩ := List.isChain_cons_cons.1 hchain
    rcases List.mem_cons.1 hx with rfl | hx
    · obtain ⟨c, hc, hbase⟩ := Option.bind_eq_some_iff.1 hbase
      exact hbases c (mem_classes_of_get? hc) x hbase
    · exact ih hx hchain

/-- A model of known bases without cycles is a forest. -/
theorem forest_of_cycles_eq_nil
    (hbases : ∀ c ∈ m.classes, ∀ base, c.base = some base → base ∈ m.names)
    (hcycles : m.bases.cycles = []) : m.Forest := by
  have hroot (name : String) :
      ∃ root, (name :: m.ancestors name).getLast? = some root ∧ m.base? root = none := by
    rw [cons_ancestors, ← get?_bases]
    exact Bases.exists_root hcycles name
  have hmem {c : ClassRecord} (hc : c ∈ m.classes) :
      ∀ name ∈ c.name :: m.ancestors c.name, name ∈ m.names := by
    intro name hname
    rcases List.mem_cons.1 hname with rfl | hname
    · exact List.mem_map_of_mem hc
    · exact mem_names_of_mem_ancestors hbases hname
  constructor
  · intro c _
    exact m.isChain_ancestors c.name
  · intro c hc name hname
    exact hmem hc name (List.mem_cons_of_mem c.name hname)
  · intro c hc
    have hnodup := m.nodup_cons_ancestors c.name
    have hlength := (List.subperm_of_subset hnodup (hmem hc)).length_le
    rw [List.length_cons, names, List.length_map] at hlength
    exact hlength
  · intro c hc
    obtain ⟨root, hlast, hbase⟩ := hroot c.name
    obtain ⟨r, hr⟩ := mem_names_iff.1 (hmem hc root (List.mem_of_mem_getLast? hlast))
    rw [base?, hr, Option.bind_some] at hbase
    exact ⟨r, mem_classes_of_get? hr, by rw [name_of_get? hr]; exact hlast, hbase⟩
  · intro name
    obtain ⟨root, hlast, hbase⟩ := hroot name
    refine not_transGen_of_isChain (m.isChain_ancestors name) fun last hlast' => ?_
    obtain rfl : root = last := Option.some.inj (hlast.symm.trans hlast')
    exact hbase

end Model

end CimSchema
