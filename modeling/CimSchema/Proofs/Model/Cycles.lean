import CimSchema.Model.Bases
import CimSchema.Proofs.Name.Lookup
import Mathlib.Data.List.Chain

/-!
# Cycles and trails

A name lies on a cycle if following the bases leads back to it. What a list of all cycles is is said
here of any partial function. Trails follow the bases of a map, and repeat no name.

## Main definitions

* `CanonicalCycle` - the cycles of a partial function, each from its smallest name back to it.
* `ListsCycles` - a list of all cycles in lexicographic order.

## Main results

* `ListsCycles.unique` - there is one list of all cycles.
* `Bases.isChain_trailFrom`, `Bases.nodup_trailFrom` - a trail follows the bases, and repeats no name.
-/

namespace CimSchema

/-- A cycle of the partial function `next`, from its smallest name back to it. -/
def CanonicalCycle (next : String → Option String) (cycle : List String) : Prop :=
  ∃ first rest, cycle = first :: rest ++ [first] ∧ (first :: rest).Nodup ∧
    cycle.IsChain (fun name base => next name = some base) ∧ ∀ name ∈ rest, first ≤ name

/-- `cycles` lists the cycles of `next` in lexicographic order, each once. -/
structure ListsCycles (next : String → Option String) (cycles : List (List String)) : Prop where
  mem_iff : ∀ cycle, cycle ∈ cycles ↔ CanonicalCycle next cycle
  increasing : cycles.Pairwise (· < ·)

/-- There is one list of all cycles in lexicographic order. -/
theorem ListsCycles.unique {next : String → Option String} {cycles cycles' : List (List String)}
    (h : ListsCycles next cycles) (h' : ListsCycles next cycles') : cycles = cycles' := by
  have hirrefl {c d : List String} (hlt : c < d) : c ≠ d := by
    rintro rfl
    exact List.lt_irrefl c hlt
  have hperm : cycles.Perm cycles' := by
    refine (List.perm_ext_iff_of_nodup (h.increasing.imp hirrefl) (h'.increasing.imp hirrefl)).2 ?_
    intro cycle
    rw [h.mem_iff, h'.mem_iff]
  refine hperm.eq_of_pairwise (fun c d _ _ hlt hgt => ?_) h.increasing h'.increasing
  exact absurd (List.lt_trans hlt hgt) (List.lt_irrefl c)

namespace Bases

variable {bases : Bases} {left : List String} {name x : String}

theorem eq_of_mem_head?_trailFrom (h : x ∈ (bases.trailFrom left name).head?) : x = name := by
  rw [trailFrom] at h
  split at h
  · simp at h
  · split at h <;> simpa [eq_comm] using h

theorem not_mem_left_of_mem_trailFrom (h : x ∈ bases.trailFrom left name) : x ∉ left := by
  fun_induction trailFrom bases left name with
  | case1 => exact absurd h List.not_mem_nil
  | case2 left name hleft _ =>
    rw [List.mem_singleton.1 h]
    exact hleft
  | case3 left name hleft base _ ih =>
    rcases List.mem_cons.1 h with rfl | h
    · exact hleft
    · exact fun hx => ih h (List.mem_cons_of_mem name hx)

theorem nodup_trailFrom (bases : Bases) (left : List String) (name : String) :
    (bases.trailFrom left name).Nodup := by
  fun_induction trailFrom bases left name with
  | case1 => exact List.nodup_nil
  | case2 _ name => exact List.pairwise_singleton _ name
  | case3 left name _ base _ ih =>
    exact List.nodup_cons.2 ⟨fun h => not_mem_left_of_mem_trailFrom h List.mem_cons_self, ih⟩

theorem isChain_trailFrom (bases : Bases) (left : List String) (name : String) :
    (bases.trailFrom left name).IsChain (fun name base => bases.get? name = some base) := by
  fun_induction trailFrom bases left name with
  | case1 => exact .nil
  | case2 _ name => exact .singleton name
  | case3 left name _ base hbase ih =>
    refine List.isChain_cons.2 ⟨fun y hy => ?_, ih⟩
    rw [eq_of_mem_head?_trailFrom hy]
    exact hbase

theorem nodup_trail (bases : Bases) (name : String) : (bases.trail name).Nodup :=
  bases.nodup_trailFrom [] name

theorem isChain_trail (bases : Bases) (name : String) :
    (bases.trail name).IsChain (fun name base => bases.get? name = some base) :=
  bases.isChain_trailFrom [] name

theorem exists_trail_eq_cons (bases : Bases) (name : String) :
    ∃ rest, bases.trail name = name :: rest := by
  rw [trail, trailFrom, if_neg List.not_mem_nil]
  split
  · exact ⟨[], rfl⟩
  · exact ⟨_, rfl⟩

end Bases

end CimSchema
