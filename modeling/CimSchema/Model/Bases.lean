import CimSchema.Name.Map
import CimSchema.Name.Set
import CimSchema.Name.Unseen

/-!
# Chains and cycles of base classes

A finite map gives some names a base. Following it from a name leads along a chain that ends at a
name without base, or runs into a cycle.

## Main definitions

* `Bases` - which base each name has.
* `Bases.trail` - a name and its successive bases, each name once.
* `Bases.leadsTo` - whether one name is another or one of its successive bases.
* `closeCycle`, `Bases.cycleOf?` - the cycle that a trail runs into.
* `CycleSearch`, `Bases.searchFrom` - a search for all cycles.
* `Bases.cycles` - what it finds, each cycle from its smallest name back to it.
-/

namespace CimSchema

/-- Which base each name has. -/
abbrev Bases := NameMap String

/-- The names on a cycle, turned so that the smallest comes first, with that at the end once more. -/
def closeCycle (names : List String) : List String :=
  let start := names.findIdx fun name => names.all (name ≤ ·)
  let turned := names.drop start ++ names.take start
  turned ++ turned.head?.toList

/-- A search for cycles: the names that it is done with, and the cycles that it has found. -/
structure CycleSearch where
  done : List String := []
  cycles : List (List String) := []

namespace Bases

theorem mem_keys_of_get? {bases : Bases} {name base : String} (h : bases.get? name = some base) :
    name ∈ bases.keys := by
  rw [NameMap.get?, List.lookup_eq_some_iff] at h
  obtain ⟨before, after, hb, _⟩ := h
  rw [NameMap.keys, hb]
  simp

/-- `name` and its successive bases, up to a name that has no base or whose base was already left.
The names in `left` are those already left. -/
def trailFrom (bases : Bases) (left : List String) (name : String) : List String :=
  if name ∈ left then []
  else
    match _h : bases.get? name with
    | none => [name]
    | some base => name :: bases.trailFrom (name :: left) base
termination_by unseen bases.keys left
decreasing_by exact unseen_cons_lt (mem_keys_of_get? ‹_›) ‹_›

/-- `name` and its successive bases, each name once. -/
def trail (bases : Bases) (name : String) : List String :=
  bases.trailFrom [] name

/-- Whether `ancestor` is `name` or one of its successive bases. -/
def leadsTo (bases : Bases) (name ancestor : String) : Bool :=
  (bases.trail name).contains ancestor

/-- The cycle that a trail runs into, if its last name has a base on it. -/
def cycleOf? (bases : Bases) (trail : List String) : Option (List String) :=
  match trail.getLast?.bind bases.get? with
  | some base => if base ∈ trail then some (closeCycle (trail.drop (trail.idxOf base))) else none
  | none => none

/-- The search goes on from `start`, along the names that it is not done with. -/
def searchFrom (bases : Bases) (s : CycleSearch) (start : String) : CycleSearch :=
  let trail := bases.trailFrom s.done start
  { done := trail ++ s.done
    cycles :=
      match bases.cycleOf? trail with
      | some cycle => insertIncreasing cycle s.cycles
      | none => s.cycles }

/-- Every cycle once, from its smallest name back to it, in lexicographic order. -/
def cycles (bases : Bases) : List (List String) :=
  (bases.keys.foldl bases.searchFrom {}).cycles

end Bases

end CimSchema
