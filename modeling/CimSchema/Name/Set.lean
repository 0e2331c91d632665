/-!
# Finite sets of names

A set of names is the list of its members in increasing order, each once. Two sets with the same
members are therefore the same value, however they came about.

## Main definitions

* `insertIncreasing` - insertion into an increasing list.
* `NameSet` - strictly increasing lists of names.
* `NameSet.insert`, `NameSet.ofList`, `NameSet.contains` - the operations.

## Main results

* `increasing_insertIncreasing` - an insertion keeps a list increasing.
* `NameSet.mem_insert`, `NameSet.mem_ofList` - the members after an operation.
* `NameSet.ext` - a set is determined by its members.
-/

namespace CimSchema

section Increasing

variable {α : Type} [LT α] [DecidableLT α] [DecidableEq α] {x z : α} {ys : List α}

/-- Puts `x` into its place in an increasing list, unless it is there. -/
def insertIncreasing (x : α) : List α → List α
  | [] => [x]
  | y :: ys => if x < y then x :: y :: ys else if x = y then y :: ys else y :: insertIncreasing x ys

theorem mem_insertIncreasing : z ∈ insertIncreasing x ys ↔ z = x ∨ z ∈ ys := by
  induction ys with
  | nil => simp [insertIncreasing]
  | cons y ys ih => grind [insertIncreasing]

theorem increasing_insertIncreasing [LE α] [Std.IsLinearOrder α] [Std.LawfulOrderLT α] (x : α)
    (h : ys.Pairwise (· < ·)) : (insertIncreasing x ys).Pairwise (· < ·) := by
  induction ys with
  | nil => simp [insertIncreasing]
  | cons y ys ih =>
    rw [List.pairwise_cons] at h
    rw [insertIncreasing]
    split
    · rename_i hxy
      refine List.pairwise_cons.2 ⟨fun z hz => ?_, List.pairwise_cons.2 h⟩
      rcases List.mem_cons.1 hz with rfl | hz
      · exact hxy
      · exact Std.lt_trans hxy (h.1 z hz)
    · rename_i hxy
      split
      · exact List.pairwise_cons.2 h
      · rename_i hne
        refine List.pairwise_cons.2 ⟨fun z hz => ?_, ih h.2⟩
        rcases mem_insertIncreasing.1 hz with rfl | hz
        · exact Std.lt_of_le_of_ne (Std.not_lt.1 hxy) (Ne.symm hne)
        · exact h.1 z hz

end Increasing

/-- A finite set of names, listed in increasing order. -/
structure NameSet where
  toList : List String
  increasing : toList.Pairwise (· < ·)
  deriving DecidableEq

namespace NameSet

instance : Membership String NameSet := ⟨fun s x => x ∈ s.toList⟩

instance (s : NameSet) (x : String) : Decidable (x ∈ s) :=
  inferInstanceAs (Decidable (x ∈ s.toList))

/-- The set without members. -/
def empty : NameSet := ⟨[], .nil⟩

instance : Inhabited NameSet := ⟨empty⟩

/-- The set with the members of `s` and `x`. -/
def insert (s : NameSet) (x : String) : NameSet :=
  ⟨insertIncreasing x s.toList, increasing_insertIncreasing x s.increasing⟩

/-- The set of the members of a list. -/
def ofList (xs : List String) : NameSet :=
  xs.foldl insert empty

/-- Whether `x` is a member. -/
def contains (s : NameSet) (x : String) : Bool :=
  decide (x ∈ s)

/-- Whether there is no member. -/
def isEmpty (s : NameSet) : Bool :=
  s.toList.isEmpty

theorem mem_insert {s : NameSet} {x z : String} : z ∈ s.insert x ↔ z = x ∨ z ∈ s :=
  mem_insertIncreasing

theorem mem_foldl_insert {xs : List String} {s : NameSet} {z : String} :
    z ∈ xs.foldl insert s ↔ z ∈ xs ∨ z ∈ s := by
  induction xs generalizing s with
  | nil => simp
  | cons x xs ih =>
    rw [List.foldl_cons, ih, mem_insert, List.mem_cons]
    grind

theorem mem_ofList {xs : List String} {z : String} : z ∈ ofList xs ↔ z ∈ xs := by
  have h : ¬ z ∈ empty := fun h => (List.not_mem_nil h).elim
  rw [ofList, mem_foldl_insert]
  simp [h]

theorem eq_of_increasing {xs ys : List String} (hx : xs.Pairwise (· < ·))
    (hy : ys.Pairwise (· < ·)) (h : ∀ z, z ∈ xs ↔ z ∈ ys) : xs = ys := by
  induction xs generalizing ys with
  | nil =>
    cases ys with
    | nil => rfl
    | cons y ys => exact absurd ((h y).2 (by simp)) (by simp)
  | cons x xs ih =>
    cases ys with
    | nil => exact absurd ((h x).1 (by simp)) (by simp)
    | cons y ys =>
      rw [List.pairwise_cons] at hx hy
      have hxy : x = y := by
        rcases List.mem_cons.1 ((h x).1 (by simp)) with hx' | hx'
        · exact hx'
        · rcases List.mem_cons.1 ((h y).2 (by simp)) with hy' | hy'
          · exact hy'.symm
          · exact absurd (Std.lt_trans (hx.1 y hy') (hy.1 x hx')) (String.lt_irrefl x)
      subst hxy
      refine congrArg (x :: ·) (ih hx.2 hy.2 fun z => ?_)
      have hz := h z
      have hzx : z ∈ xs → z ≠ x := fun hz e => String.lt_irrefl x (e ▸ hx.1 z hz)
      have hzy : z ∈ ys → z ≠ x := fun hz e => String.lt_irrefl x (e ▸ hy.1 z hz)
      grind

/-- A set is determined by its members. -/
theorem ext {s t : NameSet} (h : ∀ z, z ∈ s ↔ z ∈ t) : s = t := by
  cases s
  cases t
  congr
  exact eq_of_increasing ‹_› ‹_› h

end NameSet

end CimSchema
