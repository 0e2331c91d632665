/-!
# Finite maps from names

A map from names lists its entries in increasing order of their names, each name once.

## Main definitions

* `NameMap` - lists of entries with strictly increasing names.
* `NameMap.get?`, `NameMap.insert`, `NameMap.ofList`, `NameMap.union` - the operations.

## Main results

* `NameMap.get?_insert` - what is found after an insertion.
-/

namespace CimSchema

/-- A finite map from names, listed in increasing order of the names. -/
structure NameMap (α : Type) where
  toList : List (String × α)
  increasing : toList.Pairwise (·.1 < ·.1)

namespace NameMap

variable {α : Type}

/-- The map without entries. -/
def empty : NameMap α := ⟨[], .nil⟩

instance : Inhabited (NameMap α) := ⟨empty⟩

/-- Puts an entry into its place, in the place of an entry of the same name if there is one. -/
def insertList (x : String) (a : α) : List (String × α) → List (String × α)
  | [] => [(x, a)]
  | (y, b) :: rest =>
    if x < y then (x, a) :: (y, b) :: rest
    else if x = y then (x, a) :: rest
    else (y, b) :: insertList x a rest

theorem fst_of_mem_insertList {x : String} {a : α} {rest : List (String × α)} {e : String × α}
    (h : e ∈ insertList x a rest) : e.1 = x ∨ e ∈ rest := by
  induction rest with
  | nil => simp_all [insertList]
  | cons f rest ih =>
    obtain ⟨y, b⟩ := f
    rw [insertList] at h
    grind

theorem increasing_insertList (x : String) (a : α) {rest : List (String × α)}
    (h : rest.Pairwise (·.1 < ·.1)) : (insertList x a rest).Pairwise (·.1 < ·.1) := by
  induction rest with
  | nil => simp [insertList]
  | cons f rest ih =>
    obtain ⟨y, b⟩ := f
    have h' := List.pairwise_cons.1 h
    rw [insertList]
    split
    · rename_i hxy
      refine List.pairwise_cons.2 ⟨fun e he => ?_, h⟩
      rcases List.mem_cons.1 he with rfl | he
      · exact hxy
      · exact Std.lt_trans hxy (h'.1 e he)
    · split
      · rename_i hxy
        subst hxy
        exact List.pairwise_cons.2 ⟨h'.1, h'.2⟩
      · refine List.pairwise_cons.2 ⟨fun e he => ?_, ih h'.2⟩
        rcases fst_of_mem_insertList he with he | he
        · grind
        · exact h'.1 e he

/-- The map with the entry `x`, `a`, in the place of an entry of the same name. -/
def insert (m : NameMap α) (x : String) (a : α) : NameMap α :=
  ⟨insertList x a m.toList, increasing_insertList x a m.increasing⟩

/-- The value of the entry `x`. -/
def get? (m : NameMap α) (x : String) : Option α :=
  m.toList.lookup x

/-- Whether there is an entry `x`. -/
def contains (m : NameMap α) (x : String) : Bool :=
  (m.get? x).isSome

/-- Whether there is no entry. -/
def isEmpty (m : NameMap α) : Bool :=
  m.toList.isEmpty

/-- The names of the entries, in increasing order. -/
def keys (m : NameMap α) : List String :=
  m.toList.map Prod.fst

/-- The values, in increasing order of their names. -/
def values (m : NameMap α) : List α :=
  m.toList.map Prod.snd

/-- The map of a list of entries; of several with one name the last counts. -/
def ofList (entries : List (String × α)) : NameMap α :=
  entries.foldl (fun m e => m.insert e.1 e.2) empty

/-- The entries of `m` and of `top`; where both have one, that of `top`. -/
def union (m top : NameMap α) : NameMap α :=
  top.toList.foldl (fun m e => m.insert e.1 e.2) m

/-- The map with each value replaced. -/
def map {β : Type} (f : α → β) (m : NameMap α) : NameMap β :=
  ⟨m.toList.map fun e => (e.1, f e.2), List.Pairwise.map _ (fun _ _ h => h) m.increasing⟩

theorem lookup_insertList (x y : String) (a : α) (rest : List (String × α)) :
    (insertList x a rest).lookup y = if y = x then some a else rest.lookup y := by
  induction rest with
  | nil =>
    rw [insertList, List.lookup_cons, List.lookup_nil]
    by_cases h : y = x
    · simp [h]
    · rw [beq_eq_false_iff_ne.2 h, if_neg h]
  | cons f rest ih =>
    obtain ⟨z, b⟩ := f
    rw [insertList]
    grind

@[simp]
theorem get?_insert (m : NameMap α) (x y : String) (a : α) :
    (m.insert x a).get? y = if y = x then some a else m.get? y :=
  lookup_insertList x y a m.toList

end NameMap

end CimSchema
