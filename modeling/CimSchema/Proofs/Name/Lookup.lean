import CimSchema.Name.Map
import Mathlib.Data.List.Basic

/-!
# Looking up names

The entries of a map are found where they are listed, because no name is listed twice.

## Main results

* `NameMap.get?_eq_some_iff` - what is found for a name is what is listed for it.
* `NameMap.mem_keys_iff` - the names that something is found for.
* `NameMap.eq_of_get?_eq` - two maps in which the same is found are the same.
* `NameMap.get?_ofList_graph` - the map of a partial function.
-/

namespace CimSchema.NameMap

variable {α : Type} {m : NameMap α} {x y : String} {a : α}

theorem pairwise_keys (m : NameMap α) : m.keys.Pairwise (· < ·) := by
  rw [keys, List.pairwise_map]
  exact m.increasing

theorem nodup_keys (m : NameMap α) : m.keys.Nodup := by
  refine m.pairwise_keys.imp fun {x y} h e => ?_
  exact String.lt_irrefl y (e ▸ h)

/-- In a list of entries without a name that comes twice, an entry is found where it is listed. -/
theorem lookup_eq_some_iff_mem {entries : List (String × α)}
    (h : (entries.map Prod.fst).Nodup) : entries.lookup x = some a ↔ (x, a) ∈ entries := by
  induction entries with
  | nil => simp
  | cons e entries ih =>
    obtain ⟨y, b⟩ := e
    obtain ⟨hy, h⟩ : y ∉ entries.map Prod.fst ∧ (entries.map Prod.fst).Nodup := List.nodup_cons.1 h
    rw [List.lookup_cons, List.mem_cons, Prod.mk.injEq]
    by_cases hxy : x = y
    · have hx : (x, a) ∉ entries := fun ha => hy (hxy ▸ List.mem_map.2 ⟨_, ha, rfl⟩)
      simp [hxy ▸ hx, hxy, eq_comm]
    · rw [beq_eq_false_iff_ne.2 hxy]
      simp [hxy, ih h]

theorem get?_eq_some_iff : m.get? x = some a ↔ (x, a) ∈ m.toList :=
  lookup_eq_some_iff_mem m.nodup_keys

theorem mem_keys_iff : x ∈ m.keys ↔ ∃ a, m.get? x = some a := by
  rw [keys, List.mem_map]
  constructor
  · rintro ⟨⟨y, a⟩, he, rfl⟩
    exact ⟨a, get?_eq_some_iff.2 he⟩
  · rintro ⟨a, ha⟩
    exact ⟨(x, a), get?_eq_some_iff.1 ha, rfl⟩

theorem get?_eq_none_iff : m.get? x = none ↔ x ∉ m.keys := by
  rw [mem_keys_iff, ← Option.ne_none_iff_exists', not_not]

theorem mem_values_iff : a ∈ m.values ↔ ∃ x, m.get? x = some a := by
  rw [values, List.mem_map]
  constructor
  · rintro ⟨⟨x, b⟩, he, rfl⟩
    exact ⟨x, get?_eq_some_iff.2 he⟩
  · rintro ⟨x, hx⟩
    exact ⟨(x, a), get?_eq_some_iff.1 hx, rfl⟩

theorem contains_iff : m.contains x = true ↔ x ∈ m.keys := by
  rw [contains, Option.isSome_iff_exists, mem_keys_iff]

@[simp]
theorem get?_empty : (empty : NameMap α).get? x = none := rfl

theorem mem_keys_insert : y ∈ (m.insert x a).keys ↔ y = x ∨ y ∈ m.keys := by
  rw [mem_keys_iff, mem_keys_iff, get?_insert]
  by_cases h : y = x <;> simp [h]

theorem nodup_toList (m : NameMap α) : m.toList.Nodup := by
  refine m.increasing.imp fun {e f} h heq => ?_
  exact String.lt_irrefl f.1 (heq ▸ h)

/-- Two maps in which the same is found are the same. -/
theorem eq_of_get?_eq {n : NameMap α} (h : ∀ x, m.get? x = n.get? x) : m = n := by
  have hmem (e : String × α) : e ∈ m.toList ↔ e ∈ n.toList := by
    rw [← get?_eq_some_iff (x := e.1), ← get?_eq_some_iff (x := e.1), h]
  have hperm : m.toList.Perm n.toList :=
    (List.perm_ext_iff_of_nodup m.nodup_toList n.nodup_toList).2 hmem
  have hlists : m.toList = n.toList := by
    refine hperm.eq_of_pairwise (fun e f _ _ hef hfe => ?_) m.increasing n.increasing
    exact absurd (Std.lt_trans hef hfe) (String.lt_irrefl e.1)
  cases m
  cases n
  congr

/-- The map of the names that a partial function has a value for. -/
theorem get?_ofList_graph (next : String → Option α) (names : List String) :
    (ofList (names.filterMap fun y => (next y).map fun b => (y, b))).get? x =
      if x ∈ names then next x else none := by
  have hfold (m : NameMap α) :
      ((names.filterMap fun y => (next y).map fun b => (y, b)).foldl
        (fun m e => m.insert e.1 e.2) m).get? x =
      (if x ∈ names then next x else none).or (m.get? x) := by
    -- A name that comes twice brings the same entry twice.
    induction names generalizing m with
    | nil => simp
    | cons y names ih =>
      rw [List.filterMap_cons]
      cases hy : next y with
      | none =>
        simp only [Option.map_none]
        rw [ih]
        by_cases hxy : x = y <;> simp [hxy, hy]
      | some b =>
        simp only [Option.map_some]
        rw [List.foldl_cons, ih, get?_insert]
        by_cases hxy : x = y <;> by_cases hx : y ∈ names <;> simp [hxy, hx, hy]
  rw [ofList, hfold, get?_empty, Option.or_none]

end CimSchema.NameMap
