import CimSchema.FirstSeen
import Mathlib.Data.List.Basic
import Mathlib.Data.List.Induction

/-!
# What a table in order of first appearance holds

A table is built by one change after another. This module gives the outcome in closed form: the keys
are the keys of the changes without repetitions, and the value of a key comes from the changes to
this key alone.

## Main results

* `foldl_addNew` - appending elements one by one removes repetitions.
* `filterMap_eraseDups` - removing repetitions and keeping some elements.
* `FirstSeen.keys_foldl_upsert`, `FirstSeen.get?_foldl_upsert` - the keys and values after some
  changes.
* `FirstSeen.filterMap_entries` - a table without repeated keys is read off its keys and values.
-/

namespace CimSchema

section AddNew

variable {α : Type} [DecidableEq α] {xs ys : List α} {x y : α}

theorem nodup_addNew (h : xs.Nodup) : (addNew xs x).Nodup := by
  rw [addNew]
  split
  · exact h
  · exact List.nodup_append.2 ⟨h, List.pairwise_singleton _ x, by grind⟩

section EraseDups

variable [BEq α] [LawfulBEq α]

theorem eraseDups_concat (xs : List α) (x : α) : (xs ++ [x]).eraseDups = addNew xs.eraseDups x := by
  rw [List.eraseDups_append, addNew]
  by_cases h : x ∈ xs <;> simp [List.removeAll, List.eraseDups_cons, h]

/-- Appending the elements of `xs` one by one removes repetitions. -/
theorem foldl_addNew_eraseDups (xs ys : List α) :
    xs.foldl addNew ys.eraseDups = (ys ++ xs).eraseDups := by
  induction xs generalizing ys with
  | nil => rw [List.foldl_nil, List.append_nil]
  | cons x xs ih =>
    rw [List.foldl_cons, ← eraseDups_concat, ih, List.append_assoc, List.singleton_append]

theorem foldl_addNew (xs : List α) : xs.foldl addNew [] = xs.eraseDups :=
  foldl_addNew_eraseDups xs []

end EraseDups

theorem nodup_foldl_addNew (h : ys.Nodup) : (xs.foldl addNew ys).Nodup := by
  induction xs generalizing ys with
  | nil => exact h
  | cons x xs ih => exact ih (nodup_addNew h)

theorem nodup_eraseDups [BEq α] [LawfulBEq α] (xs : List α) : xs.eraseDups.Nodup :=
  foldl_addNew xs ▸ nodup_foldl_addNew List.nodup_nil

/-- Where different elements are kept as different ones, it does not matter whether repetitions are
removed before or after. -/
theorem filterMap_eraseDups {β : Type} [DecidableEq β] [BEq α] [LawfulBEq α] [BEq β] [LawfulBEq β]
    {f : α → Option β} (hf : ∀ x y b, f x = some b → f y = some b → x = y) (xs : List α) :
    xs.eraseDups.filterMap f = (xs.filterMap f).eraseDups := by
  induction xs using List.reverseRecOn with
  | nil => rfl
  | append_singleton xs x ih =>
    rw [eraseDups_concat, List.filterMap_append, List.filterMap_cons, List.filterMap_nil]
    cases hx : f x with
    | none =>
      rw [List.append_nil, addNew]
      split
      · exact ih
      · rw [List.filterMap_append, ih, List.filterMap_cons_none hx, List.filterMap_nil,
          List.append_nil]
    | some b =>
      have hmem : b ∈ (xs.filterMap f).eraseDups ↔ x ∈ xs.eraseDups := by
        rw [List.mem_eraseDups, List.mem_eraseDups, List.mem_filterMap]
        exact ⟨fun ⟨y, hy, hyb⟩ => hf y x b hyb hx ▸ hy, fun h => ⟨x, h, hx⟩⟩
      rw [eraseDups_concat, addNew, addNew]
      by_cases h : x ∈ xs.eraseDups
      · rw [if_pos h, if_pos (hmem.2 h), ih]
      · rw [if_neg h, if_neg (mt hmem.1 h), List.filterMap_append, ih,
          List.filterMap_cons_some hx, List.filterMap_nil]

end AddNew

theorem findSome?_cons_eq_or {α β : Type} (f : α → Option β) (x : α) (xs : List α) :
    (x :: xs).findSome? f = (f x).or (xs.findSome? f) := by
  cases h : f x <;> simp [h]

theorem foldl_or {α β : Type} (f : α → Option β) (xs : List α) (o : Option β) :
    xs.foldl (fun o x => o.or (f x)) o = o.or (xs.findSome? f) := by
  induction xs generalizing o with
  | nil => rw [List.foldl_nil, List.findSome?_nil, Option.or_none]
  | cons x xs ih => rw [List.foldl_cons, ih, findSome?_cons_eq_or, Option.or_assoc]

namespace FirstSeen

variable {κ α β : Type} [DecidableEq κ] {t : FirstSeen κ α} {k k' : κ} {a : α}

@[simp]
theorem get?_empty : (⟨[]⟩ : FirstSeen κ α).get? k = none := rfl

theorem get?_mk_cons {e : κ × α} {entries : List (κ × α)} :
    (⟨e :: entries⟩ : FirstSeen κ α).get? k =
      if e.1 = k then some e.2 else (⟨entries⟩ : FirstSeen κ α).get? k := by
  by_cases h : e.1 = k <;> simp [get?, h]

theorem get?_eq_none_iff : t.get? k = none ↔ k ∉ t.keys := by
  rw [get?, Option.map_eq_none_iff, List.find?_eq_none, keys, List.mem_map]
  constructor
  · rintro h ⟨e, he, rfl⟩
    exact h e he (decide_eq_true rfl)
  · intro h e he hk
    exact h ⟨e, he, of_decide_eq_true hk⟩

theorem contains_iff : t.contains k = true ↔ k ∈ t.keys := by
  rw [contains, Option.isSome_iff_ne_none, Ne, get?_eq_none_iff, not_not]

theorem mem_keys_iff : k ∈ t.keys ↔ ∃ a, t.get? k = some a := by
  rw [← contains_iff, contains, Option.isSome_iff_exists]

theorem keys_upsert (t : FirstSeen κ α) (k : κ) (fresh : α) (f : α → α) :
    (t.upsert k fresh f).keys = addNew t.keys k := by
  obtain ⟨entries⟩ := t
  rw [upsert, keys, keys]
  induction entries with
  | nil => rfl
  | cons e entries ih =>
    obtain ⟨k', a⟩ := e
    rw [upsertList]
    by_cases h : k' = k
    · simp [addNew, h]
    · rw [if_neg h, List.map_cons, ih]
      by_cases hk : k ∈ entries.map Prod.fst <;> simp [addNew, hk, Ne.symm h]

theorem get?_upsert (t : FirstSeen κ α) (k k' : κ) (fresh : α) (f : α → α) :
    (t.upsert k fresh f).get? k' =
      if k' = k then some (f ((t.get? k).getD fresh)) else t.get? k' := by
  obtain ⟨entries⟩ := t
  rw [upsert]
  induction entries with
  | nil => simp [upsertList, get?_mk_cons, eq_comm]
  | cons e entries ih =>
    obtain ⟨k'', a⟩ := e
    rw [upsertList, get?_mk_cons]
    by_cases h : k'' = k
    · rw [if_pos h, get?_mk_cons]
      by_cases hk : k = k' <;> simp [h, hk, get?_mk_cons, eq_comm]
    · rw [if_neg h, get?_mk_cons, ih, get?_mk_cons, if_neg h]
      by_cases hk : k'' = k' <;> grind

section Fold

variable (key : β → κ) (fresh : β → α) (f : β → α → α)

/-- The keys after some changes are the keys of the changes, behind those that were there. -/
theorem keys_foldl_upsert (xs : List β) (t : FirstSeen κ α) :
    (xs.foldl (fun t x => t.upsert (key x) (fresh x) (f x)) t).keys =
      (xs.map key).foldl addNew t.keys := by
  rw [List.foldl_map]
  induction xs generalizing t with
  | nil => rfl
  | cons x xs ih => rw [List.foldl_cons, ih, keys_upsert, List.foldl_cons]

/-- Only the changes to a key count for its value. -/
theorem get?_foldl_upsert (xs : List β) (t : FirstSeen κ α) (k : κ) :
    (xs.foldl (fun t x => t.upsert (key x) (fresh x) (f x)) t).get? k =
      (xs.filter (key · = k)).foldl (fun o x => some (f x (o.getD (fresh x)))) (t.get? k) := by
  induction xs generalizing t with
  | nil => rfl
  | cons x xs ih =>
    rw [List.foldl_cons, ih, get?_upsert, List.filter_cons]
    by_cases h : key x = k
    · rw [if_pos h.symm, if_pos (decide_eq_true h), List.foldl_cons, h]
    -- A change to another key leaves the value, and is filtered out.
    · rw [if_neg (Ne.symm h), if_neg (by simpa using h)]

end Fold

/-- Changes to a single value that does not depend on the first of them. -/
theorem foldl_getD (f : β → α → α) (xs : List β) (o : Option α) (a : α) :
    xs.foldl (fun o x => some (f x (o.getD a))) o =
      if xs = [] then o else some (xs.foldl (fun a x => f x a) (o.getD a)) := by
  induction xs generalizing o with
  | nil => rfl
  | cons x xs ih =>
    rw [List.foldl_cons, ih, if_neg (List.cons_ne_nil x xs), List.foldl_cons, Option.getD_some]
    split
    · rename_i h
      rw [h, List.foldl_nil]
    · rfl

theorem foldl_some (fresh : β → α) (f : β → α → α) (xs : List β) (a : α) :
    xs.foldl (fun o x => some (f x (o.getD (fresh x)))) (some a) =
      some (xs.foldl (fun a x => f x a) a) := by
  induction xs generalizing a with
  | nil => rfl
  | cons x xs ih => rw [List.foldl_cons, Option.getD_some, ih, List.foldl_cons]

theorem get?_eq_some_iff_mem (h : t.keys.Nodup) : t.get? k = some a ↔ (k, a) ∈ t.entries := by
  obtain ⟨entries⟩ := t
  rw [keys] at h
  induction entries with
  | nil => simp
  | cons e entries ih =>
    obtain ⟨k', b⟩ := e
    obtain ⟨hnot, h⟩ : k' ∉ entries.map Prod.fst ∧ (entries.map Prod.fst).Nodup :=
      List.nodup_cons.1 h
    rw [get?_mk_cons, List.mem_cons, Prod.mk.injEq]
    -- An entry in front hides those of its key behind it, but there are none.
    by_cases hk : k' = k
    · have hmem : (k, a) ∉ entries := fun he => hnot (hk ▸ List.mem_map.2 ⟨_, he, rfl⟩)
      simp [hk, hmem, eq_comm]
    · simp [hk, Ne.symm hk, ih h]

/-- A table in which no key is repeated is read off its keys and their values. -/
theorem filterMap_entries {γ : Type} (h : t.keys.Nodup) (g : κ × α → Option γ) :
    t.entries.filterMap g = t.keys.filterMap fun k => (t.get? k).bind fun a => g (k, a) := by
  rw [keys, List.filterMap_map]
  refine List.filterMap_congr fun e he => ?_
  rw [Function.comp_apply, (get?_eq_some_iff_mem h).2 he, Option.bind_some]

theorem filterMap_values {γ : Type} (h : t.keys.Nodup) (g : α → Option γ) :
    t.values.filterMap g = t.keys.filterMap fun k => (t.get? k).bind g := by
  rw [values, List.filterMap_map, filterMap_entries h]
  rfl

end FirstSeen

end CimSchema
