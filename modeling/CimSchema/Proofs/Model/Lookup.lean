import CimSchema.Model.Basic
import CimSchema.Proofs.Name.Lookup
import Mathlib.Data.List.Nodup

/-!
# Looking up classes

## Main results

* `Model.get?_eq_some_iff` - where no name comes twice, a record is found under its name.
* `Model.mem_names_iff` - the names that a record is found for.
* `Model.eq_of_get?_eq` - two models in which the same is found are the same.
* `Model.classes_ofList_map`, `Model.get?_ofList_map` - a model whose records are changed.
* `Model.get?_ofList_values` - a model made of the values of a map.
-/

namespace CimSchema.Model

variable {m : Model} {c : ClassRecord} {name : String}

theorem mem_names_iff : name ∈ m.names ↔ ∃ c, m.get? name = some c := by
  rw [names, List.mem_map]
  constructor
  · rintro ⟨c, hc, rfl⟩
    rw [← Option.isSome_iff_exists, get?, List.find?_isSome]
    exact ⟨c, List.mem_reverse.2 hc, by simp⟩
  · rintro ⟨c, hc⟩
    exact ⟨c, mem_classes_of_get? hc, name_of_get? hc⟩

theorem get?_eq_none_iff : m.get? name = none ↔ name ∉ m.names := by
  rw [mem_names_iff, ← Option.ne_none_iff_exists', not_not]

theorem contains_iff : m.contains name = true ↔ name ∈ m.names := by
  rw [contains, Option.isSome_iff_exists, mem_names_iff]

theorem eq_of_name_eq (hm : m.names.Nodup) {c d : ClassRecord} (hc : c ∈ m.classes)
    (hd : d ∈ m.classes) (h : c.name = d.name) : c = d :=
  List.inj_on_of_nodup_map hm hc hd h

theorem get?_eq_some_iff (hm : m.names.Nodup) :
    m.get? name = some c ↔ c ∈ m.classes ∧ c.name = name := by
  constructor
  · intro h
    exact ⟨mem_classes_of_get? h, name_of_get? h⟩
  · rintro ⟨hc, rfl⟩
    obtain ⟨d, hd⟩ := mem_names_iff.1 (List.mem_map_of_mem hc)
    rw [hd, eq_of_name_eq hm (mem_classes_of_get? hd) hc (name_of_get? hd)]

theorem eq_of_classes_eq {n : Model} (h : m.classes = n.classes) : m = n := by
  cases m
  cases n
  congr

/-- Two models without names that come twice are the same if the same is found in them. -/
theorem eq_of_get?_eq {n : Model} (hm : m.names.Nodup) (hn : n.names.Nodup)
    (h : ∀ name, m.get? name = n.get? name) : m = n := by
  have hmem : ∀ c, c ∈ m.classes ↔ c ∈ n.classes := by
    intro c
    have hfound : m.get? c.name = some c ↔ n.get? c.name = some c := by rw [h]
    rwa [get?_eq_some_iff hm, get?_eq_some_iff hn, and_iff_left rfl, and_iff_left rfl] at hfound
  have hperm : m.classes.Perm n.classes :=
    (List.perm_ext_iff_of_nodup (hm.of_map _) (hn.of_map _)).2 hmem
  -- Records that stand before each other have one name, and are therefore one record.
  refine eq_of_classes_eq (hperm.eq_of_pairwise (fun c d hc hd hle hge => ?_) m.sorted n.sorted)
  exact eq_of_name_eq hm hc ((hmem d).2 hd) (Std.le_antisymm hle hge)

theorem classes_ofList_of_sorted {classes : List ClassRecord}
    (h : classes.Pairwise (·.name ≤ ·.name)) : (ofList classes).classes = classes :=
  List.mergeSort_of_pairwise (h.imp fun {_ _} hle => decide_eq_true hle)

section Map

variable {f : ClassRecord → ClassRecord} (hf : ∀ c, (f c).name = c.name)
include hf

theorem classes_ofList_map (m : Model) : (ofList (m.classes.map f)).classes = m.classes.map f := by
  apply classes_ofList_of_sorted
  rw [List.pairwise_map]
  exact m.sorted.imp fun {c d} h => by rwa [hf c, hf d]

theorem get?_ofList_map (m : Model) (name : String) :
    (ofList (m.classes.map f)).get? name = (m.get? name).map f := by
  rw [get?, classes_ofList_map hf, ← List.map_reverse, List.find?_map]
  have hp : ((fun c : ClassRecord => decide (c.name = name)) ∘ f) =
      fun c => decide (c.name = name) := by
    funext c
    rw [Function.comp_apply, hf]
  rw [hp, get?]

theorem names_ofList_map (m : Model) : (ofList (m.classes.map f)).names = m.names := by
  rw [names, classes_ofList_map hf, List.map_map]
  exact List.map_congr_left fun c _ => hf c

variable {k : NameMap ClassRecord}
  (hk : ∀ name (c : ClassRecord), k.get? name = some c → c.name = name)
include hk

theorem map_name_values : (k.values.map f).map (·.name) = k.keys := by
  rw [NameMap.values, NameMap.keys, List.map_map, List.map_map]
  refine List.map_congr_left fun e he => ?_
  rw [Function.comp_apply, Function.comp_apply, hf]
  exact hk e.1 e.2 (NameMap.get?_eq_some_iff.2 he)

theorem classes_ofList_values : (ofList (k.values.map f)).classes = k.values.map f := by
  apply classes_ofList_of_sorted
  have hkeys := k.pairwise_keys
  rw [← map_name_values hf hk, List.pairwise_map] at hkeys
  exact hkeys.imp fun {_ _} h => Std.le_of_lt h

theorem names_ofList_values : (ofList (k.values.map f)).names = k.keys := by
  rw [names, classes_ofList_values hf hk, map_name_values hf hk]

theorem get?_ofList_values (name : String) :
    (ofList (k.values.map f)).get? name = (k.get? name).map f := by
  have hnodup : (ofList (k.values.map f)).names.Nodup := by
    rw [names_ofList_values hf hk]
    exact k.nodup_keys
  ext c
  rw [get?_eq_some_iff hnodup, classes_ofList_values hf hk, Option.map_eq_some_iff, List.mem_map]
  constructor
  · rintro ⟨⟨d, hd, rfl⟩, hname⟩
    obtain ⟨x, hx⟩ := NameMap.mem_values_iff.1 hd
    obtain rfl : x = name := by rw [← hname, hf, hk x d hx]
    exact ⟨d, hx, rfl⟩
  · rintro ⟨d, hd, rfl⟩
    exact ⟨⟨d, NameMap.mem_values_iff.2 ⟨name, hd⟩, rfl⟩, by rw [hf, hk name d hd]⟩

end Map

end CimSchema.Model
