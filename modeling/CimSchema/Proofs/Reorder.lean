import CimSchema.Proofs.FirstSeen
import Mathlib.Data.List.Perm.Basic

/-!
# Lists up to the order of their elements

What is collected from the elements of a list has another order if they have, and what is found
first among them may be another value. It is the same value if no two of them contradict each other.

## Main definitions

* `PermUpTo` - lists of related elements, in any order.
* `Compatible` - optional values that do not contradict each other.

## Main results

* `PermUpTo.perm_flatMap` - what is collected from related elements.
* `permUpTo_filterMap` - what partial functions with related values give for the same elements.
* `perm_eraseDups` - removing repetitions.
* `rel_head?_of_perm`, `findSome?_perm` - what is found first where nothing is contradicted.
-/

namespace CimSchema

variable {α β γ δ : Type}

section Rel

variable {r : α → β → Prop} {s : γ → δ → Prop} {o : Option α} {o' : Option β}

theorem rel_bind (h : Option.Rel r o o') {f : α → Option γ} {g : β → Option δ}
    (hfg : ∀ x y, r x y → Option.Rel s (f x) (g y)) : Option.Rel s (o.bind f) (o'.bind g) := by
  cases h with
  | none => exact .none
  | some hxy => exact hfg _ _ hxy

theorem rel_map (h : Option.Rel r o o') {f : α → γ} {g : β → δ}
    (hfg : ∀ x y, r x y → s (f x) (g y)) : Option.Rel s (o.map f) (o'.map g) := by
  cases h with
  | none => exact .none
  | some hxy => exact .some (hfg _ _ hxy)

theorem rel_filter (h : Option.Rel r o o') {p : α → Bool} {q : β → Bool}
    (hpq : ∀ x y, r x y → p x = q y) : Option.Rel r (o.filter p) (o'.filter q) := by
  cases h with
  | none => exact .none
  | some hxy =>
    rw [Option.filter_some, Option.filter_some, hpq _ _ hxy]
    split
    · exact .some hxy
    · exact .none

theorem map_eq_of_rel (h : Option.Rel r o o') {f : α → γ} {g : β → γ}
    (hfg : ∀ x y, r x y → f x = g y) : o.map f = o'.map g := by
  cases h with
  | none => rfl
  | some hxy => exact congrArg some (hfg _ _ hxy)

theorem bind_eq_of_rel (h : Option.Rel r o o') {f : α → Option γ} {g : β → Option γ}
    (hfg : ∀ x y, r x y → f x = g y) : o.bind f = o'.bind g := by
  cases h with
  | none => rfl
  | some hxy => exact hfg _ _ hxy

theorem eq_of_rel {r : α → α → Prop} {o o' : Option α} (h : Option.Rel r o o')
    (heq : ∀ x y, r x y → y = x) : o' = o := by
  cases h with
  | none => rfl
  | some hxy => exact congrArg some (heq _ _ hxy)

variable {xs : List α} {ys : List β}

/-- What is found first among related values. -/
theorem rel_findSome? (h : List.Forall₂ r xs ys) {f : α → Option γ} {g : β → Option δ}
    (hfg : ∀ x y, r x y → Option.Rel s (f x) (g y)) :
    Option.Rel s (xs.findSome? f) (ys.findSome? g) := by
  induction h with
  | nil => exact .none
  | @cons x y xs ys hxy _ ih =>
    rw [findSome?_cons_eq_or, findSome?_cons_eq_or]
    have hfound := hfg x y hxy
    generalize f x = o at hfound ⊢
    generalize g y = o' at hfound ⊢
    cases hfound with
    | none => exact ih
    | some hrel => exact .some hrel

theorem filterMap_eq_of_forall₂ (h : List.Forall₂ r xs ys) {f : α → Option γ} {g : β → Option γ}
    (hfg : ∀ x y, r x y → f x = g y) : xs.filterMap f = ys.filterMap g := by
  induction h with
  | nil => rfl
  | cons hxy _ ih => rw [List.filterMap_cons, List.filterMap_cons, hfg _ _ hxy, ih]

theorem findSome?_eq_of_forall₂ (h : List.Forall₂ r xs ys) {f : α → Option γ} {g : β → Option γ}
    (hfg : ∀ x y, r x y → f x = g y) : xs.findSome? f = ys.findSome? g := by
  rw [← List.head?_filterMap, ← List.head?_filterMap, filterMap_eq_of_forall₂ h hfg]

end Rel

section PermUpTo

variable {r : α → β → Prop} {xs : List α} {ys : List β}

/-- The elements of `ys`, in some order, are related to those of `xs`. -/
def PermUpTo (r : α → β → Prop) (xs : List α) (ys : List β) : Prop :=
  ∃ zs, xs.Perm zs ∧ List.Forall₂ r zs ys

theorem PermUpTo.perm_flatMap (h : PermUpTo r xs ys) {f : α → List γ} {g : β → List γ}
    (hfg : ∀ x y, r x y → (f x).Perm (g y)) : (xs.flatMap f).Perm (ys.flatMap g) := by
  obtain ⟨zs, hperm, hforall⟩ := h
  have hcollected : (zs.flatMap f).Perm (ys.flatMap g) := by
    clear hperm
    induction hforall with
    | nil => exact .nil
    | cons hxy _ ih =>
      rw [List.flatMap_cons, List.flatMap_cons]
      exact (hfg _ _ hxy).append ih
  exact (hperm.flatMap_right f).trans hcollected

theorem permUpTo_filterMap {keys keys' : List γ} (h : keys.Perm keys') {f : γ → Option α}
    {g : γ → Option β} (hfg : ∀ key, Option.Rel r (f key) (g key)) :
    PermUpTo r (keys.filterMap f) (keys'.filterMap g) := by
  refine ⟨keys'.filterMap f, h.filterMap f, ?_⟩
  refine List.rel_filterMap (R := Eq) ?_ (List.forall₂_eq_eq_eq ▸ rfl)
  rintro key _ rfl
  exact hfg key

end PermUpTo

theorem perm_eraseDups [DecidableEq α] [BEq α] [LawfulBEq α] {xs ys : List α} (h : xs.Perm ys) :
    xs.eraseDups.Perm ys.eraseDups := by
  refine (List.perm_ext_iff_of_nodup (nodup_eraseDups xs) (nodup_eraseDups ys)).2 fun x => ?_
  rw [List.mem_eraseDups, List.mem_eraseDups, h.mem_iff]

/-! ### What is found first -/

section First

variable {r : α → α → Prop} {xs ys : List α} {f : α → Option β}

theorem rel_head?_of_perm (h : xs.Perm ys) (hr : ∀ x ∈ xs, ∀ y ∈ xs, r x y) :
    Option.Rel r xs.head? ys.head? := by
  cases xs with
  | nil =>
    rw [← h.nil_eq]
    exact .none
  | cons x xs =>
    cases ys with
    | nil => exact absurd h.symm.nil_eq (List.cons_ne_nil x xs).symm
    | cons y ys => exact .some (hr x List.mem_cons_self y (h.mem_iff.2 List.mem_cons_self))

/-- Two optional values do not contradict each other: if both are given they are the same. -/
def Compatible (o o' : Option β) : Prop :=
  ∀ a ∈ o, ∀ b ∈ o', a = b

instance [DecidableEq β] (o o' : Option β) : Decidable (Compatible o o') :=
  inferInstanceAs (Decidable (∀ a ∈ o, ∀ b ∈ o', a = b))

theorem findSome?_eq_some_iff (hf : ∀ x ∈ xs, ∀ y ∈ xs, Compatible (f x) (f y)) {b : β} :
    xs.findSome? f = some b ↔ ∃ x ∈ xs, f x = some b := by
  constructor
  · exact List.exists_of_findSome?_eq_some
  · rintro ⟨x, hx, hxb⟩
    cases hfound : xs.findSome? f with
    | none =>
      rw [List.findSome?_eq_none_iff.1 hfound x hx] at hxb
      cases hxb
    | some c =>
      obtain ⟨y, hy, hyc⟩ := List.exists_of_findSome?_eq_some hfound
      rw [hf y hy x hx c hyc b hxb]

/-- What is found first among elements that do not contradict each other does not depend on their
order. -/
theorem findSome?_perm (h : xs.Perm ys) (hf : ∀ x ∈ xs, ∀ y ∈ xs, Compatible (f x) (f y)) :
    xs.findSome? f = ys.findSome? f := by
  have hf' : ∀ x ∈ ys, ∀ y ∈ ys, Compatible (f x) (f y) := by
    intro x hx y hy
    exact hf x (h.mem_iff.2 hx) y (h.mem_iff.2 hy)
  ext b
  rw [findSome?_eq_some_iff hf, findSome?_eq_some_iff hf']
  simp only [h.mem_iff]

end First

end CimSchema
