import CimSchema.Proofs.FirstSeen
import Mathlib.Data.List.Induction

/-!
# Lists up to repetitions

What comes again in a list does not change what is collected from it, as long as collecting an
element a second time has no effect. Two lists whose distinct elements are the same, in the order in
which they came first, are then as good as each other.

## Main definitions

* `EqUpToRepeats` - lists with the same distinct elements in the same order.
* `Absorbs` - a step that has no effect for an element that was already taken in.

## Main results

* `EqUpToRepeats.foldl_eq` - what steps that absorb repetitions collect is the same.
* `EqUpToRepeats.flatMap`, `EqUpToRepeats.filter`, `EqUpToRepeats.map` - lists made of the elements.
* `EqUpToRepeats.findSome?_eq`, `EqUpToRepeats.head?_eq` - what is found first.
* `FirstSeen.eq_of_get?_eq` - two tables that hold the same are the same.
-/

namespace CimSchema

variable {α β γ : Type}

/-- A step from one state to the next that has no effect for an element that was taken in before. -/
def Absorbs (step : β → α → β) : Prop :=
  ∀ (b : β) (xs : List α) (x : α), x ∈ xs → step (xs.foldl step b) x = xs.foldl step b

section AddNew

variable [DecidableEq α] {xs ys : List α} {x : α}

theorem mem_addNew {y : α} : y ∈ addNew xs x ↔ y ∈ xs ∨ y = x := by
  rw [addNew]
  split
  · exact ⟨.inl, fun h => h.elim id fun h => h ▸ ‹x ∈ xs›⟩
  · rw [List.mem_append, List.mem_singleton]

theorem mem_foldl_addNew {y : α} : y ∈ xs.foldl addNew ys ↔ y ∈ ys ∨ y ∈ xs := by
  induction xs generalizing ys with
  | nil => simp
  | cons x xs ih => rw [List.foldl_cons, ih, mem_addNew, List.mem_cons, or_assoc]

theorem addNew_of_mem (h : x ∈ xs) : addNew xs x = xs :=
  if_pos h

theorem absorbs_addNew : Absorbs (addNew (α := α)) :=
  fun _ _ _ h => addNew_of_mem (mem_foldl_addNew.2 (.inr h))

theorem foldl_addNew_of_subset (h : ∀ y ∈ ys, y ∈ xs) : ys.foldl addNew xs = xs := by
  induction ys with
  | nil => rfl
  | cons y ys ih =>
    rw [List.foldl_cons, addNew_of_mem (h y List.mem_cons_self)]
    exact ih fun z hz => h z (List.mem_cons_of_mem y hz)

end AddNew

/-- The distinct elements of two lists are the same and came first in the same order. -/
def EqUpToRepeats [DecidableEq α] (xs ys : List α) : Prop :=
  xs.foldl addNew [] = ys.foldl addNew []

namespace EqUpToRepeats

section Basic

variable [DecidableEq α] {xs ys : List α}

theorem refl (xs : List α) : EqUpToRepeats xs xs := rfl

/-- Only the elements that came for the first time count for a step that absorbs repetitions. -/
theorem foldl_distinct {step : β → α → β} (hstep : Absorbs step) (xs : List α) (b : β) :
    (xs.foldl addNew []).foldl step b = xs.foldl step b := by
  induction xs using List.reverseRecOn with
  | nil => rfl
  | append_singleton xs x ih =>
    rw [List.foldl_concat, List.foldl_concat, addNew]
    split
    -- What comes again is dropped from the one list and absorbed from the other.
    · rename_i h
      rw [ih, hstep b xs x (by simpa using mem_foldl_addNew.1 h)]
    · rw [List.foldl_concat, ih]

theorem foldl_eq (h : EqUpToRepeats xs ys) {step : β → α → β} (hstep : Absorbs step) (b : β) :
    xs.foldl step b = ys.foldl step b := by
  rw [← foldl_distinct hstep, h, foldl_distinct hstep]

theorem mem_iff (h : EqUpToRepeats xs ys) {x : α} : x ∈ xs ↔ x ∈ ys := by
  have hdistinct := congrArg (x ∈ ·) h
  simpa [mem_foldl_addNew] using hdistinct

theorem eq_nil_iff (h : EqUpToRepeats xs ys) : xs = [] ↔ ys = [] := by
  simp only [List.eq_nil_iff_forall_not_mem, h.mem_iff]

theorem eraseDups_eq (h : EqUpToRepeats xs ys) [BEq α] [LawfulBEq α] :
    xs.eraseDups = ys.eraseDups := by
  rw [← foldl_addNew, ← foldl_addNew, h]

theorem append {xs' ys' : List α} (h : EqUpToRepeats xs ys) (h' : EqUpToRepeats xs' ys') :
    EqUpToRepeats (xs ++ xs') (ys ++ ys') := by
  rw [EqUpToRepeats, List.foldl_append, List.foldl_append, h]
  exact h'.foldl_eq absorbs_addNew _

/-- An element that comes again may be left out. -/
theorem concat_of_mem {x : α} (h : x ∈ xs) : EqUpToRepeats (xs ++ [x]) xs := by
  rw [EqUpToRepeats, List.foldl_concat]
  exact addNew_of_mem (mem_foldl_addNew.2 (.inr h))

/-! ### What is found first -/

theorem findSome?_eq (h : EqUpToRepeats xs ys) (f : α → Option β) :
    xs.findSome? f = ys.findSome? f := by
  have habsorbs : Absorbs fun (o : Option β) x => o.or (f x) := by
    intro o xs x hx
    simp only [foldl_or, Option.or_assoc]
    congr 1
    -- If nothing was found before, then not in this element either.
    cases hfound : xs.findSome? f with
    | some b => rfl
    | none => rw [List.findSome?_eq_none_iff.1 hfound x hx, Option.none_or]
  have hfold := h.foldl_eq habsorbs none
  rwa [foldl_or, foldl_or, Option.none_or, Option.none_or] at hfold

theorem head?_eq (h : EqUpToRepeats xs ys) : xs.head? = ys.head? := by
  have hfirst (xs : List α) : xs.head? = xs.findSome? some := by
    cases xs <;> rfl
  rw [hfirst, hfirst, h.findSome?_eq]

end Basic

/-! ### Lists made of the elements -/

section Made

variable [DecidableEq α] [DecidableEq β] {xs ys : List α}

theorem flatMap (h : EqUpToRepeats xs ys) (f : α → List β) :
    EqUpToRepeats (xs.flatMap f) (ys.flatMap f) := by
  have habsorbs : Absorbs fun distinct x => (f x).foldl addNew distinct := by
    intro distinct xs x hx
    rw [← List.foldl_flatMap]
    exact foldl_addNew_of_subset fun y hy =>
      mem_foldl_addNew.2 (.inr (List.mem_flatMap_of_mem hx hy))
  rw [EqUpToRepeats, List.foldl_flatMap, List.foldl_flatMap]
  exact h.foldl_eq habsorbs []

theorem filterMap (h : EqUpToRepeats xs ys) (f : α → Option β) :
    EqUpToRepeats (xs.filterMap f) (ys.filterMap f) := by
  rw [List.filterMap_eq_flatMap_toList, List.filterMap_eq_flatMap_toList]
  exact h.flatMap fun x => (f x).toList

theorem map (h : EqUpToRepeats xs ys) (f : α → β) : EqUpToRepeats (xs.map f) (ys.map f) := by
  rw [← List.filterMap_eq_map]
  exact h.filterMap (some ∘ f)

theorem filter (h : EqUpToRepeats xs ys) (p : α → Bool) :
    EqUpToRepeats (xs.filter p) (ys.filter p) := by
  rw [← List.filterMap_eq_filter]
  exact h.filterMap (Option.guard p)

end Made

end EqUpToRepeats

/-- Two tables without repeated keys that hold the same in the same order are the same. -/
theorem FirstSeen.eq_of_get?_eq [DecidableEq α] {t u : FirstSeen α β} (ht : t.keys.Nodup)
    (hkeys : t.keys = u.keys) (hget : ∀ k, t.get? k = u.get? k) : t = u := by
  have hentries : t.entries = u.entries := by
    rw [← List.filterMap_some (l := t.entries), ← List.filterMap_some (l := u.entries)]
    rw [filterMap_entries ht, filterMap_entries (hkeys ▸ ht), hkeys]
    simp only [hget]
  cases t
  cases u
  exact congrArg _ hentries

end CimSchema
