import CimSchema.Error
import Mathlib.Data.List.Forall2

/-!
# Outcomes and their errors

## Main results

* `map_eq_ok_iff`, `map_eq_error_iff` - the outcome of a step whose result is changed.
* `toOption_eq_some_iff` - the outcome of a step whose error is dropped.
* `forall₂_results` - what is kept of outcomes that are all results.
* `mapM_eq_ok_iff`, `mapM_eq_error_iff` - the outcome of one step after the other.
* `Error.leaves_ofList` - what stands in the error that was made of a list.
* `Error.flatMap_leaves_leaves` - single errors stand for themselves.
-/

namespace CimSchema

section Map

variable {ε α β : Type} {f : α → β} {x : Except ε α}

theorem map_eq_ok_iff {b : β} : x.map f = .ok b ↔ ∃ a, x = .ok a ∧ f a = b := by
  cases x with
  | error e => simp [Except.map]
  | ok a => simp [Except.map]

theorem map_eq_error_iff {e : ε} : x.map f = .error e ↔ x = .error e := by
  cases x with
  | error e' => simp [Except.map]
  | ok a => simp [Except.map]

theorem toOption_eq_some_iff {a : α} : x.toOption = some a ↔ x = .ok a := by
  cases x with
  | error e => simp [Except.toOption]
  | ok b => simp [Except.toOption]

theorem exists_of_isOk (h : x.isOk = true) : ∃ a, x = .ok a := by
  cases x with
  | error e => cases h
  | ok a => exact ⟨a, rfl⟩

end Map

/-- What stands in one of two related lists has its counterpart in the other. -/
theorem exists_left_of_mem {α β : Type} {r : α → β → Prop} {xs : List α} {ys : List β}
    (h : List.Forall₂ r xs ys) {y : β} (hy : y ∈ ys) : ∃ x ∈ xs, r x y := by
  induction h with
  | nil => cases hy
  | cons hr _ ih =>
    rcases List.mem_cons.1 hy with rfl | hy
    · exact ⟨_, .head _, hr⟩
    · obtain ⟨x, hx, hr⟩ := ih hy
      exact ⟨x, .tail _ hx, hr⟩

/-- Where all outcomes are results, what is kept of them are these results in order. -/
theorem forall₂_results {ε α β : Type} {f : α → Except ε β} {result? : Except ε β → Option β}
    {xs : List α} (hresult : ∀ y, result? (.ok y) = some y) (h : ∀ x ∈ xs, ∃ y, f x = .ok y) :
    List.Forall₂ (fun x y => f x = .ok y) xs ((xs.map f).filterMap result?) := by
  induction xs with
  | nil => exact .nil
  | cons x xs ih =>
    obtain ⟨⟨y, hy⟩, hxs⟩ := List.forall_mem_cons.1 h
    rw [List.map_cons, hy, List.filterMap_cons_some (hresult y)]
    exact .cons hy (ih hxs)

section MapM

variable {ε α β : Type} {f : α → Except ε β} {xs : List α}

/-- Steps one after the other work if each of them does. -/
theorem mapM_eq_ok_iff {ys : List β} :
    xs.mapM f = .ok ys ↔ List.Forall₂ (fun x y => f x = .ok y) xs ys := by
  induction xs generalizing ys with
  | nil => cases ys <;> simp [pure, Except.pure]
  | cons x xs ih =>
    rw [List.mapM_cons]
    cases hx : f x with
    | error e => cases ys <;> simp [hx, bind, Except.bind]
    | ok y =>
      cases hxs : xs.mapM f <;> cases ys <;>
        simp [hx, hxs, ← ih, bind, Except.bind, pure, Except.pure]

theorem mapM_cons_eq_error_iff {x : α} {e : ε} :
    (x :: xs).mapM f = .error e ↔
      f x = .error e ∨ (∃ y, f x = .ok y) ∧ xs.mapM f = .error e := by
  rw [List.mapM_cons]
  cases f x <;> cases xs.mapM f <;> simp [bind, Except.bind, pure, Except.pure]

/-- Steps one after the other fail with the error of the first that does. -/
theorem mapM_eq_error_iff {e : ε} :
    xs.mapM f = .error e ↔
      ∃ before x after, xs = before ++ x :: after ∧ (∀ y ∈ before, ∃ b, f y = .ok b) ∧
        f x = .error e := by
  induction xs with
  | nil => simp [pure, Except.pure]
  | cons x xs ih =>
    rw [mapM_cons_eq_error_iff, ih]
    constructor
    · rintro (hx | ⟨hx, before, y, after, rfl, hbefore, hy⟩)
      · exact ⟨[], x, xs, rfl, nofun, hx⟩
      · exact ⟨x :: before, y, after, rfl, List.forall_mem_cons.2 ⟨hx, hbefore⟩, hy⟩
    · rintro ⟨before, y, after, hxs, hbefore, hy⟩
      cases before with
      | nil =>
        obtain ⟨rfl, -⟩ := List.cons.inj hxs
        exact .inl hy
      | cons z before =>
        obtain ⟨rfl, rfl⟩ := List.cons.inj hxs
        obtain ⟨hx, hbefore⟩ := List.forall_mem_cons.1 hbefore
        exact .inr ⟨hx, before, y, after, rfl, hbefore, hy⟩

/-- Related steps one after the other have the same outcome if each two of them do. -/
theorem mapM_eq_of_forall₂ {γ : Type} {r : α → γ → Prop} {ys : List γ} (h : List.Forall₂ r xs ys)
    {g : γ → Except ε β} (hfg : ∀ x y, r x y → f x = g y) : xs.mapM f = ys.mapM g := by
  induction h with
  | nil => rfl
  | cons hxy _ ih => rw [List.mapM_cons, List.mapM_cons, hfg _ _ hxy, ih]

end MapM

namespace Error

theorem leavesList_eq_flatMap (errors : List Error) :
    leavesList errors = errors.flatMap leaves := by
  induction errors with
  | nil => rw [leavesList, List.flatMap_nil]
  | cons e errors ih => rw [leavesList, ih, List.flatMap_cons]

/-- What stands in the error that was made of a list, if one was made. -/
theorem leaves_ofList (errors : List Error) :
    match ofList errors with
    | .ok _ => errors = []
    | .error e => errors ≠ [] ∧ e.leaves = errors.flatMap leaves := by
  match errors with
  | [] => rfl
  | [e] => simp [ofList]
  | e :: e' :: errors =>
    rw [ofList]
    · exact ⟨List.cons_ne_nil _ _, by rw [leaves, leavesList_eq_flatMap]⟩
    all_goals simp

mutual

/-- Single errors stand for themselves. -/
theorem flatMap_leaves_leaves (e : Error) : e.leaves.flatMap leaves = e.leaves := by
  cases e with
  | multiple errors =>
    rw [leaves]
    exact flatMap_leaves_leavesList errors
  | malformedSchema | cyclicInheritance | unresolvedReference | unmappedType | unknownLanguage
  | profile | config | io | serialization | generation => rfl

theorem flatMap_leaves_leavesList (errors : List Error) :
    (leavesList errors).flatMap leaves = leavesList errors := by
  cases errors with
  | nil => rfl
  | cons e errors =>
    rw [leavesList, List.flatMap_append, flatMap_leaves_leaves e, flatMap_leaves_leavesList errors]

end

theorem eq_nil_of_ofList {errors : List Error} {u : Unit} (h : ofList errors = .ok u) :
    errors = [] := by
  have := leaves_ofList errors
  rwa [h] at this

end Error

end CimSchema
