import CimSchema.Proofs.Files.Path
import Mathlib.Data.List.Lex
import Mathlib.Data.List.Sort

/-!
# The order of paths

Paths are compared step by step, and not letter by letter as they are spelled: `a/x` comes before
`a-b/x`, though a slash comes after a hyphen. Sorting paths and leaving out the neighbours that
repeat a path gives a list in which each path comes before those after it. If no path has two
spellings, the list says which paths there are and nothing else.

## Main definitions

* `Path.Before` - the order of two paths that are not the same.
* `Path.SameFiles` - two lists with the same paths, each of which is spelled in one way.

## Main results

* `stepsLe_iff` - the comparison that sorts decides the order of paths.
* `Path.pairwise_sortDistinct` - distinct paths are in order.
* `Path.SameFiles.sortDistinct_eq` - lists with the same paths have the same distinct paths.
-/

namespace CimSchema

/-! ### Steps -/

namespace PathStep

variable {s t u : PathStep}

theorem before_trans (hst : s.before t = true) (htu : t.before u = true) : s.before u = true := by
  cases s <;> cases t <;> cases u
  -- Only names are compared by more than their kind.
  case named.named.named =>
    exact decide_eq_true (String.lt_trans (of_decide_eq_true hst) (of_decide_eq_true htu))
  all_goals simp_all [before, rank]

instance : Std.Asymm fun s t : PathStep => s.before t = true where
  asymm s t hst hts := by
    cases s <;> cases t
    case named.named => exact String.lt_asymm (of_decide_eq_true hst) (of_decide_eq_true hts)
    all_goals simp_all [before, rank]

instance : Std.Trichotomous fun s t : PathStep => s.before t = true where
  trichotomous s t hst hts := by
    cases s <;> cases t
    case named.named =>
      have hle := String.not_lt.1 fun h => hts (decide_eq_true h)
      have hge := String.not_lt.1 fun h => hst (decide_eq_true h)
      exact congrArg named (String.le_antisymm hle hge)
    all_goals simp_all [before, rank]

end PathStep

theorem stepsLe_iff {ss ts : List PathStep} :
    stepsLe ss ts = true ↔ ss = ts ∨ List.Lex (fun s t => s.before t = true) ss ts := by
  induction ss generalizing ts with
  | nil =>
    rw [stepsLe]
    exact iff_of_true rfl ((List.lex_nil_or_eq_nil ts).symm.imp_left Eq.symm)
  | cons s ss ih =>
    cases ts with
    | nil => exact iff_of_false Bool.false_ne_true (by rintro (h | h) <;> cases h)
    | cons t ts =>
      rw [stepsLe, Bool.or_eq_true, Bool.and_eq_true, decide_eq_true_iff, ih]
      constructor
      · rintro (hst | ⟨rfl, rfl | hlex⟩)
        · exact .inr (.rel hst)
        · exact .inl rfl
        · exact .inr (.cons hlex)
      · rintro (heq | hst | hst | hlex)
        · obtain ⟨rfl, rfl⟩ := List.cons.inj heq
          exact .inr ⟨rfl, .inl rfl⟩
        · exact .inl hst
        · exact .inr ⟨rfl, .inr hlex⟩

/-! ### Paths -/

namespace Path

variable {p q r : Path} {ps qs : List Path}

/-- At the first step where the paths differ, the step of `p` comes before that of `q`, or `p` ends
there. -/
def Before (p q : Path) : Prop :=
  List.Lex (fun s t => s.before t = true) p.steps q.steps

instance : DecidableRel Before := fun p q =>
  inferInstanceAs (Decidable (List.Lex (fun s t => s.before t = true) p.steps q.steps))

instance : Std.Asymm Before where
  asymm p q hpq hqp :=
    Std.Asymm.asymm (r := List.Lex fun s t : PathStep => s.before t = true) p.steps q.steps hpq hqp

theorem Before.trans (hpq : Before p q) (hqr : Before q r) : Before p r :=
  List.lex_trans PathStep.before_trans hpq hqr

theorem le_iff : le p q = true ↔ same p q = true ∨ Before p q :=
  stepsLe_iff.trans (or_congr_left (decide_eq_true_iff).symm)

/-- A name ends before the hyphen that makes it longer, whatever comes after a slash. -/
example : le ⟨"a/x"⟩ ⟨"a-b/x"⟩ = true ∧ Before ⟨"a/x"⟩ ⟨"a-b/x"⟩ ∧ "a-b/x" < "a/x" := by
  decide +kernel

theorem le_trans (p q r : Path) (hpq : le p q = true) (hqr : le q r = true) : le p r = true := by
  rw [le, stepsLe_iff] at *
  rcases hpq with hpq | hpq
  · rwa [hpq]
  · rcases hqr with hqr | hqr
    · rw [← hqr]
      exact .inr hpq
    · exact .inr (Before.trans hpq hqr)

theorem le_total (p q : Path) : (le p q || le q p) = true := by
  rw [Bool.or_eq_true, le, le, stepsLe_iff, stepsLe_iff]
  by_cases hpq : Before p q
  · exact .inl (.inr hpq)
  · by_cases hqp : Before q p
    · exact .inr (.inr hqp)
    · exact .inl (.inl (Std.Trichotomous.trichotomous _ _ hpq hqp))

end Path

/-! ### Sorted paths without repetitions -/

section EraseReps

variable {α : Type} {same : α → α → Bool} {before : α → α → Prop}

/-- In a sorted list, repetitions are neighbours. The elements that were kept come before the one
that is compared next, and this one before all that do not repeat it. -/
theorem pairwise_eraseRepsBy_loop (htrans : ∀ x y z, before x y → before y z → before x z)
    {x : α} {xs done : List α}
    (hsorted : (x :: xs).Pairwise fun y z => same y z = true ∨ before y z)
    (hdone : (x :: done).Pairwise fun y z => before z y) :
    (List.eraseRepsBy.loop same x xs done).Pairwise before := by
  induction xs generalizing x done with
  | nil =>
    rw [List.eraseRepsBy.loop]
    exact List.pairwise_reverse.2 hdone
  | cons y ys ih =>
    rw [List.eraseRepsBy.loop]
    obtain ⟨hx, hys⟩ := List.pairwise_cons.1 hsorted
    cases hsame : same x y with
    | true =>
      have hskip : (x :: ys).Pairwise fun y z => same y z = true ∨ before y z :=
        List.pairwise_cons.2 ⟨fun z hz => hx z (.tail _ hz), (List.pairwise_cons.1 hys).2⟩
      exact ih hskip hdone
    | false =>
      -- The element before is kept, and all that was kept comes before the new one.
      have hxy : before x y := (hx y (.head _)).resolve_left (Bool.eq_false_iff.1 hsame)
      refine ih hys (List.pairwise_cons.2 ⟨?_, hdone⟩)
      rintro z (_ | ⟨_, hz⟩)
      · exact hxy
      · exact htrans z x y ((List.pairwise_cons.1 hdone).1 z hz) hxy

theorem mem_of_mem_eraseRepsBy_loop {x y : α} {xs done : List α}
    (h : y ∈ List.eraseRepsBy.loop same x xs done) : y ∈ done ∨ y ∈ x :: xs := by
  induction xs generalizing x done with
  | nil =>
    rw [List.eraseRepsBy.loop, List.mem_reverse, List.mem_cons] at h
    exact h.symm.imp_right List.mem_singleton.2
  | cons x' xs ih =>
    rw [List.eraseRepsBy.loop] at h
    split at h
    · exact (ih h).imp_right fun hy => List.cons_subset_cons _ (List.subset_cons_self _ _) hy
    · rcases ih h with (_ | ⟨_, hy⟩) | hy
      · exact .inr (.head _)
      · exact .inl hy
      · exact .inr (.tail _ hy)

end EraseReps

namespace Path

variable {p q : Path} {ps qs : List Path}

/-- Distinct paths are in order. -/
theorem pairwise_sortDistinct (ps : List Path) : (sortDistinct ps).Pairwise Before := by
  have hle : (sort ps).Pairwise fun p q => le p q = true :=
    List.pairwise_mergeSort le_trans le_total ps
  have hsorted : (sort ps).Pairwise fun p q => same p q = true ∨ Before p q :=
    hle.imp fun h => le_iff.1 h
  rw [sortDistinct]
  cases hps : sort ps with
  | nil => exact .nil
  | cons p ps =>
    rw [hps] at hsorted
    rw [List.eraseRepsBy]
    refine pairwise_eraseRepsBy_loop ?_ hsorted (List.pairwise_singleton _ p)
    exact fun _ _ _ => Before.trans

theorem mem_of_mem_sortDistinct (h : p ∈ sortDistinct ps) : p ∈ ps := by
  refine List.mem_mergeSort.1 (show p ∈ sort ps from ?_)
  rw [sortDistinct] at h
  cases hps : sort ps with
  | nil =>
    rw [hps] at h
    cases h
  | cons q qs =>
    rw [hps] at h
    exact (mem_of_mem_eraseRepsBy_loop h).resolve_left List.not_mem_nil

/-- Two lists have the same paths, in any order and as often as they like, and no path is spelled in
two ways. -/
structure SameFiles (ps qs : List Path) : Prop where
  subset : ps ⊆ qs
  superset : qs ⊆ ps
  spelled : ∀ p ∈ ps, ∀ q ∈ ps, p.same q = true → p = q

namespace SameFiles

theorem symm (h : SameFiles ps qs) : SameFiles qs ps where
  subset := h.superset
  superset := h.subset
  spelled p hp q hq := h.spelled p (h.superset hp) q (h.superset hq)

/-- The paths of a list are its distinct paths, if each is spelled in one way. -/
theorem mem_sortDistinct_iff (h : SameFiles ps qs) : p ∈ sortDistinct ps ↔ p ∈ ps := by
  refine ⟨mem_of_mem_sortDistinct, fun hp => ?_⟩
  -- What stands for the path among the distinct ones is spelled as the path itself.
  obtain ⟨q, hq, hsame⟩ := exists_mem_sortDistinct hp
  rwa [← h.spelled q (mem_of_mem_sortDistinct hq) p hp hsame]

/-- **Sorted distinct paths are a normal form.** They are the same for lists with the same paths. -/
theorem sortDistinct_eq (h : SameFiles ps qs) : sortDistinct ps = sortDistinct qs := by
  refine (pairwise_sortDistinct ps).eq_of_mem_iff (pairwise_sortDistinct qs) fun p => ?_
  rw [h.mem_sortDistinct_iff, h.symm.mem_sortDistinct_iff]
  exact ⟨fun hp => h.subset hp, fun hp => h.superset hp⟩

end SameFiles

end Path

end CimSchema
