/-!
# Names not yet seen

A walk over finitely many names ends because each step marks a name as seen. The number of names
that are not yet seen is the measure of such a walk.

## Main definitions

* `unseen` - how many of some names are not seen yet.

## Main results

* `unseen_cons_lt` - marking a name lowers the measure.
* `unseen_append_add_length_le` - marking several names lowers it by their number.
-/

namespace CimSchema

/-- How many of `names` are not among `seen`. -/
def unseen (names seen : List String) : Nat :=
  names.countP (decide <| · ∉ seen)

theorem unseen_cons_le (names seen : List String) (name : String) :
    unseen names (name :: seen) ≤ unseen names seen :=
  List.countP_mono_left (by simp)

theorem unseen_cons_lt {names seen : List String} {name : String} (hn : name ∈ names)
    (hs : name ∉ seen) : unseen names (name :: seen) < unseen names seen := by
  induction names with
  | nil => simp at hn
  | cons k names ih =>
    have hle := unseen_cons_le names seen name
    simp only [unseen, List.countP_cons] at hle ih ⊢
    by_cases hk : k = name
    · rw [if_neg (by simp [hk]), if_pos (by simp [hk, hs])]
      exact Nat.lt_succ_of_le hle
    · have := ih (by simpa [Ne.symm hk] using hn)
      by_cases hks : k ∈ seen
      · rwa [if_neg (by simp [hks]), if_neg (by simp [hks])]
      · rw [if_pos (by simp [hk, hks]), if_pos (by simp [hks])]
        exact Nat.succ_lt_succ this

theorem unseen_append_add_length_le {names seen fresh : List String} (hf : fresh.Nodup)
    (hn : ∀ x ∈ fresh, x ∈ names) (hs : ∀ x ∈ fresh, x ∉ seen) :
    unseen names (fresh ++ seen) + fresh.length ≤ unseen names seen := by
  induction fresh with
  | nil => simp
  | cons x fresh ih =>
    have hx := List.nodup_cons.1 hf
    have h1 := ih hx.2 (fun y hy => hn y (by simp [hy])) (fun y hy => hs y (by simp [hy]))
    have h2 : unseen names (x :: (fresh ++ seen)) < unseen names (fresh ++ seen) :=
      unseen_cons_lt (hn x (by simp)) (by simp [hx.1, hs x (by simp)])
    simp only [List.cons_append, List.length_cons]
    omega

end CimSchema
