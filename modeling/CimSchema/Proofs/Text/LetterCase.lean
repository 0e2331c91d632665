import CimSchema.Text.LetterCase

/-!
# Upper-case forms

## Main results

* `Text.upperChar_ne_nil` - every character has an upper-case form.
* `Text.underscore_not_mem_upperChar` - only the underscore has an upper-case form with one.
-/

namespace CimSchema.Text

theorem mem_upperLong_of_lookup {n : Nat} {image : List Nat}
    (h : upperLong.lookup n = some image) : (n, image) ∈ upperLong := by
  obtain ⟨before, after, htable, -⟩ := List.lookup_eq_some_iff.1 h
  rw [htable]
  exact List.mem_append_right before List.mem_cons_self

/-- Every character has an upper-case form. -/
theorem upperChar_ne_nil (c : Char) : upperChar c ≠ [] := by
  have hlong : ∀ e ∈ upperLong, e.2 ≠ [] := by decide +kernel
  rw [upperChar]
  split
  · rename_i image hlookup
    exact mt List.map_eq_nil_iff.1 (hlong _ (mem_upperLong_of_lookup hlookup))
  · split <;> exact List.cons_ne_nil _ _

theorem eq_of_ofNat_eq_underscore {n : Nat} (h : Char.ofNat n = '_') : n = 95 := by
  rw [Char.ofNat] at h
  by_cases hvalid : n.isValidChar
  · rw [dif_pos hvalid] at h
    exact congrArg Char.toNat h
  · rw [dif_neg hvalid] at h
    exact absurd h (by decide)

/-- Only the underscore has an upper-case form with one. -/
theorem underscore_not_mem_upperChar {c : Char} (h : c ≠ '_') : '_' ∉ upperChar c := by
  -- The number of the underscore is among none of the images of the tables.
  have hlong : ∀ e ∈ upperLong, '_' ∉ e.2.map Char.ofNat := by decide +kernel
  have hruns : ∀ run ∈ upperRuns,
      run.image + (run.last - run.first) < 95 ∨ 95 < run.image := by decide +kernel
  rw [upperChar]
  split
  · rename_i image hlookup
    exact hlong _ (mem_upperLong_of_lookup hlookup)
  · split
    · rename_i image hfound
      obtain ⟨run, hrun, himage⟩ := List.exists_of_findSome?_eq_some hfound
      rw [CaseRun.image?] at himage
      split at himage
      · rename_i hrange
        simp only [Bool.and_eq_true, decide_eq_true_iff] at hrange
        intro hmem
        have hnumber := eq_of_ofNat_eq_underscore (List.mem_singleton.1 hmem).symm
        have := Option.some.inj himage
        have := hruns run hrun
        omega
      · cases himage
    · intro hmem
      exact h (List.mem_singleton.1 hmem).symm

end CimSchema.Text
