import CimSchema.Text.Blank
import Mathlib.Data.List.TakeWhile

/-!
# Text without the blanks at its two ends

## Main definitions

* `Text.Trims` - one text is another without the blanks at its two ends.
* `Text.Pads` - one text is another with blanks put at its two ends.

## Main results

* `Text.trims_trim` - trimming leaves out the blanks at the two ends and nothing else.
* `Text.Pads.trim_eq` - trimming takes off what was put there.
-/

namespace CimSchema.Text

variable {cs : List Char} {c : Char}

/-- `text` is `s` without the blanks at its two ends. -/
structure Trims (s text : String) : Prop where
  /-- What is left out stands at the two ends and is blank. -/
  ends : ∃ lead trail, s.toList = lead ++ text.toList ++ trail ∧
    (∀ c ∈ lead, isBlank c = true) ∧ ∀ c ∈ trail, isBlank c = true
  /-- What is left does not start with a blank. -/
  first : ∀ c ∈ text.toList.head?, isBlank c = false
  /-- What is left does not end with a blank. -/
  last : ∀ c ∈ text.toList.getLast?, isBlank c = false

theorem trimEndList_append (cs : List Char) :
    ∃ trail, cs = trimEndList cs ++ trail ∧ ∀ c ∈ trail, isBlank c = true := by
  induction cs with
  | nil => exact ⟨[], rfl, fun c hc => absurd hc List.not_mem_nil⟩
  | cons c cs ih =>
    obtain ⟨trail, heq, htrail⟩ := ih
    rw [trimEndList]
    cases hrest : trimEndList cs with
    | cons d ds => exact ⟨trail, by rw [List.cons_append, ← hrest, ← heq], htrail⟩
    | nil =>
      -- Everything behind `c` is blank.
      rw [hrest, List.nil_append] at heq
      subst heq
      cases hc : isBlank c with
      | true => exact ⟨c :: cs, rfl, List.forall_mem_cons.2 ⟨hc, htrail⟩⟩
      | false => exact ⟨cs, rfl, htrail⟩

theorem not_isBlank_of_mem_getLast?_trimEndList (h : c ∈ (trimEndList cs).getLast?) :
    isBlank c = false := by
  induction cs with
  | nil => cases h
  | cons d ds ih =>
    rw [trimEndList] at h
    cases hrest : trimEndList ds with
    | cons e es =>
      rw [hrest] at h ih
      exact ih h
    | nil =>
      rw [hrest] at h
      cases hd : isBlank d with
      | true => simp [hd] at h
      | false =>
        simp only [hd, Bool.false_eq_true, if_false, List.getLast?_singleton,
          Option.mem_some_iff] at h
        rw [← h, hd]

/-- Trimming leaves out the blanks at the two ends and nothing else. -/
theorem trims_trim (s : String) : Trims s (trim s) where
  ends := by
    obtain ⟨trail, heq, htrail⟩ := trimEndList_append (s.toList.dropWhile isBlank)
    refine ⟨s.toList.takeWhile isBlank, trail, ?_, fun c hc => List.mem_takeWhile_imp hc, htrail⟩
    rw [trim, String.toList_ofList, trimList, List.append_assoc, ← heq,
      List.takeWhile_append_dropWhile]
  first c hc := by
    obtain ⟨trail, heq, -⟩ := trimEndList_append (s.toList.dropWhile isBlank)
    rw [trim, String.toList_ofList, trimList, Option.mem_def] at hc
    have hfirst : (s.toList.dropWhile isBlank).head? = some c := by
      rw [heq, List.head?_append, hc, Option.some_or]
    have hstop := List.head?_dropWhile_not isBlank s.toList
    rw [hfirst] at hstop
    exact hstop
  last c hc := by
    rw [trim, String.toList_ofList, trimList] at hc
    exact not_isBlank_of_mem_getLast?_trimEndList hc

/-! ### Blanks put at the ends -/

/-- `t` is `s` with blanks put at its two ends. -/
def Pads (s t : String) : Prop :=
  ∃ lead trail, t.toList = lead ++ s.toList ++ trail ∧
    (∀ c ∈ lead, isBlank c = true) ∧ ∀ c ∈ trail, isBlank c = true

theorem Pads.refl (s : String) : Pads s s :=
  ⟨[], [], by simp, nofun, nofun⟩

theorem trimEndList_of_blank (h : ∀ c ∈ cs, isBlank c = true) : trimEndList cs = [] := by
  induction cs with
  | nil => rfl
  | cons c cs ih =>
    obtain ⟨hc, hcs⟩ := List.forall_mem_cons.1 h
    rw [trimEndList, ih hcs]
    exact if_pos hc

theorem trimEndList_append_of_blank {trail : List Char} (h : ∀ c ∈ trail, isBlank c = true)
    (cs : List Char) : trimEndList (cs ++ trail) = trimEndList cs := by
  induction cs with
  | nil => exact trimEndList_of_blank h
  | cons c cs ih => rw [List.cons_append, trimEndList, trimEndList, ih]

theorem trimList_append {lead trail : List Char} (hlead : ∀ c ∈ lead, isBlank c = true)
    (htrail : ∀ c ∈ trail, isBlank c = true) (cs : List Char) :
    trimList (lead ++ cs ++ trail) = trimList cs := by
  rw [trimList, trimList, List.append_assoc, List.dropWhile_append_of_pos hlead,
    List.dropWhile_append]
  split
  · -- Nothing but blanks is left out of a blank text.
    rename_i hempty
    have hnil : trail.dropWhile isBlank = [] := List.dropWhile_eq_nil_iff.2 htrail
    rw [hnil, List.isEmpty_iff.1 hempty]
  · exact trimEndList_append_of_blank htrail _

/-- Trimming takes off the blanks that were put at the ends. -/
theorem Pads.trim_eq {s t : String} (h : Pads s t) : trim t = trim s := by
  obtain ⟨lead, trail, heq, hlead, htrail⟩ := h
  rw [trim, heq, trimList_append hlead htrail, trim]

end CimSchema.Text
