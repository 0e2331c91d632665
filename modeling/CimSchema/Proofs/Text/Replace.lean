import CimSchema.Text.Segment
import Mathlib.Data.List.Infix

/-!
# Texts in which a place is filled

A text is read from the left, and what is put into a place is not read again. So places are told
apart where the parts between them hold none, and a character that no place has keeps a place from
reaching over it.

## Main results

* `Text.holds_iff` - one text occurs in another.
* `Text.replaceFrom_append_cons` - what stands in front of a separator and holds no place is kept.
* `Text.replaceFrom_append_of_not_mem` - what does not have the first character of a place is kept.
* `Text.replaceFrom_append_self` - a place at the start is filled.
-/

namespace CimSchema.Text

variable {old new before after cs : List Char} {sep c : Char}

theorem holdsList_iff {part cs : List Char} : holdsList part cs = true ↔ part <:+: cs := by
  induction cs with
  | nil => rw [holdsList, List.isEmpty_iff, List.infix_nil]
  | cons c cs ih =>
    rw [holdsList, Bool.or_eq_true, List.isPrefixOf_iff_prefix, ih, List.infix_cons_iff]

/-- One text occurs in another if it stands between two parts of it. -/
theorem holds_iff {part s : String} : holds part s = true ↔ part.toList <:+: s.toList :=
  holdsList_iff

/-- No place starts at another character than its first. -/
theorem not_starts_of_ne {first : Char} (hfirst : old.head? = some first) (hc : first ≠ c) :
    ¬ old <+: c :: cs := by
  obtain ⟨rest, rfl⟩ := List.head?_eq_some_iff.1 hfirst
  exact fun h => hc (List.cons_prefix_cons.1 h).1

/-- A place that does not have the separator does not reach over it. -/
theorem prefix_of_prefix_append_cons (hsep : sep ∉ old) (h : old <+: before ++ sep :: after) :
    old <+: before := by
  rcases List.prefix_or_prefix_of_prefix h (List.prefix_append before _) with hshort | hlong
  · exact hshort
  · obtain ⟨rest, rfl⟩ := hlong
    rw [List.prefix_append_right_inj] at h
    cases rest with
    | nil => rw [List.append_nil]
    | cons c rest =>
      obtain ⟨rfl, -⟩ := List.cons_prefix_cons.1 h
      exact absurd (List.mem_append_right before List.mem_cons_self) hsep

theorem replaceFrom_of_le {skip : Nat} {cs : List Char} (h : skip ≤ cs.length) :
    replaceFrom old new skip cs = replaceFrom old new 0 (cs.drop skip) := by
  induction skip generalizing cs with
  | zero => rfl
  | succ skip ih =>
    cases cs with
    | nil => exact absurd h (Nat.not_succ_le_zero skip)
    | cons c cs =>
      rw [replaceFrom, List.drop_succ_cons]
      exact ih (Nat.le_of_succ_le_succ h)

/-- A character where no place starts is kept. -/
theorem replaceFrom_cons_of_not_starts (h : ¬ old <+: c :: cs) :
    replaceFrom old new 0 (c :: cs) = c :: replaceFrom old new 0 cs := by
  rw [replaceFrom]
  exact if_neg (mt List.isPrefixOf_iff_prefix.1 h)

/-- What stands in front of a separator and holds no place is kept. -/
theorem replaceFrom_append_cons (hsep : sep ∉ old) (hne : old ≠ []) (h : ¬ old <:+: before) :
    replaceFrom old new 0 (before ++ sep :: after) =
      before ++ sep :: replaceFrom old new 0 after := by
  induction before with
  | nil =>
    refine replaceFrom_cons_of_not_starts fun hstart => ?_
    have hnil : old <+: [] := prefix_of_prefix_append_cons hsep hstart
    exact hne (List.prefix_nil.1 hnil)
  | cons c before ih =>
    rw [List.infix_cons_iff, not_or] at h
    rw [List.cons_append, List.cons_append, replaceFrom_cons_of_not_starts, ih h.2]
    intro hstart
    exact h.1 (prefix_of_prefix_append_cons hsep hstart)

/-- What does not have the first character of a place is kept. -/
theorem replaceFrom_append_of_not_mem {first : Char} (hfirst : old.head? = some first)
    (h : first ∉ before) :
    replaceFrom old new 0 (before ++ after) = before ++ replaceFrom old new 0 after := by
  induction before with
  | nil => rfl
  | cons c before ih =>
    obtain ⟨hc, hbefore⟩ := not_or.1 (mt List.mem_cons.2 h)
    rw [List.cons_append, List.cons_append,
      replaceFrom_cons_of_not_starts (not_starts_of_ne hfirst hc), ih hbefore]

/-- A place at the start is filled. -/
theorem replaceFrom_append_self (hne : old ≠ []) (new after : List Char) :
    replaceFrom old new 0 (old ++ after) = new ++ replaceFrom old new 0 after := by
  cases old with
  | nil => exact absurd rfl hne
  | cons first old =>
    have hprefix : (first :: old).isPrefixOf (first :: (old ++ after)) = true :=
      List.isPrefixOf_iff_prefix.2 (List.prefix_append (first :: old) after)
    have hle : old.length ≤ (old ++ after).length := by
      rw [List.length_append]
      exact Nat.le_add_right _ _
    rw [List.cons_append, replaceFrom, if_pos hprefix, List.length_cons, Nat.add_sub_cancel,
      replaceFrom_of_le hle, List.drop_left]

theorem replaceFrom_self (hne : old ≠ []) (new : List Char) : replaceFrom old new 0 old = new := by
  have hfilled := replaceFrom_append_self hne new []
  rwa [List.append_nil, replaceFrom, List.append_nil] at hfilled

end CimSchema.Text
