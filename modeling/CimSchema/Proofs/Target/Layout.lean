import CimSchema.Proofs.Text.Wrap
import CimSchema.Target.Layout

/-!
# What stands in the lines of a text

## Main results

* `Indent.isBlank_of_mem_level` - indentation is blank.
* `infix_linesText_iff` - what has no line end stands in one of the lines.
* `infix_documentation_iff` - what has no blank stands in the lines of a documentation if it stands
  in the text.
-/

namespace CimSchema

theorem Indent.isBlank_of_mem_level {indent : Indent} {n : Nat} {c : Char}
    (hc : c ∈ (indent.level n).toList) : Text.isBlank c = true := by
  cases indent with
  | spaces count =>
    rw [level, String.toList_ofList] at hc
    rw [List.eq_of_mem_replicate hc]
    decide
  | tabs =>
    rw [level, String.toList_ofList] at hc
    rw [List.eq_of_mem_replicate hc]
    decide

@[simp]
theorem toList_linesText_nil : (linesText []).toList = [] := rfl

@[simp]
theorem toList_linesText_cons (line : String) (lines : List String) :
    (linesText (line :: lines)).toList = line.toList ++ '\n' :: (linesText lines).toList := by
  simp [linesText, String.join_cons]

theorem toList_linesText_append (lines lines' : List String) :
    (linesText (lines ++ lines')).toList =
      (linesText lines).toList ++ (linesText lines').toList := by
  induction lines with
  | nil => rfl
  | cons line lines ih => simp [ih]

theorem isBlank_of_mem_getLast?_linesText {lines : List String} {c : Char}
    (h : c ∈ (linesText lines).toList.getLast?) : Text.isBlank c = true := by
  rcases List.eq_nil_or_concat' lines with rfl | ⟨front, line, rfl⟩
  · cases h
  · simp only [toList_linesText_append, toList_linesText_cons, toList_linesText_nil,
      ← List.append_assoc, List.getLast?_concat, Option.mem_some_iff] at h
    rw [← h]
    decide

section Infix

variable {part : List Char} {lines : List String}

/-- What has no line end stands in one of the lines. -/
theorem infix_linesText_iff (hne : part ≠ []) (hend : '\n' ∉ part) :
    part <:+: (linesText lines).toList ↔ ∃ line ∈ lines, part <:+: line.toList := by
  induction lines with
  | nil => simp [hne]
  | cons line lines ih => simp [Text.infix_append_cons_iff hne hend, ih]

/-- What has no blank and stands in no `lead` stands in the lines of a documentation if it stands in
the text. -/
theorem infix_documentation_iff (hpart : Text.IsWord part) {lead : String}
    (hlead : ∀ c ∈ lead.toList.getLast?, Text.isBlank c = true) (hnot : ¬ part <:+: lead.toList)
    (text : String) (indent : Indent) (level lineWidth : Nat) :
    part <:+: (linesText (documentation text lead indent level lineWidth)).toList ↔
      part <:+: text.toList := by
  have hend : '\n' ∉ part := hpart.not_mem (by decide)
  rw [infix_linesText_iff hpart.ne_nil hend, documentation, ← Text.exists_mem_wrap_iff hpart]
  simp only [List.mem_map, exists_exists_and_eq_and, String.toList_append]
  refine exists_congr fun line => and_congr_right fun _ => ?_
  have hblank : ∀ c ∈ (indent.level level).toList, Text.isBlank c = true :=
    fun _ => Indent.isBlank_of_mem_level
  rw [List.append_assoc, hpart.infix_append_iff fun c hc => hblank c (List.mem_of_mem_getLast? hc),
    or_iff_right (hpart.not_infix_of_blank hblank), hpart.infix_append_iff hlead, or_iff_right hnot]

end Infix

end CimSchema
